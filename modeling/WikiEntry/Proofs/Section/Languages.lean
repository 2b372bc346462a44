import WikiEntry.Proofs.Section.Sound
import WikiEntry.Proofs.Template.RoundTrip

/-!
# Language sections and their headers

The header of a language section is kept twice, as the text that is printed and as the template that the text was
read as.  Every way to make a section gives both the same wording, and every change to a section rewrites both or drops
the template: a new header is read again, a change of the language is printed, and off level 2 nothing is a language.
-/

namespace WikiEntry

/-- A change to a section by itself. -/
inductive SectionChange where
  | setHeader (c : Config) (header : Text)
  | setIntro (t : Text)
  | setLevel (level : Nat)
  | setLanguageCode (c : Config) (code : Text)
  | setLanguageParam (key value : Text)
  | removeLanguageParam (key : Text)
  | setLeading (n : Nat)
  | setTrailing (n : Nat)
  | setFormat (format : HeaderFormat)

/-- What a change makes of a section; a level out of range is refused and leaves it as it was. -/
def SectionChange.run (s : Section) : SectionChange -> Section
  | setHeader c header => s.setHeader c header
  | setIntro t => s.setIntro t
  | setLevel level => (s.setLevel level).toOption.getD s
  | setLanguageCode c code => s.setLanguageCode c code
  | setLanguageParam key value => s.setLanguageParam key value
  | removeLanguageParam key => s.removeLanguageParam key
  | setLeading n => s.setLeading n
  | setTrailing n => s.setTrailing n
  | setFormat format => s.setFormat format

namespace Section

inductive Reachable : Section -> Prop where
  | read {c : Config} {t : Text} {s : Section} : Section.read c t = .ok s -> Reachable s
  | ofHeader {header : Text} {level : Nat} {s : Section} : Section.ofHeader header level = .ok s -> Reachable s
  | ofLanguage (c : Config) (code : Text) : Reachable (Section.ofLanguage c code)
  | change {s : Section} (x : SectionChange) : Reachable s -> Reachable (x.run s)

/-- A section that carries a language has the text of its template as header. -/
def HeaderAgrees (s : Section) : Prop :=
  forall language, s.language? = some language -> s.header = language.render

/-!
# Reading
-/

/-- A header that is read as a language is printed as it stands. -/
theorem render_of_read_language {c : Config} {header : Text} {language : LanguageHeader}
    (h : LanguageHeader.read c header = .ok (some language)) : language.render = header := by
  unfold LanguageHeader.read at h
  split at h
  · rename_i template _ hparse
    dsimp only at h
    split at h
    · cases h
    · cases h
      rcases Template.parse?_eq_some_iff.mp hparse with ⟨body, rfl, _, rfl⟩
      exact Template.render_ofBody body
  · cases h

theorem headerAgrees_read {c : Config} {t : Text} {s : Section} (h : read c t = .ok s) : s.HeaderAgrees := by
  intro language hlanguage
  rcases exists_of_bind_eq_ok h with ⟨line, _, h⟩
  by_cases htwo : line.level = 2
  · simp only [if_pos htwo] at h
    rcases exists_of_bind_eq_ok h with ⟨language', hread, h⟩
    cases h
    cases hlanguage
    exact (render_of_read_language hread).symm
  · simp only [if_neg htwo] at h
    cases h
    cases hlanguage

theorem headerAgrees_ofHeader {header : Text} {level : Nat} {s : Section} (h : ofHeader header level = .ok s) :
    s.HeaderAgrees := by
  intro language hlanguage
  rcases exists_of_bind_eq_ok h with ⟨_, _, h⟩
  cases h
  cases hlanguage

theorem headerAgrees_ofLanguage (c : Config) (code : Text) : (ofLanguage c code).HeaderAgrees := by
  intro language hlanguage
  cases hlanguage
  rfl

/-!
# Changes
-/

section Changes

variable {s : Section}

theorem headerAgrees_setHeader (c : Config) (header : Text) : (s.setHeader c header).HeaderAgrees := by
  intro language hlanguage
  by_cases htwo : s.level = 2
  · simp only [Section.setHeader, if_pos htwo] at hlanguage
    cases hread : LanguageHeader.read c header.trim with
    | error e =>
        rw [hread] at hlanguage
        cases hlanguage
    | ok language' =>
        rw [hread] at hlanguage
        cases hlanguage
        exact (render_of_read_language hread).symm
  · simp only [Section.setHeader, if_neg htwo] at hlanguage
    cases hlanguage

theorem HeaderAgrees.setLevel (h : s.HeaderAgrees) (level : Nat) :
    ((s.setLevel level).toOption.getD s).HeaderAgrees := by
  cases hset : s.setLevel level with
  | error e => exact h
  | ok t =>
      rcases exists_of_bind_eq_ok hset with ⟨_, _, hset⟩
      cases hset
      intro language hlanguage
      apply h language
      by_cases htwo : level = 2
      · simpa [Except.toOption, htwo] using hlanguage
      · simp [Except.toOption, htwo] at hlanguage

theorem HeaderAgrees.updateLanguage (h : s.HeaderAgrees) (f : LanguageHeader -> LanguageHeader) :
    (s.updateLanguage f).HeaderAgrees := by
  unfold Section.updateLanguage
  cases hl : s.language? with
  | none => exact h
  | some language =>
      intro language' hlanguage'
      cases hlanguage'
      rfl

theorem HeaderAgrees.removeLanguageParam (h : s.HeaderAgrees) (key : Text) :
    (s.removeLanguageParam key).HeaderAgrees := by
  unfold Section.removeLanguageParam
  split
  · exact h.updateLanguage _
  · exact h

theorem HeaderAgrees.run (h : s.HeaderAgrees) (x : SectionChange) : (x.run s).HeaderAgrees := by
  cases x with
  | setHeader c header => exact headerAgrees_setHeader c header
  | setLevel level => exact h.setLevel level
  | setLanguageCode c code => exact h.updateLanguage _
  | setLanguageParam key value => exact h.updateLanguage _
  | removeLanguageParam key => exact h.removeLanguageParam key
  | setIntro t => exact h
  | setLeading n => exact h
  | setTrailing n => exact h
  | setFormat format => exact h

theorem Sound.run (h : s.Sound) (x : SectionChange) : (x.run s).Sound := by
  cases x with
  | setHeader c header => exact h.setHeader c header
  | setLevel level =>
      show ((s.setLevel level).toOption.getD s).Sound
      cases hset : s.setLevel level with
      | error e => exact h
      | ok t => exact (sound_setLevel hset).1
  | setLanguageCode c code => exact h.updateLanguage _
  | setLanguageParam key value => exact h.updateLanguage _
  | removeLanguageParam key =>
      show (s.removeLanguageParam key).Sound
      unfold Section.removeLanguageParam
      split
      · exact h.updateLanguage _
      · exact h
  | setIntro t => exact h.withBody _
  | setLeading n => exact h.withBody _
  | setTrailing n => exact h.withBody _
  | setFormat format => exact ⟨h.one_le_level, h.level_le_six, h.level_of_isLanguage⟩

end Changes

/-!
# Every reachable section
-/

theorem Reachable.sound {s : Section} (h : s.Reachable) : s.Sound := by
  induction h with
  | read hread => exact sound_read hread
  | ofHeader hmade => exact sound_ofHeader hmade
  | ofLanguage c code => exact sound_ofLanguage c code
  | change x _ ih => exact ih.run x

theorem Reachable.headerAgrees {s : Section} (h : s.Reachable) : s.HeaderAgrees := by
  induction h with
  | read hread => exact headerAgrees_read hread
  | ofHeader hmade => exact headerAgrees_ofHeader hmade
  | ofLanguage c code => exact headerAgrees_ofLanguage c code
  | change x _ ih => exact ih.run x

/-- Whatever was done to a section, if it is a language section it stands on level 2 and its header is the text of its
language template. -/
theorem Reachable.level_and_header_of_language {s : Section} (h : s.Reachable) {language : LanguageHeader}
    (hlanguage : s.language? = some language) : s.level = 2 ∧ s.header = language.render := by
  constructor
  · apply h.sound.level_of_isLanguage
    rw [isLanguage, hlanguage]
    rfl
  · exact h.headerAgrees language hlanguage

theorem Reachable.foldl {s : Section} (h : s.Reachable) (changes : List SectionChange) :
    (changes.foldl SectionChange.run s).Reachable := by
  induction changes generalizing s with
  | nil => exact h
  | cons x changes ih => exact ih (.change x h)

/-- A section that stops being a language and becomes another one, with blanks in the template and a parameter that is
removed. -/
def languageChanges : List SectionChange :=
  [.setLevel 3, .setLevel 2, .setHeader .builtin " \x7b\x7b lengua |es|dat=b\x7d\x7d", .setLanguageCode .builtin " fr",
    .setLanguageParam "alt" "a", .removeLanguageParam "dat"]

theorem level_and_header_of_language_reread :
    exists s : Section, s.Reachable ∧
      s.language? = some ⟨⟨" lengua ", [.positional 1 "fr", .named "alt" "a"]⟩, .plain, "francés"⟩ ∧
        s.level = 2 ∧ s.header = "\x7b\x7b lengua |fr|alt=a\x7d\x7d" := by
  have hfacts : (Section.read .builtin "==\x7b\x7blengua|ES\x7d\x7d==").map
      (fun s => (languageChanges.foldl SectionChange.run s).language?) =
        .ok (some ⟨⟨" lengua ", [.positional 1 "fr", .named "alt" "a"]⟩, .plain, "francés"⟩) := by
    decide +kernel
  rcases exists_of_map_eq_ok hfacts with ⟨s, hread, hlanguage⟩
  have hreachable : (languageChanges.foldl SectionChange.run s).Reachable := (Reachable.read hread).foldl languageChanges
  exact ⟨_, hreachable, hlanguage, hreachable.level_and_header_of_language hlanguage⟩

end Section
end WikiEntry
