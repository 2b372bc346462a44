import WikiEntry.Proofs.Error
import WikiEntry.Proofs.Page.HeaderLines
import WikiEntry.Proofs.Page.RoundTrip
import WikiEntry.Proofs.Pattern.Between
import WikiEntry.Proofs.Pattern.Complete

/-!
# The two readings of a header line

A page is cut at lines that one pattern tells, and each of them is read as a header by other patterns, one for every
level.  What the first pattern reads between the outermost equals signs the pattern of level 1 reads as the header, and
what follows as comments and blanks.  So the lines that begin a section are read as headers, and the only fault that a
text can have is a language header without a code.
-/

namespace WikiEntry

namespace HeaderLine

open Pattern

/-!
# What follows the signs
-/

/-- The comments and blanks at the end of a header line. -/
def tail : Pattern :=
  .rounds (.alt comment (.some1 .blank))

theorem readsBetween_tail_of_blanks {k k' : Cursor} {u v r : Text} (hrest : k.rest = u ++ r)
    (hblank : forall c, c ∈ u -> CharSet.blank.holds c = true) (hv : ReadsBetween tail (k.skip u) v k') :
    ReadsBetween tail k (u ++ v) k' := by
  cases u with
  | nil => exact hv
  | cons c u =>
      have hround : ReadsBetween (.some1 .blank) k (c :: u) (k.skip (c :: u)) :=
        ReadsBetween.run true hrest hblank (Nat.succ_le_succ (Nat.zero_le _))
      exact (hround.altRight comment).loopMore false hv

theorem readsBetween_tail_of_comments {atLeastOnce : Bool} {s t : ReadState} {u v : Text} {k : Cursor}
    (hu : Reads (.loop true atLeastOnce comment) s u t) (hv : ReadsBetween tail t.cursor v k) :
    ReadsBetween tail s.cursor (u ++ v) k :=
  hu.loop_front (fun _ _ _ hround => hround.readsBetween.altLeft _) hv

/-- Blanks, and comments with blanks behind them. -/
theorem readsBetween_tail {s t x : ReadState} {u v : Text} (hu : Reads .blanks s u t)
    (hv : Reads (.maybe (.rounds1 comment ++ .blanks)) t v x) : ReadsBetween tail s.cursor (u ++ v) x.cursor := by
  have hblanks : forall {s t : ReadState} {u v : Text} {k : Cursor}, Reads .blanks s u t ->
      ReadsBetween tail t.cursor v k -> ReadsBetween tail s.cursor (u ++ v) k := by
    intro s t u v k hu hv
    rcases hu.run_inv with ⟨hblank, _, heq⟩
    rw [heq] at hv
    exact readsBetween_tail_of_blanks hu.advances.1 hblank hv
  apply hblanks hu
  cases hv with
  | optNone t => exact ReadsBetween.loopNone _ _ _
  | optSome hsome =>
      rcases hsome.seq_inv with ⟨w, b, y, rfl, hcomments, hb⟩
      apply readsBetween_tail_of_comments hcomments
      have hend := hblanks hb (ReadsBetween.loopNone true (.alt comment (.some1 .blank)) x.cursor)
      rwa [List.append_nil] at hend

/-!
# What stands between the outermost signs
-/

theorem exists_of_reads_signed {s t : ReadState} {w : Text}
    (h : Reads (.run true 1 (some 6) (.char '=') ++ .few1 .inLine ++ .run true 1 (some 6) (.char '=')) s w t) :
    exists body, w = '=' :: body ++ ['='] ∧ body ≠ [] ∧ forall c, c ∈ body -> CharSet.inLine.holds c = true := by
  rcases h.seq_inv with ⟨opened, closing, y, rfl, hopened, hclosing⟩
  rcases hopened.seq_inv with ⟨opening, middle, x, rfl, hopening, hmiddle⟩
  rcases hopening.run_inv with ⟨hopening, hfirst, _⟩
  rcases hmiddle.run_inv with ⟨hmiddle, hsome, _⟩
  rcases hclosing.run_inv with ⟨hclosing, hlast, _⟩
  have hsign : forall c, (CharSet.char '=').holds c = true -> CharSet.inLine.holds c = true := by
    intro c hc
    rw [← beq_iff_eq.mp hc]
    decide
  cases opening with
  | nil => cases hfirst
  | cons c opening =>
      rcases List.eq_nil_or_concat closing with rfl | ⟨closing, d, rfl⟩
      · cases hlast
      · rw [← beq_iff_eq.mp (hopening c List.mem_cons_self),
          ← beq_iff_eq.mp (hclosing d (by simp))]
        refine ⟨opening ++ middle ++ closing, by simp, ?_, ?_⟩
        · intro hnil
          have hempty : middle = [] := (List.append_eq_nil_iff.mp (List.append_eq_nil_iff.mp hnil).1).2
          rw [hempty] at hsome
          cases hsome
        · intro e he
          rcases List.mem_append.mp he with he | he
          · rcases List.mem_append.mp he with he | he
            · exact hsign e (hopening e (List.mem_cons_of_mem c he))
            · exact hmiddle e he
          · exact hsign e (hclosing e (by simp [he]))

/-- A sign, the header and a sign, read by the pattern of level 1. -/
theorem readsBetween_signed {k : Cursor} {body r : Text} (hrest : k.rest = '=' :: body ++ ['='] ++ r)
    (hbody : body ≠ []) (hline : forall c, c ∈ body -> CharSet.inLine.holds c = true) :
    exists k' k'', ReadsBetween (signs 1) k ['='] k' ∧ ReadsBetween (.some1 .inLine) k' body k'' ∧
      ReadsBetween (signs 1) k'' ['='] (k.skip ('=' :: body ++ ['='])) := by
  have hopened : k.rest = ['='] ++ (body ++ ('=' :: r)) := by
    rw [hrest]
    simp
  have hmiddle : (k.skip ['=']).rest = body ++ ('=' :: r) := Cursor.rest_skip hopened
  have hclosing : ((k.skip ['=']).skip body).rest = '=' :: r := Cursor.rest_skip hmiddle
  refine ⟨k.skip ['='], (k.skip ['=']).skip body, ReadsBetween.one _ hopened rfl,
    ReadsBetween.run true hmiddle hline (List.length_pos_iff.mpr hbody), ?_⟩
  have hlast := ReadsBetween.one (.char '=') hclosing rfl
  rwa [Cursor.skip_append, Cursor.skip_append] at hlast

/-!
# Header lines of a page
-/

/-- A line that begins a section is read as a header, at level 1 if at no deeper one. -/
theorem exists_read_of_headerLine {line : Text} {m : Match} (hm : Page.headerLine.find? line = some m) :
    exists h, read line = .ok h := by
  rcases reads_of_find?_whole hm with ⟨s, hread, _, _⟩
  rcases hread.seq_inv with ⟨front, after, t, rfl, hfront, hafter⟩
  rcases hfront.seq_inv with ⟨front, blanks, x, rfl, hfront, hblanks⟩
  rcases hfront.seq_inv with ⟨comments, signed, y, rfl, hcomments, hgroup⟩
  rcases hgroup.group_inv with ⟨z, hsigned, hclose⟩
  rcases exists_of_reads_signed hsigned with ⟨body, rfl, hbody, hline⟩
  rcases readsBetween_signed hgroup.advances.1 hbody hline with ⟨k, k', hopening, hmiddle, hclosing⟩
  rw [← hgroup.cursor_eq] at hclosing
  rcases (((hcomments.readsBetween.group 1).seq hopening).seq (hmiddle.group 2)).seq hclosing |>.seq
    ((readsBetween_tail hblanks hafter).group 3) [] with ⟨gs, hpattern⟩
  have hwhole : comments ++ ['='] ++ body ++ ['='] ++ (blanks ++ after) =
      comments ++ ('=' :: body ++ ['=']) ++ blanks ++ after := by simp
  rw [hwhole] at hpattern
  have hlevel : (levels.findSome? (ofLevel? (comments ++ ('=' :: body ++ ['=']) ++ blanks ++ after))).isSome = true := by
    rw [List.findSome?_isSome_iff]
    refine ⟨1, by decide, ?_⟩
    rw [ofLevel?, Option.isSome_map]
    exact isSome_find?_whole (by decide) hpattern
  rcases Option.isSome_iff_exists.mp hlevel with ⟨h, hh⟩
  exact ⟨h, by rw [read, hh]⟩

end HeaderLine

namespace LanguageHeader

/-!
# Language headers without a code
-/

/-- A language template whose first parameter is missing or blank. -/
def LacksCode (header : Text) : Prop :=
  pattern.matchesIn header = true ∧ exists template, Template.parse? header = some template ∧
    forall param, template.find? "1" = some param -> param.value.isBlank = true

theorem code_isEmpty_iff (template : Template) :
    ((template.get? "1").getD []).isEmpty = true <->
      forall param, template.find? "1" = some param -> param.value.isBlank = true := by
  rw [Template.get?]
  cases template.find? "1" with
  | none =>
      constructor
      · intro _ param hparam
        cases hparam
      · exact fun _ => rfl
  | some param =>
      rw [Option.map_some, Option.getD_some, List.isEmpty_iff, Text.trim_eq_nil_iff]
      constructor
      · intro hblank param' hparam
        cases hparam
        exact hblank
      · intro h
        exact h param rfl

theorem read_eq_error_iff {c : Config} {header : Text} {e : EntryError} :
    read c header = .error e <-> LacksCode header ∧ e = .structural (.languageWithoutCode header) := by
  unfold read LacksCode Pattern.matchesIn
  cases hmatch : pattern.find? header with
  | none => simp
  | some m =>
      cases hparse : Template.parse? header with
      | none => simp
      | some template =>
          by_cases hempty : ((template.get? "1").getD []).isEmpty = true
          · have hlacks := (code_isEmpty_iff template).mp hempty
            simp only [if_pos hempty]
            constructor
            · intro h
              cases h
              exact ⟨⟨rfl, template, rfl, hlacks⟩, rfl⟩
            · rintro ⟨_, rfl⟩
              rfl
          · simp only [if_neg hempty]
            constructor
            · intro h
              cases h
            · rintro ⟨⟨_, _, htemplate, hlacks⟩, _⟩
              cases htemplate
              exact absurd ((code_isEmpty_iff template).mpr hlacks) hempty

end LanguageHeader

namespace Section

/-- A section text with a header of level 2 that is a language template without a code. -/
def LacksCode (t header : Text) : Prop :=
  exists line, HeaderLine.read (headAndBody t).1 = .ok line ∧ line.level = 2 ∧ line.header = header ∧
    LanguageHeader.LacksCode header

/-- Behind a header line only the language of a level 2 header is left to read. -/
theorem read_of_line (c : Config) {t : Text} {line : HeaderLine}
    (hline : HeaderLine.read (headAndBody t).1 = .ok line) :
    read c t = if line.level = 2
      then (LanguageHeader.read c line.header).map fun language => ⟨line, (headAndBody t).2, language⟩
      else .ok ⟨line, (headAndBody t).2, none⟩ := by
  rw [read, hline]
  by_cases htwo : line.level = 2
  · rw [if_pos htwo]
    cases hlanguage : LanguageHeader.read c line.header with
    | error e => simp [bind, Except.bind, Except.map, htwo, hlanguage]
    | ok language => simp [bind, Except.bind, pure, Except.pure, Except.map, htwo, hlanguage]
  · simp [bind, Except.bind, pure, Except.pure, htwo]

theorem read_eq_error_iff {c : Config} {t : Text} {line : HeaderLine}
    (hline : HeaderLine.read (headAndBody t).1 = .ok line) {e : EntryError} :
    read c t = .error e <-> exists header, LacksCode t header ∧ e = .structural (.languageWithoutCode header) := by
  have hmap : ((LanguageHeader.read c line.header).map fun language => (⟨line, (headAndBody t).2, language⟩ : Section)) =
      .error e <-> LanguageHeader.read c line.header = .error e := by
    cases LanguageHeader.read c line.header <;> simp [Except.map]
  rw [read_of_line c hline]
  constructor
  · intro h
    by_cases htwo : line.level = 2
    · rw [if_pos htwo, hmap, LanguageHeader.read_eq_error_iff] at h
      exact ⟨line.header, ⟨line, hline, htwo, rfl, h.1⟩, h.2⟩
    · rw [if_neg htwo] at h
      cases h
  · rintro ⟨_, ⟨line', hline', htwo, rfl, hlacks⟩, heq⟩
    cases hline.symm.trans hline'
    rw [if_pos htwo, hmap, LanguageHeader.read_eq_error_iff]
    exact ⟨hlacks, heq⟩

end Section

namespace Page

/-!
# Texts that cannot be read
-/

/-- The texts that the sections of a page are read from. -/
def sectionPieces (t : Text) : List Text :=
  dropNewlines (chunks (Region.sanitizeBlanks t)).2

theorem find?_of_mem_headerLines {t line : Text} (hline : line ∈ headerLines (markedLines t)) :
    exists m, headerLine.find? line = some m := by
  rcases List.mem_map.mp hline with ⟨⟨begins, l⟩, hmem, rfl⟩
  rcases List.mem_filter.mp hmem with ⟨hmem, hbegins⟩
  rcases List.mem_map.mp hmem with ⟨⟨place, l⟩, _, heq⟩
  cases heq
  cases hfind : headerLine.find? l with
  | none => simp [beginsSection, hfind] at hbegins
  | some m => exact ⟨m, rfl⟩

/-- Every section text begins with a line that is read as a header. -/
theorem exists_read_of_mem_sectionPieces {t piece : Text} (hpiece : piece ∈ sectionPieces t) :
    exists line, HeaderLine.read (Section.headAndBody piece).1 = .ok line := by
  rw [sectionPieces, dropNewlines_chunks] at hpiece
  rcases List.mem_map.mp hpiece with ⟨ls, hls, rfl⟩
  have hhead : ls.head? ∈ (headerLines (markedLines (Region.sanitizeBlanks t))).map some := by
    rw [← head?_groups]
    exact List.mem_map_of_mem hls
  rcases List.mem_map.mp hhead with ⟨line, hline, heq⟩
  rcases List.head?_eq_some_iff.mp heq.symm with ⟨rest, rfl⟩
  rw [Section.fst_headAndBody_joinWith (newline_not_mem_of_mem_groups hls line List.mem_cons_self)]
  rcases find?_of_mem_headerLines hline with ⟨m, hm⟩
  exact HeaderLine.exists_read_of_headerLine hm

theorem sectionPieces_nil : sectionPieces [] = [] := by
  rw [sectionPieces, sanitizeBlanks_nil, dropNewlines_chunks, List.map_eq_nil_iff]
  apply List.map_eq_nil_iff (f := List.head?).mp
  rw [head?_groups, headerLines_nil]
  rfl

theorem read_eq_error_iff {c : Config} {title t : Text} {e : EntryError} :
    read c title t = .error e <-> (sectionPieces t).mapM (Section.read c) = .error e := by
  unfold read
  by_cases ht : t = []
  · rw [ht, sectionPieces_nil]
    exact ⟨nofun, nofun⟩
  · rw [if_neg (by simpa using ht)]
    show (sectionPieces t).mapM (Section.read c) >>= _ = _ <-> _
    cases (sectionPieces t).mapM (Section.read c) with
    | error e' =>
        constructor
        · intro h
          cases h
          rfl
        · intro h
          cases h
          rfl
    | ok sections => exact ⟨nofun, nofun⟩

/-- Each line that a text is cut at is read as a header, and the text cannot be read as a page exactly when some section
text has a language header on level 2 that lacks a code; the fault is told with that header. -/
theorem read_fails_iff (c : Config) (title t : Text) :
    (forall piece, piece ∈ sectionPieces t ->
      exists line, HeaderLine.read (Section.headAndBody piece).1 = .ok line) ∧
      (forall line, read c title t ≠ .error (.structural (.notAHeader line))) ∧
      ((exists e, read c title t = .error e) <->
        exists piece, piece ∈ sectionPieces t ∧ exists header, Section.LacksCode piece header) ∧
      forall e, read c title t = .error e -> exists piece header, piece ∈ sectionPieces t ∧
        Section.LacksCode piece header ∧ e = .structural (.languageWithoutCode header) := by
  have hfault : forall e, read c title t = .error e -> exists piece header, piece ∈ sectionPieces t ∧
      Section.LacksCode piece header ∧ e = .structural (.languageWithoutCode header) := by
    intro e h
    rcases exists_of_mapM_eq_error (read_eq_error_iff.mp h) with ⟨piece, hpiece, herror⟩
    rcases exists_read_of_mem_sectionPieces hpiece with ⟨line, hline⟩
    rcases (Section.read_eq_error_iff hline).mp herror with ⟨header, hlacks, heq⟩
    exact ⟨piece, header, hpiece, hlacks, heq⟩
  refine ⟨fun _ => exists_read_of_mem_sectionPieces, ?_, ⟨?_, ?_⟩, hfault⟩
  · intro line h
    rcases hfault _ h with ⟨_, _, _, _, heq⟩
    cases heq
  · rintro ⟨e, h⟩
    rcases hfault e h with ⟨piece, header, hpiece, hlacks, _⟩
    exact ⟨piece, hpiece, header, hlacks⟩
  · rintro ⟨piece, hpiece, header, hlacks⟩
    rcases exists_read_of_mem_sectionPieces hpiece with ⟨line, hline⟩
    have herror := (Section.read_eq_error_iff (c := c) hline).mpr ⟨header, hlacks, rfl⟩
    rcases exists_mapM_eq_error hpiece herror with ⟨e, he⟩
    exact ⟨e, read_eq_error_iff.mpr he⟩

end Page
end WikiEntry
