import WikiEntry.Section.Basic
import WikiEntry.Proofs.Error

/-!
# Sound sections

A section has a level from 1 to 6, and one that carries a language has level 2.  Every way to make a section
gives a sound one, and every way to change one keeps it sound.
-/

namespace WikiEntry
namespace Section

structure Sound (s : Section) : Prop where
  one_le_level : 1 ≤ s.level
  level_le_six : s.level ≤ 6
  level_of_isLanguage : s.isLanguage = true -> s.level = 2

theorem sound_iff {s : Section} :
    s.Sound <-> 1 ≤ s.level ∧ s.level ≤ 6 ∧ (s.isLanguage = true -> s.level = 2) :=
  ⟨fun h => ⟨h.one_le_level, h.level_le_six, h.level_of_isLanguage⟩, fun h => ⟨h.1, h.2.1, h.2.2⟩⟩

instance (s : Section) : Decidable s.Sound :=
  decidable_of_iff _ sound_iff.symm

theorem sound_default : Sound (default : Section) where
  one_le_level := by decide
  level_le_six := by decide
  level_of_isLanguage := by decide

/-!
# Making sections
-/

theorem checkLevel_eq_ok_iff {level : Nat} : checkLevel level = .ok () <-> 1 ≤ level ∧ level ≤ 6 := by
  by_cases h : 1 ≤ level ∧ level ≤ 6
  · simp [checkLevel, h]
  · simp [checkLevel, h]

theorem sound_ofHeader {header : Text} {level : Nat} {s : Section} (h : ofHeader header level = .ok s) :
    s.Sound := by
  rcases exists_of_bind_eq_ok h with ⟨_, hc, h⟩
  cases h
  rcases checkLevel_eq_ok_iff.mp hc with ⟨hpos, hle⟩
  exact ⟨hpos, hle, fun hl => by cases hl⟩

theorem sound_ofLanguage (c : Config) (code : Text) : (ofLanguage c code).Sound where
  one_le_level := Nat.le_add_left 1 1
  level_le_six := Nat.le_add_left 2 4
  level_of_isLanguage := fun _ => rfl

/-- A section that was read has the header of the first line and the body of the rest, and carries a language
only on level 2. -/
theorem read_eq_ok {c : Config} {t : Text} {s : Section} (h : read c t = .ok s) :
    HeaderLine.read (headAndBody t).1 = .ok s.line ∧ s.body = (headAndBody t).2 ∧
      (s.isLanguage = true -> s.level = 2) := by
  rcases exists_of_bind_eq_ok h with ⟨line, hline, h⟩
  by_cases htwo : line.level = 2
  · simp only [if_pos htwo] at h
    rcases exists_of_bind_eq_ok h with ⟨language, _, h⟩
    cases h
    exact ⟨hline, rfl, fun _ => htwo⟩
  · simp only [if_neg htwo] at h
    cases h
    exact ⟨hline, rfl, fun hl => by cases hl⟩

theorem exists_ofLevel?_of_read {line : Text} {h : HeaderLine} (hread : HeaderLine.read line = .ok h) :
    exists level, level ∈ HeaderLine.levels ∧ HeaderLine.ofLevel? line level = some h := by
  unfold HeaderLine.read at hread
  cases hfound : HeaderLine.levels.findSome? (HeaderLine.ofLevel? line) with
  | none =>
      rw [hfound] at hread
      cases hread
  | some h' =>
      rw [hfound] at hread
      cases hread
      exact List.exists_of_findSome?_eq_some hfound

/-- The level that a header line is read with is one of those that are tried. -/
theorem level_mem_levels {line : Text} {h : HeaderLine} (hread : HeaderLine.read line = .ok h) :
    h.level ∈ HeaderLine.levels := by
  rcases exists_ofLevel?_of_read hread with ⟨level, hmem, heq⟩
  rcases Option.map_eq_some_iff.mp heq with ⟨m, _, rfl⟩
  exact hmem

theorem sound_read {c : Config} {t : Text} {s : Section} (h : read c t = .ok s) : s.Sound := by
  rcases read_eq_ok h with ⟨hline, _, htwo⟩
  have hlevel := level_mem_levels hline
  have hbounds : 1 ≤ s.line.level ∧ s.line.level ≤ 6 := by
    simp only [HeaderLine.levels, List.mem_cons, List.not_mem_nil, or_false] at hlevel
    omega
  exact ⟨hbounds.1, hbounds.2, htwo⟩

/-!
# Changing sections
-/

theorem Sound.withBody {s : Section} (h : s.Sound) (b : Body) : Sound { s with body := b } :=
  ⟨h.one_le_level, h.level_le_six, h.level_of_isLanguage⟩

theorem Sound.setHeader {s : Section} (h : s.Sound) (c : Config) (header : Text) :
    (s.setHeader c header).Sound := by
  refine ⟨h.one_le_level, h.level_le_six, fun hl => ?_⟩
  by_cases htwo : s.level = 2
  · exact htwo
  · simp [Section.setHeader, isLanguage, htwo] at hl

theorem Sound.updateLanguage {s : Section} (h : s.Sound) (f : LanguageHeader -> LanguageHeader) :
    (s.updateLanguage f).Sound := by
  unfold Section.updateLanguage
  cases hl : s.language? with
  | none => exact h
  | some language =>
      have htwo : s.level = 2 := h.level_of_isLanguage (by simp [isLanguage, hl])
      exact ⟨h.one_le_level, h.level_le_six, fun _ => htwo⟩

theorem sound_setLevel {s t : Section} {level : Nat} (h : s.setLevel level = .ok t) : t.Sound ∧ t.level = level := by
  rcases exists_of_bind_eq_ok h with ⟨_, hc, h⟩
  cases h
  rcases checkLevel_eq_ok_iff.mp hc with ⟨hpos, hle⟩
  refine ⟨⟨hpos, hle, fun hl => ?_⟩, rfl⟩
  show level = 2
  by_cases htwo : level = 2
  · exact htwo
  · simp [isLanguage, htwo] at hl

end Section
end WikiEntry
