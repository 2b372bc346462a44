import WikiEntry.Proofs.Region.Exchange

/-!
# Respacing a text

Spaces, tabs and newlines are spacing.  The words that delimit regions neither begin nor end with spacing, and spacing
inside a tag may be any other, so that one run of spacing in a text is exchanged for another without notice.
-/

namespace WikiEntry

namespace Chars

def isSpacing (c : Char) : Bool :=
  c == ' ' || c == '\t' || c == '\n'

theorem isSpacing_iff {c : Char} : isSpacing c = true <-> c = ' ' ∨ c = '\t' ∨ c = '\n' := by
  rw [isSpacing, Bool.or_eq_true, Bool.or_eq_true, beq_iff_eq, beq_iff_eq, beq_iff_eq, or_assoc]

theorem isWord_of_isSpacing {c : Char} (h : isSpacing c = true) : isWord c = false := by
  rcases isSpacing_iff.mp h with rfl | rfl | rfl <;> decide

theorem isBlank_of_isSpacing {c : Char} (h : isSpacing c = true) : isBlank c = true := by
  rcases isSpacing_iff.mp h with rfl | rfl | rfl <;> decide

theorem variants_of_isSpacing {c : Char} (h : isSpacing c = true) : variants c = [c] := by
  rcases isSpacing_iff.mp h with rfl | rfl | rfl <;> decide

end Chars

namespace Text

/-- A run of spacing. -/
structure Spacing (b : Text) : Prop where
  ne_nil : b ≠ []
  isSpacing : forall c, c ∈ b -> Chars.isSpacing c = true

end Text

namespace Region

open Text (Spacing)

section Spacing

variable {a b b' c : Text}

theorem inert_of_spacing (hb : Spacing b) : Inert b := by
  have hsign : forall ch, Chars.isSpacing ch = true -> isTagSign ch = false := by
    intro ch hch
    rcases Chars.isSpacing_iff.mp hch with rfl | rfl | rfl <;> rfl
  have hangle : forall ch, isTagSign ch = true -> ch ∉ b := by
    intro ch hch hmem
    rw [hsign ch (hb.isSpacing ch hmem)] at hch
    cases hch
  refine ⟨?_, ?_, hangle _ rfl, hangle _ rfl⟩
  · rcases List.exists_cons_of_ne_nil hb.ne_nil with ⟨x, r, rfl⟩
    have hx := hb.isSpacing x List.mem_cons_self
    exact ⟨x, r, rfl, Chars.variants_of_isSpacing hx, Chars.isWord_of_isSpacing hx, hsign x hx⟩
  · rcases List.eq_nil_or_concat b with rfl | ⟨r, x, rfl⟩
    · exact absurd rfl hb.ne_nil
    · exact ⟨r, x, List.concat_eq_append, hsign x (hb.isSpacing x (by simp))⟩

theorem all_blank_of_spacing (hb : Spacing b) : b.all (CharSet.anyCase .blank).holds = true := by
  refine List.all_eq_true.mpr fun ch hch => ?_
  rcases Chars.isSpacing_iff.mp (hb.isSpacing ch hch) with rfl | rfl | rfl <;> decide

/-- Spacing behind which an angle bracket may stand, but nothing else than blanks, is trimmed with them. -/
theorem isSelfClosing_append (hb : Spacing b) (w₁ w₂ : Text) :
    isSelfClosing (w₁ ++ (b ++ w₂)) =
      if (w₂.trimRightBy (· == '>')).all Chars.isBlank then (Text.trimRight w₁).endsWith "/"
      else (Text.trimRight (w₂.trimRightBy (· == '>'))).endsWith "/" := by
  have hblank : forall {y : Text}, (forall ch, ch ∈ y -> ch ∈ b) -> Text.trimRight (w₁ ++ y) = Text.trimRight w₁ := by
    intro y hy
    refine Text.trimRightBy_append_of_all (List.all_eq_true.mpr fun ch hch => ?_)
    exact Chars.isBlank_of_isSpacing (hb.isSpacing ch (hy ch hch))
  have hbrackets : b.all (· == '>') = false := by
    rcases List.exists_cons_of_ne_nil hb.ne_nil with ⟨ch, b, rfl⟩
    refine Bool.eq_false_iff.mpr fun hall => ?_
    have heq := List.all_eq_true.mp hall ch List.mem_cons_self
    have hspacing := hb.isSpacing ch List.mem_cons_self
    rw [beq_iff_eq.mp heq] at hspacing
    cases hspacing
  rw [isSelfClosing, ← List.append_assoc]
  cases hw : w₂.all (· == '>') with
  | true =>
      rw [Text.trimRightBy_append_of_all hw, Text.trimRightBy_append_of_not_all hbrackets,
        Text.trimRightBy_eq_nil_iff.mpr hw, hblank fun ch hch => ?_]
      · rfl
      · rw [← Text.trimRightBy_append b (· == '>')]
        exact List.mem_append_left _ hch
  | false =>
      rw [Text.trimRightBy_append_of_not_all hw]
      cases hy : (w₂.trimRightBy (· == '>')).all Chars.isBlank with
      | true =>
          rw [Text.trimRight, Text.trimRightBy_append_of_all hy, ← Text.trimRight, hblank fun _ h => h]
          rfl
      | false =>
          rw [Text.trimRight, Text.trimRightBy_append_of_not_all hy, endsWith_slash_append]
          · rfl
          · intro hnil
            rw [Text.trimRightBy_eq_nil_iff.mp hnil] at hy
            cases hy

/-- Exchanging spacing leaves alone all words that delimit ignored regions. -/
theorem neutral_of_spacing (hb : Spacing b) (hb' : Spacing b') : Neutral a b b' c := by
  refine (inert_of_spacing hb).neutral (inert_of_spacing hb') ?_ fun w₁ w₂ => ?_
  · rw [all_blank_of_spacing hb, all_blank_of_spacing hb']
  · rw [isSelfClosing_append hb, isSelfClosing_append hb']

end Spacing

end Region
end WikiEntry
