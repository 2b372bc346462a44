import WikiEntry.Proofs.Region.Exchange
import WikiEntry.Proofs.Region.Merging

/-!
# Text in front and behind

Text without the characters that delimiters are made of may be put in front of a text and behind it.  Then the regions are
those of the text, but for a comment that is never closed, which goes on to the new end.
-/

namespace WikiEntry
namespace Region

/-- Words begin in `t`, behind `x`. -/
def PadBegins (x t : Text) (i i' : Nat) : Prop :=
  i < t.length ∧ i' = x.length + i

/-- Words end in `t`, behind `x`; searches also begin in front of all, and regions end at the end of all. -/
def PadEnds (x t y : Text) (i i' : Nat) : Prop :=
  i' = x.length + i ∨ i = 0 ∧ i' = 0 ∨ i = t.length ∧ i' = (x ++ (t ++ y)).length

/-- A text that no word which delimits regions begins or ends in. -/
def Signless (x : Text) : Prop :=
  x.all (fun ch => !isTagSign ch) = true

section Padding

variable {word : Text -> Prop} {x t y u v w name : Text} {ch : Char}

theorem Signless.not_mem (hx : Signless x) (hch : isTagSign ch = true) : ch ∉ x := by
  intro hmem
  have hnot := List.all_eq_true.mp hx ch hmem
  rw [hch] at hnot
  cases hnot

theorem signless_of_all_isBlank (hx : x.all Chars.isBlank = true) : Signless x := by
  refine List.all_eq_true.mpr fun ch hch => ?_
  have hsigns : ['<', '!', '-', '/', '>'].all (fun ch => !Chars.isBlank ch) = true := by decide
  cases hsign : isTagSign ch with
  | false => rfl
  | true =>
      have hnot := List.all_eq_true.mp hsigns ch (List.contains_iff_mem.mp hsign)
      rw [List.all_eq_true.mp hx ch hch] at hnot
      cases hnot

theorem alignment_padded (x t y : Text) : Alignment (PadBegins x t) (PadEnds x t y) t (x ++ (t ++ y)) where
  zero := Or.inr (Or.inl ⟨rfl, rfl⟩)
  length := Or.inr (Or.inr ⟨rfl, rfl⟩)
  begins_le_iff := by
    unfold PadBegins
    omega
  ends_le_iff := by
    unfold PadBegins PadEnds
    simp only [List.length_append]
    omega

/-- A word that begins with no character of `x`, and ends with none of `y`, stands between them. -/
theorem exists_between (heq : x ++ (t ++ y) = u ++ (w ++ v)) (hw : w ≠ []) (hfirst : forall ch, w.head? = some ch -> ch ∉ x)
    (hlast : forall ch, w.getLast? = some ch -> ch ∉ y) : exists u' v', u = x ++ u' ∧ v = v' ++ y ∧ t = u' ++ (w ++ v') := by
  have hfront : exists u', u = x ++ u' ∧ t ++ y = u' ++ (w ++ v) := by
    rcases List.append_eq_append_iff.mp heq with ⟨d, hu, hrest⟩ | ⟨d, hx, hrest⟩
    · exact ⟨d, hu, hrest⟩
    · cases d with
      | nil => exact ⟨[], by simpa using hx.symm, by simpa using hrest.symm⟩
      | cons c d =>
          rcases List.exists_cons_of_ne_nil hw with ⟨c', w, rfl⟩
          refine absurd ?_ (hfirst c' rfl)
          rw [hx, ← (List.cons.inj hrest).1]
          simp
  rcases hfront with ⟨u', rfl, hrest⟩
  rw [← List.append_assoc] at hrest
  rcases List.append_eq_append_iff.mp hrest with ⟨d, hinside, hy⟩ | ⟨d, ht, hv⟩
  · rcases List.eq_nil_or_concat d with rfl | ⟨d, c, rfl⟩
    · exact ⟨u', [], rfl, by simpa using hy.symm, by simpa using hinside.symm⟩
    · refine absurd ?_ (hlast c ?_)
      · rw [hy]
        simp
      · have hends := congrArg List.getLast? hinside
        rw [List.getLast?_append_of_ne_nil _ hw, List.concat_eq_append, ← List.append_assoc, List.getLast?_concat] at hends
        exact hends
  · exact ⟨u', d, rfl, hv, by rw [ht, List.append_assoc]⟩

theorem correspond_padded {same : Text -> Text -> Prop} (hd : Delimiting word) (hsame : forall w, same w w)
    (hbetween : forall u w v, x ++ (t ++ y) = u ++ (w ++ v) -> word w ->
      exists u' v', u = x ++ u' ∧ v = v' ++ y ∧ t = u' ++ (w ++ v')) :
    Correspond (PadBegins x t) (PadEnds x t y) same word t (x ++ (t ++ y)) where
  delimiting := hd
  there := by
    rintro u w v rfl hw
    have hpositive := List.length_pos_of_ne_nil (hd.ne_nil w hw)
    refine ⟨x ++ u, w, v ++ y, by simp, hw, hsame w, ⟨?_, List.length_append⟩, Or.inl ?_⟩
    · simp only [List.length_append]
      omega
    · simp only [List.length_append]
      omega
  back := by
    intro u' w' v' heq hw'
    rcases hbetween u' w' v' heq hw' with ⟨u, v, rfl, rfl, rfl⟩
    have hpositive := List.length_pos_of_ne_nil (hd.ne_nil w' hw')
    refine ⟨u, w', v, rfl, hw', ?_, List.length_append⟩
    simp only [List.length_append]
    omega

/-- Tags stand between texts without their brackets. -/
theorem exists_between_of_isTag {head : Text} {edged : Bool} {inner : CharSet} (hx : Signless x) (hy : Signless y)
    (heq : x ++ (t ++ y) = u ++ (w ++ v)) (hw : IsTag ('<' :: head) edged inner w) :
    exists u' v', u = x ++ u' ∧ v = v' ++ y ∧ t = u' ++ (w ++ v') := by
  refine exists_between heq ?_ ?_ ?_
  · rintro rfl
    cases hw.head?_eq
  · rw [hw.head?_eq]
    rintro ch ⟨⟩
    exact hx.not_mem (by decide)
  · rw [hw.getLast?_eq]
    rintro ch ⟨⟩
    exact hy.not_mem (by decide)

theorem correspondTags_padded (hx : Signless x) (hy : Signless y) (name : Text) :
    CorrespondTags (PadBegins x t) (PadEnds x t y) name t (x ++ (t ++ y)) where
  opening := correspond_padded (delimiting_isOpeningTag name) (fun _ => rfl) fun _ _ _ heq hw =>
    exists_between_of_isTag hx hy heq hw
  closing := correspond_padded (delimiting_isClosingTag name) (fun _ => trivial) fun _ _ _ heq hw =>
    exists_between_of_isTag hx hy heq hw

theorem correspond_padded_sign {p : Text} (hx : Signless x) (hy : Signless y) (hp : p ≠ [])
    (hsigns : p.all isTagSign = true) : Correspond (PadBegins x t) (PadEnds x t y) (· = ·) (· = p) t (x ++ (t ++ y)) := by
  refine correspond_padded (delimiting_eq hp) (fun _ => rfl) ?_
  rintro u w v heq rfl
  refine exists_between heq hp (fun ch hch => ?_) fun ch hch => ?_
  · exact hx.not_mem (List.all_eq_true.mp hsigns ch (List.mem_of_head? hch))
  · exact hy.not_mem (List.all_eq_true.mp hsigns ch (List.mem_of_getLast? hch))

/-- A place is covered with the texts around as without them. -/
theorem covers_padded (hx : Signless x) (hy : Signless y) {i : Nat} (hi : i < t.length) :
    covers (ignored (x ++ (t ++ y))) (x.length + i) = covers (ignored t) i := by
  have hcovers : forall {regions regions'}, List.Forall₂ (SpanAligned (PadBegins x t) (PadEnds x t y)) regions regions' ->
      covers regions i = covers regions' (x.length + i) := by
    intro regions regions' h
    refine covers_eq_of_forall₂ h fun s s' _ hs => ?_
    unfold SpanAligned PadBegins PadEnds at hs
    simp only [List.length_append] at hs
    rw [Bool.eq_iff_iff, holds_iff, holds_iff]
    omega
  have halign := alignment_padded x t y
  have helements : forall name, covers (elements (.ofName name) t) i =
      covers (elements (.ofName name) (x ++ (t ++ y))) (x.length + i) := fun name =>
    hcovers (elements_corresponding halign (correspondTags_padded hx hy name))
  have hcomments := hcovers (comments_corresponding halign
    (correspond_padded_sign (p := "<!--".toList) hx hy (by decide) (by decide))
    (correspond_padded_sign (p := "-->".toList) hx hy (by decide) (by decide)))
  rw [Bool.eq_iff_iff, covers_ignored_iff, covers_ignored_iff, hcomments, TagPattern.nowiki, TagPattern.pre,
    TagPattern.code, helements, helements, helements]

end Padding

end Region
end WikiEntry
