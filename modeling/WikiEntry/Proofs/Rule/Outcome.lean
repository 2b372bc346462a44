import WikiEntry.Rule.Marks
import WikiEntry.Proofs.Text.Pieces
import WikiEntry.Proofs.Text.Trimming

/-!
# Changes and outcomes

A rule has an outcome when it changes more of a text than the blanks at its end.  That a text was changed is shown by
counting characters that are no blanks.
-/

namespace WikiEntry

/-!
# Counts and changes
-/

theorem Text.countP_trimRight {t : Text} {kind : Char -> Bool}
    (hblank : forall ch, Chars.isBlank ch = true -> kind ch = false) : t.trimRight.countP kind = t.countP kind := by
  have hsplit := Text.trimRightBy_append t Chars.isBlank
  have hnone : ((t.reverse.takeWhile Chars.isBlank).reverse).countP kind = 0 := by
    rw [List.countP_eq_zero]
    intro ch hch
    have hmem : ch ∈ t.reverse.takeWhile Chars.isBlank := List.mem_reverse.mp hch
    rw [hblank ch (List.mem_takeWhile_imp hmem)]
    exact Bool.false_ne_true
  calc t.trimRight.countP kind
      = t.trimRight.countP kind + ((t.reverse.takeWhile Chars.isBlank).reverse).countP kind := by
        rw [hnone, Nat.add_zero]
    _ = t.countP kind := by
        rw [← List.countP_append, Text.trimRight, hsplit]

/-- Texts with different counts of a kind of characters other than blanks are changes of each other. -/
theorem changed_of_countP_ne {t u : Text} {kind : Char -> Bool}
    (hblank : forall ch, Chars.isBlank ch = true -> kind ch = false) (h : u.countP kind ≠ t.countP kind) :
    changed t u = true := by
  apply bne_iff_ne.mpr
  intro heq
  apply h
  rw [← Text.countP_trimRight hblank, ← heq, Text.countP_trimRight hblank]

theorem Text.unblanked_trimRight (t : Text) : t.trimRight.unblanked = t.unblanked := by
  have hblank : Text.unblanked (t.reverse.takeWhile Chars.isBlank).reverse = [] := by
    rw [Text.unblanked_eq_nil_iff, Text.isBlank, List.all_reverse]
    exact List.all_takeWhile ..
  conv_rhs => rw [← Text.trimRightBy_append t Chars.isBlank, Text.unblanked_append, hblank, List.append_nil]
  rfl

/-!
# Outcomes
-/

namespace Outcome

theorem of?_eq_none_iff {before after : Text} {summary : Option Text} :
    of? before after summary = none <-> changed before after = false := by
  rw [of?]
  cases changed before after with
  | true => simp
  | false => simp

theorem text_of_of?_eq_some {before after : Text} {summary : Option Text} {o : Outcome}
    (h : of? before after summary = some o) : o.text = after := by
  rw [of?] at h
  split at h
  · rw [← Option.some.inj h]
  · cases h

/-- Whether or not there is an outcome, the text is then the revised one, but for blanks. -/
theorem unblanked_of? (before after : Text) (summary : Option Text) :
    (((of? before after summary).map Outcome.text).getD before).unblanked = after.unblanked := by
  unfold of?
  split
  · rfl
  · rename_i hchanged
    have hsame : before.trimRight = after.trimRight := by simpa [changed] using hchanged
    rw [Option.map_none, Option.getD_none, ← Text.unblanked_trimRight, hsame, Text.unblanked_trimRight]

end Outcome

theorem Context.onCurrentPage_eq {x : Context} {t : Text} {p : Page} (hlegacy : x.legacy = false)
    (hread : x.read t = .ok p) (f : Page -> Verdict) : x.onCurrentPage t f = f p := by
  rw [onCurrentPage, hlegacy, if_neg Bool.false_ne_true, hread]
  rfl

/-- On its own output for a text the rule has no outcome. -/
def Rule.IdempotentOn (r : Rule) (c : Context) (t : Text) : Prop :=
  forall o, r.run c t = .ok (some o) -> r.run { c with legacy := Marks.isLegacy o.text } o.text = .ok none

end WikiEntry
