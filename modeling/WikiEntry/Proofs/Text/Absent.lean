import WikiEntry.Proofs.Text.Pieces
import WikiEntry.Region.Scan

/-!
# What does not occur

A text does not occur where one of its characters is missing.  No search finds it, nothing is cut at it, and no
nested region begins with it.
-/

namespace WikiEntry
namespace Text

section

variable {t p : Text} {a : Char}

theorem startsWith_eq_false (hp : a ∈ p) (ht : a ∉ t) : t.startsWith p = false := by
  refine Bool.eq_false_iff.mpr fun h => ht ?_
  exact (List.isPrefixOf_iff_prefix.mp h).subset hp

theorem endsWith_eq_false (hp : a ∈ p) (ht : a ∉ t) : t.endsWith p = false := by
  refine Bool.eq_false_iff.mpr fun h => ht ?_
  exact (List.isSuffixOf_iff_suffix.mp h).subset hp

theorem after?_eq_none (hp : a ∈ p) (ht : a ∉ t) : after? p t = none := by
  rw [Option.eq_none_iff_forall_ne_some]
  intro r hr
  rw [after?_eq_some_iff.mp hr] at ht
  exact ht (List.mem_append_left r hp)

theorem find?_eq_none (hp : a ∈ p) (ht : a ∉ t) : t.find? p = none := by
  rw [Option.eq_none_iff_forall_ne_some]
  intro n hn
  rw [eq_append_of_find? hn] at ht
  exact ht (List.mem_append_left _ (List.mem_append_right _ hp))

theorem hasInfix_eq_false (hp : a ∈ p) (ht : a ∉ t) : t.hasInfix p = false := by
  rw [hasInfix, find?_eq_none hp ht]
  rfl

theorem findLast?_eq_none (hp : a ∈ p) (ht : a ∉ t) : t.findLast? p = none := by
  rw [findLast?, find?_eq_none (List.mem_reverse.mpr hp) (fun h => ht (List.mem_reverse.mp h))]
  rfl

theorem splitAtEach_eq_singleton (hp : a ∈ p) (ht : a ∉ t) (piece : Text) :
    splitAtEach p t 0 piece = [piece.reverse ++ t] := by
  induction t generalizing piece with
  | nil => rw [splitAtEach, List.append_nil]
  | cons c r ih =>
      have hno : p.isPrefixOf (c :: r) = false := startsWith_eq_false hp ht
      rw [splitAtEach, hno, if_neg Bool.false_ne_true, ih fun h => ht (List.mem_cons_of_mem c h)]
      simp

theorem splitOn_eq_singleton (hp : a ∈ p) (ht : a ∉ t) : t.splitOn p = [t] :=
  splitAtEach_eq_singleton hp ht []

theorem occurrences_eq_zero (hp : a ∈ p) (ht : a ∉ t) : t.occurrences p = 0 := by
  rw [occurrences, splitOn_eq_singleton hp ht]
  simp

end
end Text

namespace Region

theorem nestedFrom_eq_nil {opening t : Text} {a : Char} (hopening : a ∈ opening) (ht : a ∉ t) (closing : Text)
    (place start : Nat) : nestedFrom opening closing place 0 start 0 t = [] := by
  induction t generalizing place with
  | nil => rfl
  | cons c r ih =>
      have hno : opening.isPrefixOf (c :: r) = false := Text.startsWith_eq_false hopening ht
      rw [nestedFrom, hno, if_neg Bool.false_ne_true, if_neg fun h => Nat.lt_irrefl 0 h.1]
      exact ih (fun h => ht (List.mem_cons_of_mem c h)) (place + 1)

theorem nested_eq_nil {opening t : Text} {a : Char} (hopening : a ∈ opening) (ht : a ∉ t) (closing : Text) :
    nested opening closing t = [] :=
  nestedFrom_eq_nil hopening ht closing 0 0

end Region
end WikiEntry
