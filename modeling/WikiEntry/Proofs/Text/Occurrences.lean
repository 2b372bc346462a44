import Mathlib.Data.List.Infix
import WikiEntry.Text.Basic

/-!
# Where a text occurs

A search gives the first, or the last, of the places at which a text stands.
-/

namespace WikiEntry
namespace Text

theorem startsWith_drop_nil (t : Text) (place : Nat) : startsWith (t.drop place) [] = true := by
  rw [startsWith, List.isPrefixOf_nil_left]

/-- A text stands at a place if its characters do, one after the other. -/
theorem startsWith_drop_cons (t w : Text) (ch : Char) (place : Nat) :
    startsWith (t.drop place) (ch :: w) = true <-> t[place]? = some ch ∧ startsWith (t.drop (place + 1)) w = true := by
  by_cases hplace : place < t.length
  · rw [startsWith, startsWith, List.isPrefixOf_iff_prefix, List.isPrefixOf_iff_prefix,
      List.drop_eq_getElem_cons hplace, List.cons_prefix_cons, List.getElem?_eq_getElem hplace, Option.some.injEq,
      eq_comm]
  · rw [List.drop_eq_nil_of_le (Nat.le_of_not_lt hplace), List.getElem?_eq_none (Nat.le_of_not_lt hplace)]
    simp [startsWith]

/-- A character that a text does not begin with stands behind the beginning. -/
theorem length_le_of_drop_eq {t w r : Text} {ch : Char} {n : Nat} (hw : w <+: t) (hch : ch ∉ w)
    (hdrop : t.drop n = ch :: r) : w.length ≤ n := by
  rcases hw with ⟨u, rfl⟩
  by_contra hlt
  rw [List.drop_append_of_le_length (by omega)] at hdrop
  cases hrest : w.drop n with
  | nil => exact hlt (List.drop_eq_nil_iff.mp hrest)
  | cons c r' =>
      rw [hrest] at hdrop
      cases hdrop
      exact hch (List.mem_of_mem_drop (hrest ▸ List.mem_cons_self))

theorem find?_eq_some_iff {t p : Text} {n : Nat} :
    t.find? p = some n <-> startsWith (t.drop n) p = true ∧ forall m, m < n -> startsWith (t.drop m) p = false := by
  induction t generalizing n with
  | nil =>
      unfold find?
      cases hp : startsWith [] p with
      | true =>
          simp only [hp, List.drop_nil, if_true, Option.some.injEq, true_and]
          constructor
          · rintro rfl m hm
            omega
          · intro h
            exact Nat.le_antisymm (Nat.zero_le n) (Nat.le_of_not_lt fun hn => Bool.noConfusion (h 0 hn))
      | false => simp [hp]
  | cons ch r ih =>
      unfold find?
      cases hp : startsWith (ch :: r) p with
      | true =>
          simp only [if_true, Option.some.injEq]
          constructor
          · rintro rfl
            exact ⟨hp, fun m hm => absurd hm (Nat.not_lt_zero m)⟩
          · rintro ⟨_, h⟩
            refine Nat.le_antisymm (Nat.zero_le n) (Nat.le_of_not_lt fun hn => ?_)
            have hfalse : startsWith (ch :: r) p = false := h 0 hn
            rw [hp] at hfalse
            cases hfalse
      | false =>
          simp only [Bool.false_eq_true, if_false, Option.map_eq_some_iff]
          constructor
          · rintro ⟨m, hm, rfl⟩
            rcases ih.mp hm with ⟨hstands, hfirst⟩
            refine ⟨hstands, fun k hk => ?_⟩
            cases k with
            | zero => exact hp
            | succ k => exact hfirst k (Nat.lt_of_succ_lt_succ hk)
          · rintro ⟨hstands, hfirst⟩
            cases n with
            | zero =>
                have hfalse : startsWith (ch :: r) p = true := hstands
                rw [hp] at hfalse
                cases hfalse
            | succ n => exact ⟨n, ih.mpr ⟨hstands, fun k hk => hfirst (k + 1) (Nat.succ_lt_succ hk)⟩, rfl⟩

theorem le_length_of_startsWith_drop {t p : Text} {place : Nat} (hp : p ≠ [])
    (h : startsWith (t.drop place) p = true) : place + p.length ≤ t.length := by
  have hlength := (List.isPrefixOf_iff_prefix.mp h).length_le
  have hpos : 0 < p.length := List.length_pos_of_ne_nil hp
  rw [List.length_drop] at hlength
  omega

theorem findFrom?_eq_some_iff {t p : Text} (hp : p ≠ []) {start n : Nat} :
    t.findFrom? p start = some n <->
      start ≤ n ∧ startsWith (t.drop n) p = true ∧ forall m, start ≤ m -> m < n -> startsWith (t.drop m) p = false := by
  unfold findFrom?
  split
  · rw [Option.map_eq_some_iff]
    simp only [find?_eq_some_iff, List.drop_drop]
    constructor
    · rintro ⟨k, ⟨hstands, hfirst⟩, rfl⟩
      refine ⟨Nat.le_add_left start k, ?_, ?_⟩
      · rwa [Nat.add_comm k start]
      · intro m hm hk
        have hfalse := hfirst (m - start) (by omega)
        rwa [Nat.add_sub_cancel' hm] at hfalse
    · rintro ⟨hn, hstands, hfirst⟩
      refine ⟨n - start, ⟨?_, ?_⟩, Nat.sub_add_cancel hn⟩
      · rwa [Nat.add_sub_cancel' hn]
      · intro m hm
        exact hfirst (start + m) (Nat.le_add_right start m) (by omega)
  · rename_i hstart
    refine iff_of_false nofun ?_
    rintro ⟨hn, hstands, _⟩
    have := le_length_of_startsWith_drop hp hstands
    omega

/-- Searching backwards, a text stands where its last character is met first. -/
theorem startsWith_drop_reverse {t p : Text} (hp : p ≠ []) (m : Nat) :
    startsWith (t.reverse.drop m) p.reverse = true <->
      m + p.length ≤ t.length ∧ startsWith (t.drop (t.length - m - p.length)) p = true := by
  constructor
  · intro h
    have hlength := le_length_of_startsWith_drop (fun hnil => hp (List.reverse_eq_nil_iff.mp hnil)) h
    rw [List.length_reverse, List.length_reverse] at hlength
    rcases List.isPrefixOf_iff_prefix.mp h with ⟨rest, hrest⟩
    have ht : t = rest.reverse ++ (p ++ (t.reverse.take m).reverse) := by
      have h := congrArg List.reverse (List.take_append_drop m t.reverse)
      rw [← hrest] at h
      simpa using h.symm
    have hsize : t.length - m - p.length = rest.reverse.length := by
      have h := congrArg List.length hrest
      simp only [List.length_append, List.length_reverse, List.length_drop] at h
      rw [List.length_reverse]
      omega
    refine ⟨hlength, ?_⟩
    rw [hsize]
    conv =>
      lhs
      rw [ht, List.drop_left]
    exact List.isPrefixOf_iff_prefix.mpr (List.prefix_append p _)
  · rintro ⟨hlength, h⟩
    rcases List.isPrefixOf_iff_prefix.mp h with ⟨rest, hrest⟩
    have hsize : rest.reverse.length = m := by
      have h := congrArg List.length hrest
      simp only [List.length_append, List.length_drop] at h
      rw [List.length_reverse]
      omega
    have ht : t.reverse = rest.reverse ++ (p.reverse ++ (t.take (t.length - m - p.length)).reverse) := by
      have h := congrArg List.reverse (List.take_append_drop (t.length - m - p.length) t)
      rw [← hrest] at h
      simpa using h.symm
    rw [ht, ← hsize, List.drop_left]
    exact List.isPrefixOf_iff_prefix.mpr (List.prefix_append _ _)

theorem of_findLast? {t p : Text} (hp : p ≠ []) {n : Nat} (h : t.findLast? p = some n) :
    startsWith (t.drop n) p = true ∧ forall m, n < m -> startsWith (t.drop m) p = false := by
  rcases Option.map_eq_some_iff.mp h with ⟨k, hk, rfl⟩
  rcases find?_eq_some_iff.mp hk with ⟨hstands, hfirst⟩
  rcases (startsWith_drop_reverse hp k).mp hstands with ⟨_, hstands⟩
  refine ⟨hstands, fun m hm => Bool.eq_false_iff.mpr fun hother => ?_⟩
  have hlength := le_length_of_startsWith_drop hp hother
  have hnot := hfirst (t.length - m - p.length) (by omega)
  have hplace : t.length - (t.length - m - p.length) - p.length = m := by omega
  rw [Bool.eq_false_iff] at hnot
  exact hnot ((startsWith_drop_reverse hp _).mpr ⟨by omega, hplace.symm ▸ hother⟩)

end Text
end WikiEntry
