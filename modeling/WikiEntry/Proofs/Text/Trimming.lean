import Mathlib.Data.List.DropRight
import WikiEntry.Proofs.Text.Numbers
import WikiEntry.Proofs.Text.Pieces

/-!
# What trimming leaves

Trimming takes blanks off the two ends of a text and nothing else, so that it says no more of a text whether it is
blank, and leaves alone what has no blanks at its ends.
-/

namespace WikiEntry

namespace Chars

/-- All white space. -/
def blanks : List Char :=
  blankRanges.flatMap fun r => (List.range' r.1 (r.2 + 1 - r.1)).map Char.ofNat

theorem mem_blanks {ch : Char} (hch : isBlank ch = true) : ch ∈ blanks := by
  rcases List.any_eq_true.mp hch with ⟨r, hr, hin⟩
  rw [Bool.and_eq_true, decide_eq_true_eq, decide_eq_true_eq] at hin
  refine List.mem_flatMap.mpr ⟨r, hr, List.mem_map.mpr ⟨ch.toNat, List.mem_range'_1.mpr ?_, Char.ofNat_toNat ch⟩⟩
  omega

end Chars

namespace Text

variable {t u : Text} {p : Char -> Bool}

/-!
# One end
-/

theorem trimLeftBy_append_of_all (ht : t.all p = true) : (t ++ u).trimLeftBy p = u.trimLeftBy p :=
  List.dropWhile_append_of_pos (List.all_eq_true.mp ht)

theorem trimLeftBy_append_of_not_all (ht : t.all p = false) : (t ++ u).trimLeftBy p = t.trimLeftBy p ++ u := by
  have hne : t.dropWhile p ≠ [] := by
    intro hnil
    rw [trimLeftBy_eq_nil_iff.mp hnil] at ht
    cases ht
  rw [trimLeftBy, List.dropWhile_append, if_neg (by simpa using hne)]
  rfl

theorem trimRightBy_of_forall (ht : forall ch, ch ∈ t -> p ch = false) : t.trimRightBy p = t := by
  have htrim := trimBy_of_forall ht
  rwa [trimBy, trimLeftBy_of_forall ht] at htrim

/-- What stands in a text stands in what trimming leaves of it, but for what is trimmed off. -/
theorem trimLeftBy_infix (h : u <:+: t) (p : Char -> Bool) : u.trimLeftBy p <:+: t.trimLeftBy p := by
  rcases h with ⟨a, b, rfl⟩
  have hu : u.trimLeftBy p <:+: u := (List.dropWhile_suffix p).isInfix
  rw [List.append_assoc]
  cases ha : a.all p with
  | false =>
      rw [trimLeftBy_append_of_not_all ha]
      exact hu.trans ⟨Text.trimLeftBy a p, b, List.append_assoc _ _ _⟩
  | true =>
      rw [trimLeftBy_append_of_all ha]
      cases hall : u.all p with
      | true =>
          rw [trimLeftBy_eq_nil_iff.mpr hall]
          exact List.nil_infix
      | false =>
          rw [trimLeftBy_append_of_not_all hall]
          exact (List.prefix_append _ b).isInfix

/-!
# Both ends
-/

/-- A text is all of a kind if what trimming leaves of it is. -/
theorem all_trimBy (t : Text) (p : Char -> Bool) : (t.trimBy p).all p = t.all p := by
  cases ht : t.all p with
  | true =>
      rw [trimBy_eq_nil_iff.mpr ht]
      rfl
  | false =>
      rw [Bool.eq_false_iff]
      intro hall
      rw [← takeWhile_append_trimBy ht, List.all_append, List.all_append, List.all_reverse, List.all_takeWhile,
        List.all_takeWhile, hall] at ht
      cases ht

theorem isBlank_trim (t : Text) : t.trim.isBlank = t.isBlank :=
  all_trimBy t Chars.isBlank

/-- For a text that is given, this is a matter of computing. -/
theorem forall_not_isBlank (ht : (t.all fun ch => !Chars.isBlank ch) = true) :
    forall ch, ch ∈ t -> Chars.isBlank ch = false :=
  fun ch hch => (Bool.not_eq_true' _).mp (List.all_eq_true.mp ht ch hch)

theorem mem_of_mem_trimBy {ch : Char} (h : ch ∈ t.trimBy p) : ch ∈ t := by
  have hleft : ch ∈ t.trimLeftBy p := by
    rw [← trimRightBy_append (t.trimLeftBy p) p]
    exact List.mem_append_left _ h
  exact (List.dropWhile_suffix p).subset hleft

theorem mem_trimBy {ch : Char} (h : ch ∈ t) (hch : p ch = false) : ch ∈ t.trimBy p := by
  have hall : t.all p = false := by
    rw [Bool.eq_false_iff]
    intro hall
    rw [List.all_eq_true.mp hall ch h] at hch
    cases hch
  have hkind : forall {u : Text}, ch ∈ u.takeWhile p -> False := by
    intro u hmem
    rw [List.mem_takeWhile_imp hmem] at hch
    cases hch
  rw [← takeWhile_append_trimBy hall] at h
  rcases List.mem_append.mp h with h | h
  · rcases List.mem_append.mp h with h | h
    · exact (hkind h).elim
    · exact h
  · exact (hkind (List.mem_reverse.mp h)).elim

/-- Trimming leaves nothing to trim at the beginning. -/
theorem trimLeftBy_trimBy (t : Text) (p : Char -> Bool) : (t.trimBy p).trimLeftBy p = t.trimBy p := by
  have hparts := trimRightBy_append (t.trimLeftBy p) p
  have hhead := List.head?_dropWhile_not p t
  rw [trimBy]
  cases htrim : (t.trimLeftBy p).trimRightBy p with
  | nil => rfl
  | cons ch r =>
      have hdrop : t.dropWhile p = ch :: (r ++ ((t.trimLeftBy p).reverse.takeWhile p).reverse) := by
        rw [htrim] at hparts
        exact hparts.symm
      rw [hdrop] at hhead
      exact List.dropWhile_cons_of_neg (by simpa using hhead)

/-- Only the text in front is trimmed if nothing in the text behind it can be. -/
theorem trimBy_append_of_forall (hu : forall ch, ch ∈ u -> p ch = false) (hne : u ≠ []) :
    (t ++ u).trimBy p = t.trimLeftBy p ++ u := by
  have hleft : (t ++ u).trimLeftBy p = t.trimLeftBy p ++ u := by
    cases ht : t.all p with
    | true =>
        rw [trimLeftBy_append_of_all ht, trimLeftBy_of_forall hu, trimLeftBy_eq_nil_iff.mpr ht]
        rfl
    | false => exact trimLeftBy_append_of_not_all ht
  have hsome : u.all p = false := by
    rcases List.exists_mem_of_ne_nil u hne with ⟨ch, hch⟩
    exact List.all_eq_false.mpr ⟨ch, hch, by simp [hu ch hch]⟩
  rw [trimBy, hleft, trimRightBy_append_of_not_all hsome, trimRightBy_of_forall hu]

theorem trimRightBy_trimRightBy (t : Text) (p : Char -> Bool) : (t.trimRightBy p).trimRightBy p = t.trimRightBy p := by
  unfold trimRightBy
  rw [List.reverse_reverse, List.dropWhile_idempotent]

theorem trimBy_trimBy (t : Text) (p : Char -> Bool) : (t.trimBy p).trimBy p = t.trimBy p := by
  rw [trimBy, trimLeftBy_trimBy]
  exact trimRightBy_trimRightBy _ p

theorem trimBy_eq_trimLeftBy_iff : t.trimBy p = t.trimLeftBy p <-> t.all p = true ∨ t.trimRightBy p = t := by
  cases ht : t.all p with
  | true =>
      rw [trimBy_eq_nil_iff.mpr ht, trimLeftBy_eq_nil_iff.mpr ht]
      simp
  | false =>
      have hparts := takeWhile_append_trimLeftBy t p
      have hsome : (t.trimLeftBy p).all p = false := by
        rwa [← hparts, List.all_append, List.all_takeWhile, Bool.true_and] at ht
      have hright : t.trimRightBy p = t.takeWhile p ++ t.trimBy p :=
        (congrArg (trimRightBy · p) hparts.symm).trans (trimRightBy_append_of_not_all hsome)
      constructor
      · intro h
        exact Or.inr (hright.trans (h ▸ hparts))
      · rintro (h | h)
        · cases h
        · exact List.append_cancel_left (hright.symm.trans (h.trans hparts.symm))

/-- A text behind another one is the same behind what trimming leaves of that just when no blanks stand between them. -/
theorem trimBy_append_eq_iff (hu : forall ch, ch ∈ u -> p ch = false) :
    (t ++ u).trimBy p = (t.trimBy p ++ u).trimBy p <-> u = [] ∨ t.all p = true ∨ t.trimRightBy p = t := by
  by_cases hne : u = []
  · rw [hne, List.append_nil, List.append_nil, trimBy_trimBy]
    simp
  · rw [trimBy_append_of_forall hu hne, trimBy_append_of_forall hu hne, trimLeftBy_trimBy, List.append_cancel_right_eq,
      eq_comm, trimBy_eq_trimLeftBy_iff]
    simp [hne]

theorem trimLeftBy_eq_self_iff : t.trimLeftBy p = t <-> (t.head?.all fun c => !p c) = true := by
  rw [trimLeftBy, List.dropWhile_eq_self_iff]
  cases t with
  | nil => simp
  | cons c t => simp

theorem trimRightBy_eq_self_iff : t.trimRightBy p = t <-> (t.getLast?.all fun c => !p c) = true := by
  rw [← List.head?_reverse, ← trimLeftBy_eq_self_iff, ← List.reverse_inj, trimRightBy, List.reverse_reverse]
  rfl

/-- Trimming leaves a text alone that has no blanks at its ends. -/
theorem trimBy_eq_self_iff :
    t.trimBy p = t <-> (t.head?.all fun c => !p c) = true ∧ (t.getLast?.all fun c => !p c) = true := by
  rw [← trimLeftBy_eq_self_iff, ← trimRightBy_eq_self_iff]
  constructor
  · intro h
    have hleft : t.trimLeftBy p = t := by
      rw [← h]
      exact trimLeftBy_trimBy t p
    refine ⟨hleft, ?_⟩
    rwa [trimBy, hleft] at h
  · rintro ⟨hleft, hright⟩
    rw [trimBy, hleft, hright]

/-!
# Without blanks
-/

/-- What is left of a text without its blanks. -/
def unblanked (t : Text) : Text :=
  t.filter (fun ch => !Chars.isBlank ch)

theorem unblanked_append (t u : Text) : (t ++ u).unblanked = t.unblanked ++ u.unblanked :=
  List.filter_append ..

theorem unblanked_eq_nil_iff : t.unblanked = [] <-> t.isBlank = true := by
  rw [unblanked, isBlank, List.filter_eq_nil_iff, List.all_eq_true]
  simp only [Bool.not_eq_true', Bool.not_eq_false]

theorem unblanked_replicate {ch : Char} (hch : Chars.isBlank ch = true) (n : Nat) :
    unblanked (List.replicate n ch) = [] :=
  unblanked_eq_nil_iff.mpr (List.all_eq_true.mpr fun _ hmem => (List.eq_of_mem_replicate hmem).symm ▸ hch)

theorem unblanked_joinWith_congr {α : Type} {xs : List α} {f g : α -> Text} (sep : Text)
    (h : forall x, x ∈ xs -> (f x).unblanked = (g x).unblanked) :
    (joinWith sep (xs.map f)).unblanked = (joinWith sep (xs.map g)).unblanked := by
  induction xs with
  | nil => rfl
  | cons x xs ih =>
      have hx := h x List.mem_cons_self
      by_cases hxs : xs = []
      · rw [hxs]
        exact hx
      · have hf : xs.map f ≠ [] := mt List.map_eq_nil_iff.mp hxs
        have hg : xs.map g ≠ [] := mt List.map_eq_nil_iff.mp hxs
        rw [List.map_cons, List.map_cons, joinWith_cons hf, joinWith_cons hg]
        simp only [unblanked_append, hx, ih fun y hy => h y (List.mem_cons_of_mem x hy)]

/-- Blanks stand around what is left of a text when it is trimmed. -/
theorem exists_append_trim (t : Text) :
    exists front back : Text, t = front ++ (t.trim ++ back) ∧ front.isBlank = true ∧ back.isBlank = true := by
  cases ht : t.isBlank with
  | true =>
      refine ⟨t, [], ?_, ht, rfl⟩
      rw [trim_eq_nil_iff.mpr ht]
      exact (List.append_nil t).symm
  | false =>
      refine ⟨t.takeWhile Chars.isBlank, (t.reverse.takeWhile Chars.isBlank).reverse, ?_, List.all_takeWhile .., ?_⟩
      · rw [← List.append_assoc]
        exact (takeWhile_append_trimBy ht).symm
      · rw [isBlank, List.all_reverse]
        exact List.all_takeWhile ..

theorem unblanked_trim (t : Text) : t.trim.unblanked = t.unblanked := by
  rcases exists_append_trim t with ⟨front, back, heq, hfront, hback⟩
  conv =>
    rhs
    rw [heq, unblanked_append, unblanked_append, unblanked_eq_nil_iff.mpr hfront, unblanked_eq_nil_iff.mpr hback,
      List.nil_append, List.append_nil]

end Text
end WikiEntry
