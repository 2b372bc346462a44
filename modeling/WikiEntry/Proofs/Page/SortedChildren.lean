import WikiEntry.Proofs.Page.Reachable
import WikiEntry.Proofs.Page.Rows
import WikiEntry.Proofs.Section.Comparison

/-!
# Sorted children

Sorting puts the subtrees of the children of a section into a new order, and the outline follows from the levels in that
order.  Children do not get deeper from one to the next, so that in the new order they are the children again, each with
its own subtree, exactly if they do not get deeper there either; otherwise one of them ends up below another.
-/

namespace WikiEntry

namespace Outline

/-- The roots of a forest do not get deeper. -/
theorem Nested.pairwise_roots {level : Nat -> Nat} {f : Outline} (h : Nested level f) :
    f.roots.Pairwise fun i j => level j ≤ level i := by
  induction f with
  | nil => exact List.Pairwise.nil
  | node i l c r _ ih =>
      rcases h with ⟨_, _, hroots, _, hr⟩
      exact List.pairwise_cons.mpr ⟨hroots, ih hr⟩

end Outline

namespace Page

open Outline

/-- All that lies below a section, or the whole document. -/
def allUnder (p : Page) : (above : Option Nat) -> List Nat
  | some x => p.descendants x
  | none => p.order

/-- Some sections in an order under which none is greater than a later one, and in which two that may stand as they stood
do so. -/
structure StablySorted (p : Page) (cmp : Section -> Section -> Ordering) (ids sorted : List Nat) : Prop where
  perm : sorted.Perm ids
  pairwise : sorted.Pairwise fun i j => cmp (p.get i) (p.get j) ≠ .gt
  stable : forall i j, [i, j].Sublist ids -> cmp (p.get i) (p.get j) ≠ .gt -> [i, j].Sublist sorted

theorem inOrder_eq_true {p : Page} {cmp : Section -> Section -> Ordering} {i j : Nat} :
    p.inOrder cmp i j = true <-> cmp (p.get i) (p.get j) ≠ .gt := by
  rw [inOrder, bne_iff_ne]

theorem stablySorted_sortBy (p : Page) (cmp : Section -> Section -> Ordering) [Std.TransCmp cmp] (ids : List Nat) :
    p.StablySorted cmp ids (p.sortBy cmp ids) where
  perm := WellFormed.perm_sortBy cmp ids
  pairwise := (pairwise_sortBy ids).imp inOrder_eq_true.mp
  stable := fun _ _ hsublist hij => sublist_sortBy hsublist (inOrder_eq_true.mpr hij)

theorem sortChildren_def (p : Page) (above : Option Nat) (cmp : Section -> Section -> Ordering) :
    p.sortChildren above cmp =
      if p.sortBy cmp (p.childrenUnder above) = p.childrenUnder above then p
      else p.reorder above (p.sortBy cmp (p.childrenUnder above)) := by
  cases above <;> rfl

namespace WellFormed

variable {p : Page} {above : Option Nat} {ids : List Nat}

/-!
# What lies under a place
-/

theorem flatMap_subtree_childrenUnder (h : p.WellFormed) (above : Option Nat) :
    (p.childrenUnder above).flatMap p.subtree = p.allUnder above := by
  cases above with
  | some x => exact (List.cons.inj (h.subtree_eq x)).2.symm
  | none => exact h.flatMap_subtree_topLevel

theorem pairwise_level_childrenUnder (h : p.WellFormed) (above : Option Nat) :
    (p.childrenUnder above).Pairwise fun i j => p.level j ≤ p.level i := by
  cases above with
  | some x =>
      show (p.below x).roots.Pairwise _
      rw [h.below_eq_ofOrder]
      exact (nested_ofOrder _).pairwise_roots
  | none =>
      show p.topLevel.Pairwise _
      rw [h.topLevel_eq_roots, h.linked]
      exact (nested_ofOrder _).pairwise_roots

theorem parent?_of_mem_childrenUnder (h : p.WellFormed) {i : Nat} (hi : i ∈ p.childrenUnder above) :
    p.parent? i = above := by
  rw [h.childrenUnder_eq_filter] at hi
  exact beq_iff_eq.mp (List.mem_filter.mp hi).2

/-- A row of subtrees that is all there is under a place gives the children there. -/
theorem childrenUnder_eq_of_row (h : p.WellFormed) (hrow : p.allUnder above = ids.flatMap p.subtree)
    (hparent : forall i, i ∈ ids -> p.parent? i = above) : p.childrenUnder above = ids := by
  rw [← h.filter_parent?_row hparent, ← hrow, ← h.flatMap_subtree_childrenUnder above,
    h.filter_parent?_row fun _ hi => h.parent?_of_mem_childrenUnder hi]

end WellFormed

/-!
# Reordering
-/

/-- Between `front` and `back` stands all that lies under a place, and there reordering puts a row of subtrees. -/
structure ReordersBetween (p : Page) (above : Option Nat) (front back : List Nat) : Prop where
  order_eq : p.order = front ++ (p.allUnder above ++ back)
  level_le : forall k, back.head? = some k -> forall l, l ∈ p.childrenUnder above -> p.level k ≤ p.level l
  reorder_eq : forall ids : List Nat, ids.Perm (p.childrenUnder above) ->
    p.reorder above ids = p.setOrder (front ++ (ids.flatMap p.subtree ++ back))
  allUnder_eq : forall ids : List Nat, ids.Perm (p.childrenUnder above) ->
    (p.reorder above ids).allUnder above = ids.flatMap p.subtree

namespace WellFormed

variable {p q : Page} {above : Option Nat} {ids front back : List Nat}

theorem reorder (h : p.WellFormed) (hids : ids.Perm (p.childrenUnder above)) : (p.reorder above ids).WellFormed := by
  rcases reorder_eq p above ids with he | he
  · rw [he]
    exact h
  · rw [he]
    cases above with
    | none => exact h.setOrder_of_perm (h.perm_reorder_topLevel hids)
    | some x => exact h.setOrder_of_perm (h.perm_reorder_children hids)

theorem reordersBetween_none (h : p.WellFormed) : p.ReordersBetween none [] [] := by
  refine ⟨(List.append_nil _).symm, fun k hk => absurd hk (by simp), fun ids hids => ?_, fun ids hids => ?_⟩
  · rw [h.reorder_topLevel_eq hids, List.append_nil]
    rfl
  · rw [h.reorder_topLevel_eq hids]
    rfl

theorem exists_reordersBetween_some (h : p.WellFormed) {x : Nat} (hx : x ∈ p.order) :
    exists front back, p.ReordersBetween (some x) front back := by
  rcases h.order_eq_append hx with ⟨front, back, heq⟩
  have heq : p.order = front ++ x :: (p.descendants x ++ back) := heq
  have hback : (back.takeWhile fun k => p.level x < p.level k) = [] := by
    have hbelow := h.descendants_eq_append heq fun k hk => h.level_lt_of_mem_descendants hk
    exact List.append_cancel_left (hbelow.symm.trans (List.append_nil _).symm)
  refine ⟨front ++ [x], back, ?_, ?_, fun ids hids => ?_, fun ids hids => ?_⟩
  · rw [heq, List.append_assoc, List.singleton_append]
    rfl
  · intro k hk l hl
    rcases List.head?_eq_some_iff.mp hk with ⟨behind, rfl⟩
    have hkx : p.level k ≤ p.level x := by
      refine Nat.le_of_not_lt fun hlt => ?_
      rw [List.takeWhile_cons_of_pos (by simpa using hlt)] at hback
      cases hback
    exact Nat.le_trans hkx (Nat.le_of_lt (h.parent_spec (h.parent?_of_mem_childrenUnder hl)).2.2)
  · rw [h.reorder_children_eq heq hids, List.append_assoc, List.singleton_append]
  · have hperm := h.perm_block hids
    have hq := h.reorder hids
    rw [h.reorder_children_eq heq hids] at hq ⊢
    have hbelow := hq.descendants_eq_append rfl fun k hk => h.level_lt_of_mem_descendants (hperm.mem_iff.mp hk)
    exact hbelow.trans ((congrArg _ hback).trans (List.append_nil _))

theorem exists_reordersBetween (h : p.WellFormed) (habove : forall x, above = some x -> x ∈ p.order) :
    exists front back, p.ReordersBetween above front back := by
  cases above with
  | none => exact ⟨[], [], h.reordersBetween_none⟩
  | some x => exact h.exists_reordersBetween_some (habove x rfl)

/-- What stands in a row under a place keeps its parent and what lies below it, if the heads of the row do not get
deeper. -/
theorem descendants_and_parent?_reorder (h : p.WellFormed) (habove : forall x, above = some x -> x ∈ p.order)
    (hids : ids.Perm (p.childrenUnder above)) (hlevels : ids.Pairwise fun i j => p.level j ≤ p.level i) :
    forall i, i ∈ ids ->
      (p.reorder above ids).descendants i = p.descendants i ∧ (p.reorder above ids).parent? i = above := by
  rcases h.exists_reordersBetween habove with ⟨front, back, hbetween⟩
  have hdeeper : forall l, l ∈ ids -> forall k, k ∈ p.descendants l -> p.level l < p.level k :=
    fun _ _ _ hk => h.level_lt_of_mem_descendants hk
  have hbefore := h.descendants_and_parent?_row
    (by rw [hbetween.order_eq, ← h.flatMap_subtree_childrenUnder above]; rfl) (h.pairwise_level_childrenUnder above)
    (fun _ _ _ hk => h.level_lt_of_mem_descendants hk) hbetween.level_le
  have hq := h.reorder hids
  rw [hbetween.reorder_eq ids hids] at hq ⊢
  have hafter := hq.descendants_and_parent?_row rfl hlevels hdeeper
    fun k hk l hl => hbetween.level_le k hk l (hids.mem_iff.mp hl)
  intro i hi
  have hchild := hids.mem_iff.mp hi
  refine ⟨(hafter i hi).1, (hafter i hi).2.trans ?_⟩
  rw [← h.parent?_of_mem_childrenUnder hchild]
  exact (hbefore i hchild).2.symm

/-- In a new order, the children are the children again, with what was below them, exactly if they do not get deeper. -/
theorem childrenUnder_reorder_iff (h : p.WellFormed) (habove : forall x, above = some x -> x ∈ p.order)
    (hids : ids.Perm (p.childrenUnder above)) :
    ((p.reorder above ids).childrenUnder above = ids ∧ forall i, i ∈ ids -> (p.reorder above ids).below i = p.below i) <->
      ids.Pairwise fun i j => p.level j ≤ p.level i := by
  have hq := h.reorder hids
  have hlevel : (p.reorder above ids).level = p.level := by
    rcases reorder_eq p above ids with he | he
    · rw [he]
    · rw [he]
      rfl
  constructor
  · rintro ⟨hchildren, _⟩
    have hlevels := hq.pairwise_level_childrenUnder above
    rwa [hchildren, hlevel] at hlevels
  · intro hlevels
    have hkept := h.descendants_and_parent?_reorder habove hids hlevels
    rcases h.exists_reordersBetween habove with ⟨front, back, hbetween⟩
    constructor
    · refine hq.childrenUnder_eq_of_row ?_ fun i hi => (hkept i hi).2
      rw [hbetween.allUnder_eq ids hids]
      refine List.flatMap_congr fun i hi => ?_
      rw [subtree, subtree, (hkept i hi).1]
    · exact fun i hi => h.below_eq_of_descendants_eq hq hlevel (hkept i hi).1

end WellFormed

/-- On every reachable page, the children of a section, or the topmost sections, are after sorting what they were in stably
sorted order, each with what was below it, exactly if in that order they do not get deeper. -/
theorem Reachable.children_sortChildren_iff {p : Page} (h : p.Reachable) (above : Option Nat)
    (cmp : Section -> Section -> Ordering) [Std.TransCmp cmp] :
    exists sorted, p.StablySorted cmp (p.childrenUnder above) sorted ∧
      (((p.sortChildren above cmp).childrenUnder above = sorted ∧
          forall i, i ∈ sorted -> (p.sortChildren above cmp).below i = p.below i) <->
        sorted.Pairwise fun i j => p.level j ≤ p.level i) := by
  have hw := h.wellFormed
  have hsorted := stablySorted_sortBy p cmp (p.childrenUnder above)
  refine ⟨_, hsorted, ?_⟩
  rw [sortChildren_def]
  by_cases hsame : p.sortBy cmp (p.childrenUnder above) = p.childrenUnder above
  · rw [if_pos hsame, hsame]
    exact iff_of_true ⟨rfl, fun _ _ => rfl⟩ (hw.pairwise_level_childrenUnder above)
  · rw [if_neg hsame]
    refine hw.childrenUnder_reorder_iff ?_ hsorted.perm
    -- A section that is not on the page has no children to sort.
    rintro x rfl
    by_contra hx
    exact hsame (by rw [childrenUnder, hw.children_of_not_mem hx, sortBy, List.mergeSort_nil])

/-- A section of level 1 above one of level 3 and one of level 2, which do not stand in the order of their headers. -/
def entryWithSkippedLevel : Page where
  title := "casa"
  sections := [⟨⟨1, "Uso", .tight, [], []⟩, {}, none⟩, ⟨⟨3, "Notas", .tight, [], []⟩, {}, none⟩,
    ⟨⟨2, "Citas", .tight, [], []⟩, {}, none⟩]
  order := [0, 1, 2]
  outline := .ofList [(0, 1), (1, 3), (2, 2)]

theorem reachable_entryWithSkippedLevel : entryWithSkippedLevel.Reachable := by
  have hfirst := (Reachable.new "casa").create (s := entryWithSkippedLevel.get 0) (by decide)
  have hsecond := hfirst.create (s := entryWithSkippedLevel.get 1) (by decide)
  have hthird := hsecond.create (s := entryWithSkippedLevel.get 2) (by decide)
  exact .change (.appendSections [0, 1, 2]) hthird ⟨by decide, nofun⟩ rfl

instance : Std.TransCmp Section.compareByHeader :=
  transCmp_comap Text.compareChars Section.header

theorem children_sortChildren_iff_entryWithSkippedLevel :
    entryWithSkippedLevel.Reachable ∧ entryWithSkippedLevel.childrenUnder (some 0) = [1, 2] ∧
      exists sorted,
        entryWithSkippedLevel.StablySorted Section.compareByHeader (entryWithSkippedLevel.childrenUnder (some 0)) sorted ∧
        (((entryWithSkippedLevel.sortChildren (some 0) Section.compareByHeader).childrenUnder (some 0) = sorted ∧
            forall i, i ∈ sorted ->
              (entryWithSkippedLevel.sortChildren (some 0) Section.compareByHeader).below i =
                entryWithSkippedLevel.below i) <->
          sorted.Pairwise fun i j => entryWithSkippedLevel.level j ≤ entryWithSkippedLevel.level i) :=
  ⟨reachable_entryWithSkippedLevel, by decide,
    reachable_entryWithSkippedLevel.children_sortChildren_iff (some 0) Section.compareByHeader⟩

/-- Not every sort gives back the children in the new order: one of them may end up below another. -/
theorem not_forall_children_sortChildren :
    ¬ forall (p : Page) (above : Option Nat) (cmp : Section -> Section -> Ordering), p.Reachable -> Std.TransCmp cmp ->
      (forall x, above = some x -> x ∈ p.order) ->
      exists sorted, p.StablySorted cmp (p.childrenUnder above) sorted ∧
        (p.sortChildren above cmp).childrenUnder above = sorted ∧
        forall i, i ∈ sorted -> (p.sortChildren above cmp).below i = p.below i := by
  intro h
  rcases h entryWithSkippedLevel (some 0) Section.compareByHeader reachable_entryWithSkippedLevel inferInstance
    (by decide) with ⟨sorted, hsorted, hchildren, _⟩
  have hby : entryWithSkippedLevel.sortBy Section.compareByHeader [1, 2] = [2, 1] := by
    have hgt : entryWithSkippedLevel.inOrder Section.compareByHeader 1 2 = false := by decide
    simp [sortBy, List.mergeSort, hgt]
  have hsort : entryWithSkippedLevel.sortChildren (some 0) Section.compareByHeader =
      entryWithSkippedLevel.setOrder [0, 2, 1] := by
    have hbefore : entryWithSkippedLevel.childrenUnder (some 0) = [1, 2] := by decide
    rw [sortChildren_def, hbefore, hby]
    decide
  have hlength := hsorted.perm.length_eq
  rw [← hchildren, hsort] at hlength
  exact absurd hlength (by decide)

end Page
end WikiEntry
