import WikiEntry.Proofs.Page.Levels
import WikiEntry.Proofs.Page.Subtree

/-!
# Levels that keep the tree

Making levels equal goes down one depth after the other.  After some rounds the sections that lie no deeper than these
rounds have the level that their depth asks for, counted from the topmost level, and all others still have
the level that they had.  No section is put on a greater level by this, and none of these levels gives a section another
parent, so that the tree stays the same from round to round.
-/

namespace WikiEntry
namespace Page

open Outline

namespace WellFormed

variable {p q : Page} {i j k : Nat}

/-!
# Depths
-/

theorem one_le_depth (h : p.WellFormed) (hi : i ∈ p.order) : 1 ≤ p.depth i := by
  rcases h.depth_spec hi with ⟨_, _, hd⟩ | ⟨j, _, _, hd, _⟩
  · exact Nat.le_of_eq hd.symm
  · rw [hd]
    exact Nat.le_add_left 1 _

theorem depth_of_parent? (h : p.WellFormed) (hp : p.parent? i = some j) : p.depth i = p.depth j + 1 := by
  rcases h.depth_spec (h.parent_spec hp).1 with ⟨_, hnone, _⟩ | ⟨j', _, hp', hd, _⟩
  · rw [hp] at hnone
    cases hnone
  · rw [hp] at hp'
    cases hp'
    exact hd

theorem depth_of_parent?_eq_none (h : p.WellFormed) (hi : i ∈ p.order) (hp : p.parent? i = none) : p.depth i = 1 :=
  (h.depth_eq_one_iff hi).mpr hp

theorem depth_lt_of_mem_ancestors (h : p.WellFormed) {as : List Nat} (has : p.Ancestors k as) (hj : j ∈ as) :
    p.depth j < p.depth k := by
  induction has with
  | top _ => cases hj
  | under hp _ ih =>
      rw [h.depth_of_parent? hp]
      rcases List.mem_cons.mp hj with rfl | hj
      · exact Nat.lt_succ_self _
      · exact Nat.lt_succ_of_lt (ih hj)

theorem depth_lt_of_mem_descendants (h : p.WellFormed) (hk : k ∈ p.descendants j) : p.depth j < p.depth k := by
  rcases h.exists_ancestors (h.descendants_subset hk) with ⟨as, has, _⟩
  exact h.depth_lt_of_mem_ancestors has ((h.mem_descendants_iff has).mp hk)

theorem depth_le_length (h : p.WellFormed) (hi : i ∈ p.order) : p.depth i ≤ p.order.length := by
  rcases h.exists_ancestors hi with ⟨as, has, hd⟩
  have hsubset : i :: as ⊆ p.order := by
    intro a ha
    rcases List.mem_cons.mp ha with rfl | ha
    · exact hi
    · exact h.mem_of_mem_descendants ((h.mem_descendants_iff has).mpr ha)
  have hle := (List.subperm_of_subset (h.nodup_ancestors has) hsubset).length_le
  rw [hd, Nat.add_comm]
  exact hle

/-!
# The levels after some rounds
-/

/-- The topmost level is a bound for the level of every section, and greater by one with each depth. -/
theorem least_add_depth_le (h : p.WellFormed) {least : Nat} (hleast : forall t, t ∈ p.topLevel -> least ≤ p.level t)
    (hi : i ∈ p.order) : least + p.depth i ≤ p.level i + 1 := by
  rcases h.exists_ancestors hi with ⟨as, has, -⟩
  induction has with
  | top hp =>
      rw [h.depth_of_parent?_eq_none hi hp]
      apply Nat.succ_le_succ
      apply hleast
      rw [topLevel, List.mem_filter, beq_iff_eq]
      exact ⟨hi, h.depth_of_parent?_eq_none hi hp⟩
  | under hp _ ih =>
      rcases h.parent_spec hp with ⟨_, hj, hlt⟩
      have hle := ih hj
      rw [h.depth_of_parent? hp]
      omega

end WellFormed

/-- The level of a section after some rounds that begin with the topmost level. -/
def levelAfter (p : Page) (least rounds i : Nat) : Nat :=
  if i ∈ p.order ∧ p.depth i ≤ rounds then least + p.depth i - 1 else p.level i

/-- A round puts the sections of one more depth on their level. -/
theorem levelAfter_succ (p : Page) (least rounds i : Nat) :
    p.levelAfter least (rounds + 1) i =
      if i ∈ p.order ∧ p.depth i = rounds + 1 then least + rounds else p.levelAfter least rounds i := by
  by_cases hlast : i ∈ p.order ∧ p.depth i = rounds + 1
  · rw [if_pos hlast, levelAfter, if_pos ⟨hlast.1, Nat.le_of_eq hlast.2⟩, hlast.2]
    rfl
  · have hsame : (i ∈ p.order ∧ p.depth i ≤ rounds + 1) <-> (i ∈ p.order ∧ p.depth i ≤ rounds) :=
      and_congr_right fun hi => by
        have hne : p.depth i ≠ rounds + 1 := fun hd => hlast ⟨hi, hd⟩
        omega
    rw [if_neg hlast, levelAfter, levelAfter, if_congr hsame rfl rfl]

namespace WellFormed

variable {p q : Page} {i j k least rounds : Nat}

theorem levelAfter_zero (h : p.WellFormed) (least i : Nat) : p.levelAfter least 0 i = p.level i := by
  rw [levelAfter, if_neg]
  rintro ⟨hi, hle⟩
  exact absurd (h.one_le_depth hi) (Nat.not_le.mpr (Nat.lt_succ_of_le hle))

theorem levelAfter_le (h : p.WellFormed) (hleast : forall t, t ∈ p.topLevel -> least ≤ p.level t) (rounds i : Nat) :
    p.levelAfter least rounds i ≤ p.level i := by
  rw [levelAfter]
  split
  · rename_i hi
    have hle := h.least_add_depth_le hleast hi.1
    omega
  · exact Nat.le_refl _

theorem levelAfter_lt_of_parent? (h : p.WellFormed) (hleast : forall t, t ∈ p.topLevel -> least ≤ p.level t)
    (hp : p.parent? i = some j) : p.levelAfter least rounds j < p.levelAfter least rounds i := by
  rcases h.parent_spec hp with ⟨hi, hj, hlt⟩
  have hdepth := h.depth_of_parent? hp
  have hpos := h.one_le_depth hj
  have hle := h.least_add_depth_le hleast hi
  have hle' := h.least_add_depth_le hleast hj
  simp only [levelAfter, hi, hj, true_and]
  split <;> split <;> omega

/-- A section that is no shallower in the tree and on no smaller level stays on no smaller level. -/
theorem levelAfter_mono (h : p.WellFormed) (hleast : forall t, t ∈ p.topLevel -> least ≤ p.level t) (hi : i ∈ p.order)
    (hk : k ∈ p.order) (hdepth : p.depth i ≤ p.depth k) (hlevel : p.level i ≤ p.level k) :
    p.levelAfter least rounds i ≤ p.levelAfter least rounds k := by
  have hle := h.least_add_depth_le hleast hi
  simp only [levelAfter, hi, hk, true_and]
  split <;> split <;> omega

/-- Between a section and its parent stand only sections that lie below the parent. -/
theorem depth_le_of_between (h : p.WellFormed) {front between back : List Nat}
    (horder : p.order = front ++ j :: (between ++ i :: back)) (hp : p.parent? i = some j)
    (hle : forall k, k ∈ between -> p.level i ≤ p.level k) : forall k, k ∈ between -> p.depth i ≤ p.depth k := by
  intro k hk
  have hlt := (h.parent_spec hp).2.2
  have hbelow := h.descendants_eq_append horder fun k hk => Nat.lt_of_lt_of_le hlt (hle k hk)
  rw [h.depth_of_parent? hp]
  apply h.depth_lt_of_mem_descendants
  rw [hbelow]
  exact List.mem_append_left _ hk

/-- In front of a section on top there is no shallower one. -/
theorem level_le_of_parent?_eq_none (h : p.WellFormed) {front back : List Nat} (horder : p.order = front ++ i :: back)
    (hp : p.parent? i = none) : forall k, k ∈ front -> p.level i ≤ p.level k := by
  have hi : i ∈ p.order := by simp [horder]
  cases hshallower : shallowerBefore p.level i p.order with
  | some j =>
      rw [h.parent?_eq_some_iff.mpr (of_shallowerBefore_eq_some hi hshallower)] at hp
      cases hp
  | none =>
      rcases of_shallowerBefore_eq_none hi hshallower with ⟨front', back', horder', hle⟩
      have hn := h.nodup
      rw [horder'] at hn
      rcases List.nodup_append.mp hn with ⟨_, hback, hapart⟩
      rw [horder'] at horder
      have hfront : front' = front := ((List.append_cons_inj_of_notMem
        (fun hmem => hapart i hmem i List.mem_cons_self rfl) (List.nodup_cons.mp hback).1).mp horder).1
      rw [← hfront]
      exact hle

/-- A page with the levels that it has after some rounds has the same tree. -/
theorem parent?_eq_of_levelAfter (h : p.WellFormed) (hq : q.WellFormed) (horder : q.order = p.order)
    (hleast : forall t, t ∈ p.topLevel -> least ≤ p.level t)
    (hlevel : forall i, i ∈ p.order -> q.level i = p.levelAfter least rounds i) (i : Nat) :
    q.parent? i = p.parent? i := by
  cases hp : p.parent? i with
  | some j =>
      rcases h.parent?_eq_some_iff.mp hp with ⟨front, between, back, heq, _, hle⟩
      rcases h.parent_spec hp with ⟨hi, hj, _⟩
      refine hq.parent?_eq_some_iff.mpr ⟨front, between, back, horder.trans heq, ?_, ?_⟩
      · rw [hlevel i hi, hlevel j hj]
        exact h.levelAfter_lt_of_parent? hleast hp
      · intro k hk
        have hk' : k ∈ p.order := by simp [heq, hk]
        rw [hlevel i hi, hlevel k hk']
        exact h.levelAfter_mono hleast hi hk' (h.depth_le_of_between heq hp hle k hk) (hle k hk)
  | none =>
      by_cases hi : i ∈ p.order
      · cases hq' : q.parent? i with
        | none => rfl
        | some j =>
            rcases hq.parent?_eq_some_iff.mp hq' with ⟨front, between, back, heq, hlt, _⟩
            have hj : j ∈ p.order := by simp [← horder, heq]
            have hbefore : p.order = (front ++ j :: between) ++ i :: back := by simp [← horder, heq]
            have hle := h.level_le_of_parent?_eq_none hbefore hp j (by simp)
            have hdepth : p.depth i ≤ p.depth j := by
              rw [h.depth_of_parent?_eq_none hi hp]
              exact h.one_le_depth hj
            rw [hlevel i hi, hlevel j hj] at hlt
            exact absurd hlt (Nat.not_lt.mpr (h.levelAfter_mono hleast hi hj hdepth hle))
      · exact hq.parent?_of_not_mem (horder ▸ hi)

/-!
# Pages with the same tree
-/

section SameParents

variable (hp : p.WellFormed) (hq : q.WellFormed) (horder : q.order = p.order)
  (hparent : forall i, q.parent? i = p.parent? i)

include hp hq horder hparent

theorem children_eq_of_parent?_eq (x : Nat) : q.children x = p.children x := by
  rw [hp.children_eq_filter, hq.children_eq_filter, horder]
  exact List.filter_congr fun i _ => by rw [hparent i]

theorem depth_eq_of_parent?_eq (hi : i ∈ p.order) : q.depth i = p.depth i := by
  rcases hp.exists_ancestors hi with ⟨as, has, -⟩
  induction has with
  | top hnone =>
      rw [hp.depth_of_parent?_eq_none hi hnone]
      exact hq.depth_of_parent?_eq_none (horder ▸ hi) ((hparent _).trans hnone)
  | under hsome _ ih =>
      rw [hp.depth_of_parent? hsome, hq.depth_of_parent? ((hparent _).trans hsome), ih (hp.parent_spec hsome).2.1]

theorem topLevel_eq_of_parent?_eq : q.topLevel = p.topLevel := by
  unfold topLevel
  rw [horder]
  exact List.filter_congr fun i hi => by rw [hp.depth_eq_of_parent?_eq hq horder hparent hi]

end SameParents

end WellFormed
end Page
end WikiEntry
