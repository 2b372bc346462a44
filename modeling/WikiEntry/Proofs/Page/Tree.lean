import WikiEntry.Page.Basic
import WikiEntry.Proofs.Page.Nearest
import WikiEntry.Proofs.Section.Sound

/-!
# The tree of a well-formed page

A page is orderly if its document order repeats no section and all its sections are sound, and well formed if
moreover the outline is the one that the levels induce.  On a well-formed page parents, children, depths and
subtrees can be read off the document order and the levels.
-/

namespace WikiEntry
namespace Page

open Outline

structure Orderly (p : Page) : Prop where
  nodup : p.order.Nodup
  made : forall i, i ∈ p.order -> i < p.sections.length
  sound : forall s, s ∈ p.sections -> s.Sound

structure WellFormed (p : Page) : Prop extends Orderly p where
  linked : p.outline = ofOrder p.level p.order

theorem get_sound {p : Page} (h : forall s, s ∈ p.sections -> s.Sound) (i : Nat) : (p.get i).Sound := by
  unfold get
  rw [List.getD_eq_getElem?_getD]
  cases hs : p.sections[i]? with
  | none => exact Section.sound_default
  | some s => exact h s (List.mem_of_getElem? hs)

namespace WellFormed

variable {p : Page} {i j k x : Nat}

theorem toList_outline (h : p.WellFormed) : p.outline.toList = p.order := by
  rw [h.linked, toList_ofOrder]

theorem nodup_outline (h : p.WellFormed) : p.outline.toList.Nodup := by
  rw [h.toList_outline]
  exact h.nodup

theorem level_eq_two (h : p.WellFormed) (hi : p.isLanguage i = true) : p.level i = 2 :=
  (get_sound h.sound i).level_of_isLanguage hi

/-!
# Parents
-/

theorem parentFrom?_outline (h : p.WellFormed) (hi : i ∈ p.order) :
    p.outline.parentFrom? i none = some (p.parent? i) := by
  unfold parent? Outline.parent?
  rw [h.linked, parentFrom?_ofOrder hi]
  simp

theorem parent?_of_not_mem (h : p.WellFormed) (hi : i ∉ p.order) : p.parent? i = none := by
  unfold parent? Outline.parent?
  rw [parentFrom?_eq_none_iff.mpr (by rwa [h.toList_outline])]
  rfl

theorem parent?_eq_some_iff (h : p.WellFormed) :
    p.parent? i = some j <-> NearestShallower p.level p.order j i := by
  by_cases hi : i ∈ p.order
  · rw [← shallowerBefore_eq_some_iff h.nodup hi]
    unfold parent? Outline.parent?
    rw [h.linked, parentFrom?_ofOrder hi]
    simp
  · rw [h.parent?_of_not_mem hi]
    constructor
    · intro hj
      cases hj
    · rintro ⟨front, between, back, heq, _, _⟩
      exact absurd (by simp [heq]) hi

theorem parent_spec (h : p.WellFormed) (hp : p.parent? i = some j) :
    i ∈ p.order ∧ j ∈ p.order ∧ p.level j < p.level i := by
  rcases h.parent?_eq_some_iff.mp hp with ⟨front, between, back, heq, hlt, _⟩
  exact ⟨by simp [heq], by simp [heq], hlt⟩

/-!
# Children
-/

theorem children_eq_filter (h : p.WellFormed) (x : Nat) :
    p.children x = p.order.filter fun i => p.parent? i == some x := by
  have hfilter := filter_parent none h.nodup_outline (Option.some_ne_none x).symm
  unfold children below
  rw [← hfilter, h.toList_outline]
  refine List.filter_congr fun i hi => ?_
  rw [h.parentFrom?_outline hi]
  rw [Bool.eq_iff_iff, beq_iff_eq, beq_iff_eq, Option.some.injEq]

theorem mem_children_iff (h : p.WellFormed) : i ∈ p.children x <-> p.parent? i = some x := by
  rw [h.children_eq_filter, List.mem_filter, beq_iff_eq]
  exact ⟨fun hi => hi.2, fun hi => ⟨(h.parent_spec hi).1, hi⟩⟩

theorem children_of_not_mem (h : p.WellFormed) (hx : x ∉ p.order) : p.children x = [] := by
  rw [h.children_eq_filter, List.filter_eq_nil_iff]
  intro i _ hi
  exact hx (h.parent_spec (beq_iff_eq.mp hi)).2.1

/-!
# Depths
-/

theorem depthFrom?_outline (h : p.WellFormed) (hi : i ∈ p.order) :
    p.outline.depthFrom? i 1 = some (p.depth i) := by
  unfold depth Outline.depth
  cases hd : p.outline.depthFrom? i 1 with
  | none => exact absurd (by rwa [h.toList_outline]) (depthFrom?_eq_none_iff.mp hd)
  | some d => rfl

/-- A section without a parent is topmost and lies at depth 1; any other one lies deeper than its parent. -/
theorem depth_spec (h : p.WellFormed) (hi : i ∈ p.order) :
    (i ∈ p.outline.roots ∧ p.parent? i = none ∧ p.depth i = 1) ∨
      (exists j, j ∈ p.order ∧ p.parent? i = some j ∧ p.depth i = p.depth j + 1 ∧ 1 ≤ p.depth j) := by
  have hi' : i ∈ p.outline.toList := by rwa [h.toList_outline]
  have hparent := h.parentFrom?_outline hi
  have hdepth := h.depthFrom?_outline hi
  rcases depthFrom?_spec 1 none h.nodup_outline (fun a ha => by cases ha) hi' with
    ⟨hroot, hp, hd⟩ | ⟨j, d, hj, hp, hle, hdj, hdi⟩
  · left
    rw [hparent] at hp
    rw [hdepth] at hd
    exact ⟨hroot, Option.some.inj hp, Option.some.inj hd⟩
  · right
    rw [h.toList_outline] at hj
    rw [hparent] at hp
    rw [hdepth] at hdi
    rw [h.depthFrom?_outline hj] at hdj
    cases hdj
    exact ⟨j, hj, Option.some.inj hp, Option.some.inj hdi, hle⟩

theorem depth_eq_one_iff (h : p.WellFormed) (hi : i ∈ p.order) : p.depth i = 1 <-> p.parent? i = none := by
  rcases h.depth_spec hi with ⟨_, hp, hd⟩ | ⟨j, _, hp, hd, hpos⟩
  · simp [hp, hd]
  · rw [hd, hp]
    constructor
    · intro he
      omega
    · intro hj
      cases hj

theorem topLevel_eq_roots (h : p.WellFormed) : p.topLevel = p.outline.roots := by
  have hfilter := filter_parent_above none h.nodup_outline (fun a ha => by cases ha)
  unfold topLevel
  rw [← hfilter, h.toList_outline]
  refine List.filter_congr fun i hi => ?_
  rw [h.parentFrom?_outline hi, Bool.eq_iff_iff, beq_iff_eq, beq_iff_eq, Option.some.injEq]
  exact h.depth_eq_one_iff hi

/-!
# Subtrees

Below a section is a part of the outline, so that looking up there and in the whole outline is the same.
-/

theorem below_of_not_mem (h : p.WellFormed) (hx : x ∉ p.order) : p.below x = .nil := by
  unfold below
  rw [children?_eq_none_iff.mpr (by rwa [h.toList_outline])]
  rfl

theorem children?_outline (h : p.WellFormed) (hx : x ∈ p.order) :
    p.outline.children? x = some (p.below x) := by
  unfold below
  cases hc : p.outline.children? x with
  | none => exact absurd (by rwa [h.toList_outline]) (children?_eq_none_iff.mp hc)
  | some b => rfl

theorem mem_of_mem_descendants (h : p.WellFormed) (hk : k ∈ p.descendants x) : x ∈ p.order := by
  refine Decidable.byContradiction fun hx => ?_
  unfold descendants at hk
  rw [h.below_of_not_mem hx] at hk
  cases hk

/-- A section and what lies below it stand together in the document. -/
theorem order_eq_append (h : p.WellFormed) (hx : x ∈ p.order) :
    exists front back, p.order = front ++ (p.subtree x ++ back) := by
  rcases (children?_spec h.nodup_outline (h.children?_outline hx)).1 with ⟨front, back, heq⟩
  rw [h.toList_outline] at heq
  exact ⟨front, back, heq⟩

theorem subtree_subset (h : p.WellFormed) (hx : x ∈ p.order) (hk : k ∈ p.subtree x) : k ∈ p.order := by
  rcases h.order_eq_append hx with ⟨front, back, heq⟩
  rw [heq]
  exact List.mem_append_right _ (List.mem_append_left _ hk)

theorem descendants_subset (h : p.WellFormed) (hk : k ∈ p.descendants x) : k ∈ p.order :=
  h.subtree_subset (h.mem_of_mem_descendants hk) (List.mem_cons_of_mem _ hk)

theorem nodup_subtree (h : p.WellFormed) (x : Nat) : (p.subtree x).Nodup := by
  by_cases hx : x ∈ p.order
  · rcases h.order_eq_append hx with ⟨front, back, heq⟩
    have hn := h.nodup
    rw [heq] at hn
    exact (List.nodup_append.mp (List.nodup_append.mp hn).2.1).1
  · unfold subtree descendants
    rw [h.below_of_not_mem hx]
    simp [toList]

theorem lookup_below (h : p.WellFormed) (hk : k ∈ p.descendants x) :
    p.outline.children? k = (p.below x).children? k ∧
      forall above, p.outline.parentFrom? k above = (p.below x).parentFrom? k (some x) :=
  (children?_spec h.nodup_outline (h.children?_outline (h.mem_of_mem_descendants hk))).2 k hk

theorem level_lt_of_mem_descendants (h : p.WellFormed) (hk : k ∈ p.descendants x) :
    p.level x < p.level k := by
  have hnested : Nested p.level p.outline := by
    rw [h.linked]
    exact nested_ofOrder p.order
  exact hnested.below (h.children?_outline (h.mem_of_mem_descendants hk)) k hk

theorem nodup_below (h : p.WellFormed) (x : Nat) : (p.below x).toList.Nodup :=
  (List.nodup_cons.mp (h.nodup_subtree x)).2

/-- What is below a section is each of its children with what is below that one. -/
theorem subtree_eq (h : p.WellFormed) (x : Nat) :
    p.subtree x = x :: (p.children x).flatMap p.subtree := by
  have hwalk := toList_eq_flatMap_roots (h.nodup_below x)
  unfold subtree
  rw [List.cons_inj_right]
  show (p.below x).toList = (p.below x).roots.flatMap p.subtree
  rw [hwalk]
  refine congrArg List.flatten (List.map_congr_left fun k hk => ?_)
  rw [← (h.lookup_below (mem_toList_of_mem_roots hk)).1]
  rfl

/-- The preorder walk of the tree is the document order. -/
theorem flatMap_subtree_topLevel (h : p.WellFormed) : p.topLevel.flatMap p.subtree = p.order := by
  rw [h.topLevel_eq_roots, ← h.toList_outline, toList_eq_flatMap_roots h.nodup_outline]
  rfl

theorem not_mem_descendants_of_parent?_eq_none (h : p.WellFormed) (hp : p.parent? k = none) :
    k ∉ p.descendants x := by
  intro hk
  have hlook := (h.lookup_below hk).2 none
  rw [h.parentFrom?_outline (h.descendants_subset hk), hp] at hlook
  exact parentFrom?_ne_none hlook.symm

theorem mem_descendants_iff_of_parent? (h : p.WellFormed) (hp : p.parent? k = some j) :
    k ∈ p.descendants x <-> x = j ∨ j ∈ p.descendants x := by
  have hchild : k ∈ (p.below j).roots := h.mem_children_iff.mpr hp
  constructor
  · intro hk
    have hlook := (h.lookup_below hk).2 none
    rw [h.parentFrom?_outline (h.descendants_subset hk), hp] at hlook
    rcases parent_mem hlook.symm with hx | hj
    · exact Or.inl (Option.some.inj hx)
    · exact Or.inr hj
  · rintro (rfl | hj)
    · exact mem_toList_of_mem_roots hchild
    · have hbelow : (p.below x).children? j = some (p.below j) := by
        rw [← (h.lookup_below hj).1]
        exact h.children?_outline (h.descendants_subset hj)
      rcases (children?_spec (h.nodup_below x) hbelow).1 with ⟨front, back, heq⟩
      unfold descendants
      rw [heq]
      simp [mem_toList_of_mem_roots hchild]

theorem mem_subtree_of_parent? (h : p.WellFormed) (hp : p.parent? k = some j) (hj : j ∈ p.subtree x) :
    k ∈ p.subtree x :=
  List.mem_cons_of_mem x ((h.mem_descendants_iff_of_parent? hp).mpr ((List.mem_cons.mp hj).imp Eq.symm id))

end WellFormed

/-!
# Ancestors
-/

/-- The sections above a section, the nearest one first. -/
inductive Ancestors (p : Page) : Nat -> List Nat -> Prop where
  | top {i : Nat} : p.parent? i = none -> Ancestors p i []
  | under {i j : Nat} {as : List Nat} : p.parent? i = some j -> Ancestors p j as -> Ancestors p i (j :: as)

namespace WellFormed

variable {p : Page} {i j k x : Nat}

/-- The way up ends, since levels get smaller on it, and its length gives the depth. -/
theorem exists_ancestors (h : p.WellFormed) (hi : i ∈ p.order) :
    exists as, p.Ancestors i as ∧ p.depth i = 1 + as.length := by
  induction hl : p.level i using Nat.strongRecOn generalizing i with
  | ind l ih =>
      rcases h.depth_spec hi with ⟨_, hp, hd⟩ | ⟨j, hj, hp, hd, _⟩
      · exact ⟨[], .top hp, hd⟩
      · have hlt : p.level j < l := hl ▸ (h.parent_spec hp).2.2
        rcases ih (p.level j) hlt hj rfl with ⟨as, has, hdj⟩
        exact ⟨j :: as, .under hp has, by rw [hd, hdj, List.length_cons]; omega⟩

theorem mem_descendants_iff (h : p.WellFormed) {as : List Nat} (has : p.Ancestors k as) :
    k ∈ p.descendants x <-> x ∈ as := by
  induction has with
  | top hp => simp [h.not_mem_descendants_of_parent?_eq_none hp]
  | under hp _ ih => rw [h.mem_descendants_iff_of_parent? hp, ih, List.mem_cons]

/-- On the way up levels get smaller, so that two sections on one level do not both lie above a third. -/
theorem level_lt_of_mem_ancestors (h : p.WellFormed) {as : List Nat} (has : p.Ancestors k as) (hx : x ∈ as) :
    p.level x < p.level k :=
  h.level_lt_of_mem_descendants ((h.mem_descendants_iff has).mpr hx)

theorem ancestors_level_inj (h : p.WellFormed) {as : List Nat} (has : p.Ancestors k as) (hi : i ∈ as)
    (hj : j ∈ as) (hl : p.level i = p.level j) : i = j := by
  induction has with
  | top _ => cases hi
  | under _ hup ih =>
      rcases List.mem_cons.mp hi with rfl | hi'
      · rcases List.mem_cons.mp hj with rfl | hj'
        · rfl
        · have hlt := h.level_lt_of_mem_ancestors hup hj'
          omega
      · rcases List.mem_cons.mp hj with rfl | hj'
        · have hlt := h.level_lt_of_mem_ancestors hup hi'
          omega
        · exact ih hi' hj'

/-- Subtrees of sections on one level have nothing in common. -/
theorem subtree_disjoint (h : p.WellFormed) (hl : p.level i = p.level j) (hki : k ∈ p.subtree i)
    (hkj : k ∈ p.subtree j) : i = j := by
  rcases List.mem_cons.mp hki with rfl | hdi
  · rcases List.mem_cons.mp hkj with rfl | hdj
    · rfl
    · have hlt := h.level_lt_of_mem_descendants hdj
      omega
  · rcases List.mem_cons.mp hkj with rfl | hdj
    · have hlt := h.level_lt_of_mem_descendants hdi
      omega
    · rcases h.exists_ancestors (h.descendants_subset hdi) with ⟨as, has, _⟩
      exact h.ancestors_level_inj has ((h.mem_descendants_iff has).mp hdi)
        ((h.mem_descendants_iff has).mp hdj) hl

end WellFormed
end Page
end WikiEntry
