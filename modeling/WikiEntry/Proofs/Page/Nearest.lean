import WikiEntry.Proofs.Page.Forest

/-!
# The outline that levels induce

The forest is built from the last section to the first: a section takes the deeper trees that follow it as its
children.  Two facts about such forests carry everything else.  What lies below a section is deeper than the
section, and the trees of a forest do not get deeper from left to right, so that the trees that a section takes
are all those that are deeper.  Read from the side of a section that is taken, its parent is the nearest section
before it whose level is smaller.
-/

namespace WikiEntry
namespace Outline

section Levels

variable {level : Nat -> Nat}

/-!
# Nested levels
-/

/-- A forest that shows the levels of its sections, with deeper sections below and none deeper to the right. -/
def Nested (level : Nat -> Nat) : Outline -> Prop
  | nil => True
  | node i l c r =>
      l = level i ∧ (forall j, j ∈ c.toList -> level i < level j) ∧
        (forall j, j ∈ r.roots -> level j ≤ level i) ∧ Nested level c ∧ Nested level r

theorem roots_spanDeeper (l : Nat) (f : Outline) :
    (f.spanDeeper l).1.roots ++ (f.spanDeeper l).2.roots = f.roots := by
  induction f with
  | nil => rfl
  | node i k c r _ ih =>
      by_cases h : l < k
      · simp [spanDeeper, h, roots, ih]
      · simp [spanDeeper, h, roots]

/-- In a nested forest the topmost sections bound the level of all others from below. -/
theorem Nested.deeper_of_roots {f : Outline} {l : Nat} (h : Nested level f)
    (hroots : forall j, j ∈ f.roots -> l < level j) : forall j, j ∈ f.toList -> l < level j := by
  induction f with
  | nil =>
      intro j hj
      cases hj
  | node i k c r _ ihr =>
      rcases h with ⟨_, hc, _, _, hr⟩
      have hi : l < level i := hroots i List.mem_cons_self
      intro j hj
      rcases mem_toList_node.mp hj with rfl | hjc | hjr
      · exact hi
      · exact Nat.lt_trans hi (hc j hjc)
      · exact ihr hr (fun k hk => hroots k (List.mem_cons_of_mem _ hk)) j hjr

theorem Nested.spanDeeper {f : Outline} (l : Nat) (h : Nested level f) :
    Nested level (f.spanDeeper l).1 ∧ Nested level (f.spanDeeper l).2 ∧
      (forall j, j ∈ (f.spanDeeper l).1.roots -> l < level j) ∧
      (forall j, j ∈ (f.spanDeeper l).2.roots -> level j ≤ l) := by
  induction f with
  | nil => simp [Outline.spanDeeper, Nested, roots]
  | node i k c r _ ihr =>
      rcases h with ⟨rfl, hc, hle, hnc, hnr⟩
      rcases ihr hnr with ⟨hin, hout, hdeep, hshallow⟩
      by_cases hlt : l < level i
      · simp only [Outline.spanDeeper, if_pos hlt]
        refine ⟨⟨rfl, hc, fun j hj => hle j ?_, hnc, hin⟩, hout, fun j hj => ?_, hshallow⟩
        · rw [← roots_spanDeeper l r]
          exact List.mem_append_left _ hj
        · rcases List.mem_cons.mp hj with rfl | hj
          · exact hlt
          · exact hdeep j hj
      · simp only [Outline.spanDeeper, if_neg hlt]
        refine ⟨trivial, ⟨rfl, hc, hle, hnc, hnr⟩, ?_, ?_⟩
        · intro j hj
          cases hj
        · intro j hj
          rcases List.mem_cons.mp hj with rfl | hj
          · exact Nat.le_of_not_lt hlt
          · exact Nat.le_trans (hle j hj) (Nat.le_of_not_lt hlt)

theorem Nested.adopt {f : Outline} (i : Nat) (h : Nested level f) :
    Nested level (Outline.adopt i (level i) f) := by
  rcases h.spanDeeper (level i) with ⟨hin, hout, hdeep, hshallow⟩
  exact ⟨rfl, hin.deeper_of_roots hdeep, hshallow, hin, hout⟩

/-- The outline of some sections in document order. -/
def ofOrder (level : Nat -> Nat) (order : List Nat) : Outline :=
  ofList (order.map fun i => (i, level i))

@[simp] theorem toList_ofOrder (order : List Nat) : (ofOrder level order).toList = order := by
  simp [ofOrder, List.map_map, Function.comp_def]

theorem ofOrder_cons (i : Nat) (order : List Nat) :
    ofOrder level (i :: order) = adopt i (level i) (ofOrder level order) :=
  rfl

theorem nested_ofOrder (order : List Nat) : Nested level (ofOrder level order) := by
  induction order with
  | nil => trivial
  | cons i order ih => exact ih.adopt i

/-- Only the levels of the sections themselves count. -/
theorem ofOrder_congr {level' : Nat -> Nat} {order : List Nat} (h : forall i, i ∈ order -> level i = level' i) :
    ofOrder level order = ofOrder level' order := by
  unfold ofOrder
  rw [List.map_congr_left fun i hi => by rw [h i hi]]

/-- What lies below a section is deeper. -/
theorem Nested.below {f below : Outline} {x : Nat} (h : Nested level f) (hx : f.children? x = some below) :
    forall k, k ∈ below.toList -> level x < level k := by
  induction f with
  | nil => cases hx
  | node j l c r ihc ihr =>
      rcases h with ⟨_, hc, _, hnc, hnr⟩
      by_cases hxj : x = j
      · simp only [children?, if_pos hxj, Option.some.injEq] at hx
        rw [hxj, ← hx]
        exact hc
      · simp only [children?, if_neg hxj, Option.or_eq_some_iff] at hx
        rcases hx with hx | ⟨_, hx⟩
        · exact ihc hnc hx
        · exact ihr hnr hx

/-!
# The nearest shallower section
-/

/-- The last section in front of `i` that is shallower than `i`, searched from the first section on. -/
def shallowerBefore (level : Nat -> Nat) (i : Nat) : List Nat -> Option Nat
  | [] => none
  | j :: order =>
      if i = j then none
      else (shallowerBefore level i order).or (if level j < level i then some j else none)

theorem parentFrom?_spanDeeper (l : Nat) (f : Outline) (i : Nat) (above : Option Nat) :
    ((f.spanDeeper l).1.parentFrom? i above).or ((f.spanDeeper l).2.parentFrom? i above) =
      f.parentFrom? i above := by
  induction f with
  | nil => rfl
  | node j k c r _ ih =>
      by_cases h : l < k
      · simp only [spanDeeper, h, if_true]
        by_cases hij : i = j
        · simp [parentFrom?, hij]
        · simp only [parentFrom?, if_neg hij]
          rw [Option.or_assoc, ih]
      · simp [spanDeeper, h, parentFrom?]

/-- The parent of a section in the outline of an order is the nearest shallower section before it. -/
theorem parentFrom?_ofOrder {order : List Nat} {i : Nat} (hi : i ∈ order) (above : Option Nat) :
    (ofOrder level order).parentFrom? i above = some ((shallowerBefore level i order).or above) := by
  induction order generalizing above with
  | nil => cases hi
  | cons j order ih =>
      rw [ofOrder_cons]
      by_cases hij : i = j
      · simp [adopt, parentFrom?, shallowerBefore, hij]
      · have hi' : i ∈ order := (List.mem_cons.mp hi).resolve_left hij
        have hnested : Nested level (ofOrder level order) := nested_ofOrder order
        rcases hnested.spanDeeper (level j) with ⟨hin, _, hdeep, hshallow⟩
        have hsplit := parentFrom?_spanDeeper (level j) (ofOrder level order) i
        simp only [adopt, parentFrom?, if_neg hij, shallowerBefore]
        -- The forest in which `i` lies has the parent that the whole one has, and says where `j` comes in.
        cases hc : ((ofOrder level order).spanDeeper (level j)).1.parentFrom? i (some j) with
        | some p =>
            have hp : p = (shallowerBefore level i order).or (some j) := by
              have hwhole := ih hi' (some j)
              rw [← hsplit, hc] at hwhole
              simpa using hwhole
            have hmem : i ∈ ((ofOrder level order).spanDeeper (level j)).1.toList :=
              Decidable.byContradiction fun h => by
                rw [parentFrom?_eq_none_iff.mpr h] at hc
                cases hc
            have hlt : level j < level i := hin.deeper_of_roots hdeep i hmem
            rw [hp, if_pos hlt]
            cases shallowerBefore level i order <;> rfl
        | none =>
            have hnot := parentFrom?_eq_none_iff.mp hc
            have hnone : forall a, ((ofOrder level order).spanDeeper (level j)).1.parentFrom? i a = none :=
              fun a => parentFrom?_eq_none_iff.mpr hnot
            have hrest : forall a, ((ofOrder level order).spanDeeper (level j)).2.parentFrom? i a =
                some ((shallowerBefore level i order).or a) := fun a => by
              rw [← ih hi' a, ← hsplit a, hnone a, Option.none_or]
            rw [hrest, Option.none_or]
            cases hs : shallowerBefore level i order with
            | some k => rfl
            | none =>
                have hroot : i ∈ ((ofOrder level order).spanDeeper (level j)).2.roots :=
                  mem_roots_of_parentFrom? (by rw [hrest, hs]; rfl)
                rw [if_neg (Nat.not_lt.mpr (hshallow i hroot))]
                rfl

/-- `j` stands before `i`, is shallower, and nothing between them is. -/
def NearestShallower (level : Nat -> Nat) (order : List Nat) (j i : Nat) : Prop :=
  exists front between back, order = front ++ j :: (between ++ i :: back) ∧ level j < level i ∧
    forall k, k ∈ between -> level i ≤ level k

/-- Without a shallower section before it, a section has only deeper ones and equal ones before it. -/
theorem of_shallowerBefore_eq_none {order : List Nat} {i : Nat} (hi : i ∈ order)
    (h : shallowerBefore level i order = none) :
    exists front back, order = front ++ i :: back ∧ forall k, k ∈ front -> level i ≤ level k := by
  induction order with
  | nil => cases hi
  | cons k order ih =>
      by_cases hik : i = k
      · exact ⟨[], order, by rw [hik]; rfl, fun k hk => by cases hk⟩
      · simp only [shallowerBefore, if_neg hik, Option.or_eq_none_iff, ite_eq_right_iff, reduceCtorEq,
          imp_false] at h
        rcases ih ((List.mem_cons.mp hi).resolve_left hik) h.1 with ⟨front, back, heq, hle⟩
        refine ⟨k :: front, back, by rw [heq]; rfl, fun m hm => ?_⟩
        rcases List.mem_cons.mp hm with rfl | hm
        · exact Nat.le_of_not_lt h.2
        · exact hle m hm

theorem of_shallowerBefore_eq_some {order : List Nat} {i j : Nat} (hi : i ∈ order)
    (h : shallowerBefore level i order = some j) : NearestShallower level order j i := by
  induction order with
  | nil => cases hi
  | cons k order ih =>
      by_cases hik : i = k
      · simp [shallowerBefore, hik] at h
      · have hi' : i ∈ order := (List.mem_cons.mp hi).resolve_left hik
        simp only [shallowerBefore, if_neg hik, Option.or_eq_some_iff] at h
        rcases h with h | ⟨hnone, h⟩
        · rcases ih hi' h with ⟨front, between, back, heq, hlt, hle⟩
          exact ⟨k :: front, between, back, by rw [heq]; rfl, hlt, hle⟩
        · rcases of_shallowerBefore_eq_none hi' hnone with ⟨front, back, heq, hle⟩
          by_cases hlt : level k < level i
          · rw [if_pos hlt] at h
            cases h
            exact ⟨[], front, back, by rw [heq]; rfl, hlt, hle⟩
          · rw [if_neg hlt] at h
            cases h

theorem shallowerBefore_append {i : Nat} {between back : List Nat}
    (h : forall k, k ∈ between -> level i ≤ level k) :
    shallowerBefore level i (between ++ i :: back) = none := by
  induction between with
  | nil => simp [shallowerBefore]
  | cons k between ih =>
      have hk : ¬ level k < level i := Nat.not_lt.mpr (h k List.mem_cons_self)
      have hrest := ih fun m hm => h m (List.mem_cons_of_mem _ hm)
      by_cases hik : i = k
      · simp [shallowerBefore, hik]
      · simp [shallowerBefore, hik, hk, hrest]

theorem shallowerBefore_eq_some_iff {order : List Nat} {i j : Nat} (hn : order.Nodup) (hi : i ∈ order) :
    shallowerBefore level i order = some j <-> NearestShallower level order j i := by
  constructor
  · exact of_shallowerBefore_eq_some hi
  · rintro ⟨front, between, back, rfl, hlt, hle⟩
    clear hi
    induction front with
    | nil =>
        have hij : i ≠ j := fun e => Nat.lt_irrefl _ (e ▸ hlt)
        simp [shallowerBefore, hij, hlt, shallowerBefore_append hle]
    | cons k front ih =>
        rcases List.nodup_cons.mp hn with ⟨hk, hn⟩
        have hik : i ≠ k := fun e => hk (by simp [e])
        simp [shallowerBefore, hik, ih hn]

end Levels

end Outline
end WikiEntry
