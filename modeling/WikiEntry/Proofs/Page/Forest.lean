import WikiEntry.Page.Outline

/-!
# Looking up in a forest

A forest without repeated sections is looked up by its parts.  A section of the first tree is found there, with
the root of the tree above its topmost sections, and a section of the other trees is found among these.  The
forest below a section is a part of the preorder walk, and looking up in it gives what the whole forest gives.
-/

namespace WikiEntry
namespace Outline

/-!
# Members
-/

theorem mem_toList_of_mem_roots {f : Outline} {i : Nat} (h : i ∈ f.roots) : i ∈ f.toList := by
  induction f with
  | nil => cases h
  | node j l c r _ ih =>
      rcases List.mem_cons.mp h with rfl | hr
      · exact List.mem_cons_self
      · exact List.mem_cons_of_mem _ (List.mem_append_right _ (ih hr))

theorem mem_toList_node {i j l : Nat} {c r : Outline} :
    i ∈ (node j l c r).toList <-> i = j ∨ i ∈ c.toList ∨ i ∈ r.toList := by
  simp [toList]

/-- What it means that a forest repeats no section, said of its parts. -/
theorem nodup_node {j l : Nat} {c r : Outline} :
    (node j l c r).toList.Nodup <->
      j ∉ c.toList ∧ j ∉ r.toList ∧ c.toList.Nodup ∧ r.toList.Nodup ∧
        forall i, i ∈ c.toList -> i ∉ r.toList := by
  simp only [toList, List.nodup_cons, List.mem_append, not_or, List.nodup_append]
  constructor
  · rintro ⟨⟨hc, hr⟩, hcn, hrn, hne⟩
    exact ⟨hc, hr, hcn, hrn, fun i hi hi' => hne i hi i hi' rfl⟩
  · rintro ⟨hc, hr, hcn, hrn, hdisj⟩
    exact ⟨⟨hc, hr⟩, hcn, hrn, fun i hi k hk hik => hdisj i hi (hik ▸ hk)⟩

theorem parentFrom?_eq_none_iff {f : Outline} {i : Nat} {above : Option Nat} :
    f.parentFrom? i above = none <-> i ∉ f.toList := by
  induction f generalizing above with
  | nil => simp [parentFrom?, toList]
  | node j l c r ihc ihr =>
      by_cases hij : i = j
      · simp [parentFrom?, toList, hij]
      · simp [parentFrom?, toList, hij, ihc, ihr]

theorem children?_eq_none_iff {f : Outline} {i : Nat} : f.children? i = none <-> i ∉ f.toList := by
  induction f with
  | nil => simp [children?, toList]
  | node j l c r ihc ihr =>
      by_cases hij : i = j
      · simp [children?, toList, hij]
      · simp [children?, toList, hij, ihc, ihr]

theorem depthFrom?_eq_none_iff {f : Outline} {i depth : Nat} :
    f.depthFrom? i depth = none <-> i ∉ f.toList := by
  induction f generalizing depth with
  | nil => simp [depthFrom?, toList]
  | node j l c r ihc ihr =>
      by_cases hij : i = j
      · simp [depthFrom?, toList, hij]
      · simp [depthFrom?, toList, hij, ihc, ihr]

/-!
# The parts of a forest

The three ways to look up agree on where to look, so that each part has one lemma for each of them.
-/

section Parts

variable {i j l : Nat} {c r : Outline}

theorem parentFrom?_root {above : Option Nat} : (node j l c r).parentFrom? j above = some above := by
  simp [parentFrom?]

theorem parentFrom?_inner {above : Option Nat} (h : (node j l c r).toList.Nodup) (hi : i ∈ c.toList) :
    (node j l c r).parentFrom? i above = c.parentFrom? i (some j) := by
  rcases nodup_node.mp h with ⟨hjc, _, _, _, _⟩
  have hij : i ≠ j := fun e => hjc (e ▸ hi)
  cases hp : c.parentFrom? i (some j) with
  | none => exact absurd hi (parentFrom?_eq_none_iff.mp hp)
  | some p => simp [parentFrom?, hij, hp]

theorem parentFrom?_outer {above : Option Nat} (h : (node j l c r).toList.Nodup) (hi : i ∈ r.toList) :
    (node j l c r).parentFrom? i above = r.parentFrom? i above := by
  rcases nodup_node.mp h with ⟨_, hjr, _, _, hdisj⟩
  have hij : i ≠ j := fun e => hjr (e ▸ hi)
  have hp : c.parentFrom? i (some j) = none := parentFrom?_eq_none_iff.mpr fun hc => hdisj i hc hi
  simp [parentFrom?, hij, hp]

theorem children?_root : (node j l c r).children? j = some c := by
  simp [children?]

theorem children?_inner (h : (node j l c r).toList.Nodup) (hi : i ∈ c.toList) :
    (node j l c r).children? i = c.children? i := by
  rcases nodup_node.mp h with ⟨hjc, _, _, _, _⟩
  have hij : i ≠ j := fun e => hjc (e ▸ hi)
  cases hp : c.children? i with
  | none => exact absurd hi (children?_eq_none_iff.mp hp)
  | some p => simp [children?, hij, hp]

theorem children?_outer (h : (node j l c r).toList.Nodup) (hi : i ∈ r.toList) :
    (node j l c r).children? i = r.children? i := by
  rcases nodup_node.mp h with ⟨_, hjr, _, _, hdisj⟩
  have hij : i ≠ j := fun e => hjr (e ▸ hi)
  have hp : c.children? i = none := children?_eq_none_iff.mpr fun hc => hdisj i hc hi
  simp [children?, hij, hp]

theorem depthFrom?_root {depth : Nat} : (node j l c r).depthFrom? j depth = some depth := by
  simp [depthFrom?]

theorem depthFrom?_inner {depth : Nat} (h : (node j l c r).toList.Nodup) (hi : i ∈ c.toList) :
    (node j l c r).depthFrom? i depth = c.depthFrom? i (depth + 1) := by
  rcases nodup_node.mp h with ⟨hjc, _, _, _, _⟩
  have hij : i ≠ j := fun e => hjc (e ▸ hi)
  cases hp : c.depthFrom? i (depth + 1) with
  | none => exact absurd hi (depthFrom?_eq_none_iff.mp hp)
  | some p => simp [depthFrom?, hij, hp]

theorem depthFrom?_outer {depth : Nat} (h : (node j l c r).toList.Nodup) (hi : i ∈ r.toList) :
    (node j l c r).depthFrom? i depth = r.depthFrom? i depth := by
  rcases nodup_node.mp h with ⟨_, hjr, _, _, hdisj⟩
  have hij : i ≠ j := fun e => hjr (e ▸ hi)
  have hp : c.depthFrom? i (depth + 1) = none := depthFrom?_eq_none_iff.mpr fun hc => hdisj i hc hi
  simp [depthFrom?, hij, hp]

end Parts

/-!
# Children

The children of a section are the sections with that parent, in the order of the walk.  A forest that hangs
under a section of its own is never looked up, so that the parent of its topmost sections is not among them.
-/

/-- What a forest hangs under is the parent of the sections that have none in it. -/
theorem parentFrom?_above (f : Outline) (i : Nat) (above : Option Nat) :
    f.parentFrom? i above = (f.parentFrom? i none).map fun p => p.or above := by
  induction f generalizing above with
  | nil => rfl
  | node j l c r ihc ihr =>
      by_cases hij : i = j
      · simp [parentFrom?, hij]
      · simp only [parentFrom?, if_neg hij]
        rw [ihc, ihr]
        cases c.parentFrom? i none <;> simp

theorem parentFrom?_ne_none {f : Outline} {i j : Nat} : f.parentFrom? i (some j) ≠ some none := by
  rw [parentFrom?_above]
  cases f.parentFrom? i none with
  | none => simp
  | some p => cases p <;> simp

theorem parent_mem {f : Outline} {i x : Nat} {above : Option Nat}
    (h : f.parentFrom? i above = some (some x)) : above = some x ∨ x ∈ f.toList := by
  induction f generalizing above with
  | nil => cases h
  | node j l c r ihc ihr =>
      by_cases hij : i = j
      · left
        simpa [parentFrom?, hij] using h
      · simp only [parentFrom?, if_neg hij, Option.or_eq_some_iff] at h
        rcases h with h | ⟨_, h⟩
        · rcases ihc h with hx | hx
          · cases hx
            exact Or.inr List.mem_cons_self
          · exact Or.inr (mem_toList_node.mpr (Or.inr (Or.inl hx)))
        · rcases ihr h with hx | hx
          · exact Or.inl hx
          · exact Or.inr (mem_toList_node.mpr (Or.inr (Or.inr hx)))

/-- The topmost sections are those whose parent is what the forest hangs under. -/
theorem filter_parent_above {f : Outline} (above : Option Nat) (hn : f.toList.Nodup)
    (habove : forall a, above = some a -> a ∉ f.toList) :
    f.toList.filter (fun i => f.parentFrom? i above == some above) = f.roots := by
  induction f with
  | nil => rfl
  | node j l c r _ ihr =>
      rcases nodup_node.mp hn with ⟨_, _, _, hrn, _⟩
      have hinner : c.toList.filter (fun i => (node j l c r).parentFrom? i above == some above) = [] := by
        refine List.filter_eq_nil_iff.mpr fun i hi => ?_
        rw [parentFrom?_inner hn hi]
        intro he
        cases above with
        | none => exact parentFrom?_ne_none (beq_iff_eq.mp he)
        | some a =>
            have ha := habove a rfl
            rcases parent_mem (beq_iff_eq.mp he) with h | h
            · cases h
              exact ha List.mem_cons_self
            · exact ha (mem_toList_node.mpr (Or.inr (Or.inl h)))
      have houter : r.toList.filter (fun i => (node j l c r).parentFrom? i above == some above) = r.roots := by
        have habove' : forall a, above = some a -> a ∉ r.toList := fun a ha har =>
          habove a ha (mem_toList_node.mpr (Or.inr (Or.inr har)))
        rw [← ihr hrn habove']
        exact List.filter_congr fun i hi => by rw [parentFrom?_outer hn hi]
      rw [toList, List.filter_cons_of_pos (by simp [parentFrom?_root]), List.filter_append, hinner, houter]
      rfl

theorem filter_parent {f : Outline} {x : Nat} (above : Option Nat) (hn : f.toList.Nodup)
    (hx : above ≠ some x) :
    f.toList.filter (fun i => f.parentFrom? i above == some (some x)) = ((f.children? x).getD nil).roots := by
  induction f generalizing above with
  | nil => rfl
  | node j l c r ihc ihr =>
      rcases nodup_node.mp hn with ⟨hjc, hjr, hcn, hrn, hdisj⟩
      have hroot : ((node j l c r).parentFrom? j above == some (some x)) = false := by
        simpa [parentFrom?_root] using hx
      have hinner : c.toList.filter (fun i => (node j l c r).parentFrom? i above == some (some x)) =
          c.toList.filter (fun i => c.parentFrom? i (some j) == some (some x)) :=
        List.filter_congr fun i hi => by rw [parentFrom?_inner hn hi]
      have houter : r.toList.filter (fun i => (node j l c r).parentFrom? i above == some (some x)) =
          r.toList.filter (fun i => r.parentFrom? i above == some (some x)) :=
        List.filter_congr fun i hi => by rw [parentFrom?_outer hn hi]
      rw [toList, List.filter_cons_of_neg (by simp [hroot]), List.filter_append, hinner, houter, ihr _ hrn hx]
      by_cases hxj : x = j
      · have hr : r.children? x = none := children?_eq_none_iff.mpr (hxj ▸ hjr)
        rw [hxj, filter_parent_above _ hcn (fun a ha => Option.some.inj ha ▸ hjc), ← hxj, hr, hxj, children?_root]
        simp [roots]
      · rw [ihc _ hcn (fun e => hxj (Option.some.inj e).symm)]
        cases hc : c.children? x with
        | none => simp [children?, hxj, hc, roots]
        | some below =>
            have hmem : x ∈ c.toList := Decidable.byContradiction fun hxc => by
              rw [children?_eq_none_iff.mpr hxc] at hc
              cases hc
            simp [children?, hxj, hc, children?_eq_none_iff.mpr (hdisj x hmem), roots]

theorem mem_roots_of_parentFrom? {f : Outline} {i : Nat} (h : f.parentFrom? i none = some none) :
    i ∈ f.roots := by
  induction f with
  | nil => cases h
  | node j l c r _ ihr =>
      by_cases hij : i = j
      · exact hij ▸ List.mem_cons_self
      · simp only [parentFrom?, if_neg hij, Option.or_eq_some_iff] at h
        rcases h with h | ⟨_, h⟩
        · rw [parentFrom?_above] at h
          cases hp : c.parentFrom? i none <;> simp [hp] at h
        · exact List.mem_cons_of_mem _ (ihr h)

/-!
# The forest below a section
-/

/-- The sections below a section follow it in the walk, and looking up among them gives what the whole forest
gives. -/
theorem children?_spec {f below : Outline} {x : Nat} (hn : f.toList.Nodup) (h : f.children? x = some below) :
    (exists front back, f.toList = front ++ x :: (below.toList ++ back)) ∧
      forall k, k ∈ below.toList ->
        f.children? k = below.children? k ∧
          forall above, f.parentFrom? k above = below.parentFrom? k (some x) := by
  induction f with
  | nil => cases h
  | node j l c r ihc ihr =>
      rcases nodup_node.mp hn with ⟨hjc, hjr, hcn, hrn, hdisj⟩
      have hmem : x ∈ (node j l c r).toList := Decidable.byContradiction fun hx => by
        rw [children?_eq_none_iff.mpr hx] at h
        cases h
      rcases mem_toList_node.mp hmem with rfl | hxc | hxr
      · rw [children?_root] at h
        cases h
        refine ⟨⟨[], r.toList, rfl⟩, fun k hk => ⟨children?_inner hn hk, fun _ => parentFrom?_inner hn hk⟩⟩
      · rw [children?_inner hn hxc] at h
        rcases ihc hcn h with ⟨⟨front, back, heq⟩, hlook⟩
        refine ⟨⟨j :: front, back ++ r.toList, by simp [toList, heq]⟩, fun k hk => ?_⟩
        have hkc : k ∈ c.toList := by simp [heq, hk]
        exact ⟨(children?_inner hn hkc).trans (hlook k hk).1,
          fun _ => (parentFrom?_inner hn hkc).trans ((hlook k hk).2 _)⟩
      · rw [children?_outer hn hxr] at h
        rcases ihr hrn h with ⟨⟨front, back, heq⟩, hlook⟩
        refine ⟨⟨j :: (c.toList ++ front), back, by simp [toList, heq]⟩, fun k hk => ?_⟩
        have hkr : k ∈ r.toList := by simp [heq, hk]
        exact ⟨(children?_outer hn hkr).trans (hlook k hk).1,
          fun _ => (parentFrom?_outer hn hkr).trans ((hlook k hk).2 _)⟩

/-- The walk visits each topmost section and then what lies below it. -/
theorem toList_eq_flatMap_roots {f : Outline} (hn : f.toList.Nodup) :
    f.toList = f.roots.flatMap fun i => i :: ((f.children? i).getD nil).toList := by
  induction f with
  | nil => rfl
  | node j l c r _ ihr =>
      rcases nodup_node.mp hn with ⟨_, _, _, hrn, _⟩
      have houter : (r.roots.flatMap fun i => i :: (((node j l c r).children? i).getD nil).toList) = r.toList := by
        rw [ihr hrn]
        refine congrArg List.flatten (List.map_congr_left fun i hi => ?_)
        rw [children?_outer hn (mem_toList_of_mem_roots hi)]
      simp [roots, toList, houter, children?_root]

/-!
# Depths
-/

/-- A topmost section lies at the depth of the forest, and any other one deeper than its parent by one. -/
theorem depthFrom?_spec {f : Outline} {i : Nat} (depth : Nat) (above : Option Nat) (hn : f.toList.Nodup)
    (habove : forall a, above = some a -> a ∉ f.toList) (hi : i ∈ f.toList) :
    (i ∈ f.roots ∧ f.parentFrom? i above = some above ∧ f.depthFrom? i depth = some depth) ∨
      (exists j d, j ∈ f.toList ∧ f.parentFrom? i above = some (some j) ∧ depth ≤ d ∧
        f.depthFrom? j depth = some d ∧ f.depthFrom? i depth = some (d + 1)) := by
  induction f generalizing depth above with
  | nil => cases hi
  | node k l c r ihc ihr =>
      rcases nodup_node.mp hn with ⟨hkc, hkr, hcn, hrn, hdisj⟩
      rcases mem_toList_node.mp hi with rfl | hic | hir
      · left
        exact ⟨List.mem_cons_self, parentFrom?_root, depthFrom?_root⟩
      · right
        rw [parentFrom?_inner hn hic, depthFrom?_inner hn hic]
        have habove' : forall a, some k = some a -> a ∉ c.toList := fun a ha =>
          Option.some.inj ha ▸ hkc
        rcases ihc _ _ hcn habove' hic with ⟨_, hp, hd⟩ | ⟨j, d, hj, hp, hle, hdj, hdi⟩
        · exact ⟨k, depth, mem_toList_node.mpr (Or.inl rfl), hp, Nat.le_refl _, depthFrom?_root, hd⟩
        · refine ⟨j, d, mem_toList_node.mpr (Or.inr (Or.inl hj)), hp, by omega, ?_, hdi⟩
          rw [depthFrom?_inner hn hj, hdj]
      · rw [parentFrom?_outer hn hir, depthFrom?_outer hn hir]
        have habove' : forall a, above = some a -> a ∉ r.toList := fun a ha har =>
          habove a ha (mem_toList_node.mpr (Or.inr (Or.inr har)))
        rcases ihr _ _ hrn habove' hir with ⟨hr, hp, hd⟩ | ⟨j, d, hj, hp, hle, hdj, hdi⟩
        · exact Or.inl ⟨List.mem_cons_of_mem _ hr, hp, hd⟩
        · refine Or.inr ⟨j, d, mem_toList_node.mpr (Or.inr (Or.inr hj)), hp, hle, ?_, hdi⟩
          rw [depthFrom?_outer hn hj, hdj]

end Outline
end WikiEntry
