import WikiEntry.Proofs.Page.WellFormed

/-!
# Sorting permutes the document

Sorting moves sections together with what lies below them, so that nothing is lost and nothing is doubled.  For
the children of one section, or the topmost sections, this is because the subtrees of children make up what lies
below their parent.  For languages it takes that they all stand on one level: no language lies below
another one, and what lies below no language is moved to the end.
-/

namespace WikiEntry
namespace Page

/-!
# Stable sorting

A comparison of sections that is a total preorder puts them in order, and leaves two sections in the order in which they
stand if that is no worse.
-/

section StableSorting

variable {p : Page} {cmp : Section -> Section -> Ordering} {ids : List Nat}

theorem inOrder_iff {i j : Nat} : p.inOrder cmp i j = true <-> (cmp (p.get i) (p.get j)).isLE = true := by
  unfold inOrder
  cases cmp (p.get i) (p.get j) <;> decide

variable [Std.TransCmp cmp]

theorem inOrder_trans (i j k : Nat) (hij : p.inOrder cmp i j = true) (hjk : p.inOrder cmp j k = true) :
    p.inOrder cmp i k = true := by
  rw [inOrder_iff] at *
  exact Std.TransCmp.isLE_trans hij hjk

theorem inOrder_total (i j : Nat) : (p.inOrder cmp i j || p.inOrder cmp j i) = true := by
  have hswap : cmp (p.get j) (p.get i) = (cmp (p.get i) (p.get j)).swap := Std.OrientedCmp.eq_swap
  unfold inOrder
  rw [hswap]
  cases cmp (p.get i) (p.get j) <;> rfl

theorem pairwise_sortBy (ids : List Nat) : (p.sortBy cmp ids).Pairwise fun i j => p.inOrder cmp i j = true :=
  List.pairwise_mergeSort inOrder_trans inOrder_total ids

theorem sublist_sortBy {i j : Nat} (hsublist : [i, j].Sublist ids) (hij : p.inOrder cmp i j = true) :
    [i, j].Sublist (p.sortBy cmp ids) :=
  List.pair_sublist_mergeSort inOrder_trans inOrder_total hij hsublist

theorem sortBy_of_pairwise {cmp : Section -> Section -> Ordering}
    (h : ids.Pairwise fun i j => p.inOrder cmp i j = true) : p.sortBy cmp ids = ids :=
  List.mergeSort_of_pairwise h

end StableSorting

namespace WellFormed

variable {p : Page}

/-!
# Children
-/

theorem perm_sortBy (cmp : Section -> Section -> Ordering) (ids : List Nat) : (p.sortBy cmp ids).Perm ids :=
  List.mergeSort_perm ids _

theorem position?_eq_some (h : p.WellFormed) {front back : List Nat} {x : Nat}
    (heq : p.order = front ++ x :: back) : p.position? x = some front.length := by
  have hn := h.nodup
  rw [heq] at hn
  have hx : x ∉ front := fun hx => (List.nodup_append.mp hn).2.2 x hx x List.mem_cons_self rfl
  unfold position?
  rw [heq, List.idxOf?_eq_some_iff]
  refine ⟨by simp, by simp, fun j hj hjx => hx ?_⟩
  rw [List.getElem_append_left hj] at hjx
  exact hjx ▸ List.getElem_mem hj

/-- The subtrees of the children of a section in any order are a rearrangement of what lies below it. -/
theorem perm_block (h : p.WellFormed) {x : Nat} {ids : List Nat} (hids : ids.Perm (p.children x)) :
    (ids.flatMap p.subtree).Perm (p.descendants x) := by
  have hbelow : (p.children x).flatMap p.subtree = p.descendants x :=
    (List.cons.inj (h.subtree_eq x)).2.symm
  exact hbelow ▸ hids.flatMap_right p.subtree

/-- The subtrees of the topmost sections in any order are a rearrangement of the document. -/
theorem perm_document (h : p.WellFormed) {ids : List Nat} (hids : ids.Perm p.topLevel) :
    (ids.flatMap p.subtree).Perm p.order :=
  h.flatMap_subtree_topLevel ▸ hids.flatMap_right p.subtree

theorem reorder_children_eq (h : p.WellFormed) {front back : List Nat} {x : Nat} {ids : List Nat}
    (heq : p.order = front ++ x :: (p.descendants x ++ back)) (hids : ids.Perm (p.children x)) :
    p.reorder (some x) ids = p.setOrder (front ++ x :: (ids.flatMap p.subtree ++ back)) := by
  have hblock : (ids.flatMap p.subtree).eraseDups = ids.flatMap p.subtree :=
    eraseDups_of_nodup ((h.perm_block hids).nodup_iff.mpr (h.nodup_below x))
  have htake : p.order.take (front.length + 1) = front ++ [x] := by
    simp [heq, List.take_append, List.take_of_length_le]
  have hdrop : p.order.drop (front.length + 1 + (p.descendants x).length) = back := by
    rw [heq, Nat.add_assoc, ← List.drop_drop, List.drop_left, Nat.add_comm 1, List.drop_succ_cons, List.drop_left]
  simp only [reorder, h.position?_eq_some heq, hblock, htake, hdrop, List.append_assoc, List.cons_append,
    List.nil_append]

theorem reorder_topLevel_eq (h : p.WellFormed) {ids : List Nat} (hids : ids.Perm p.topLevel) :
    p.reorder none ids = p.setOrder (ids.flatMap p.subtree) := by
  have hperm := h.perm_document hids
  have hblock : (ids.flatMap p.subtree).eraseDups = ids.flatMap p.subtree :=
    eraseDups_of_nodup (hperm.nodup_iff.mpr h.nodup)
  have hrest : (p.order.filter fun i => !(ids.flatMap p.subtree).contains i) = [] :=
    List.filter_eq_nil_iff.mpr fun i hi => by simpa using hperm.mem_iff.mpr hi
  simp only [reorder, hblock, hrest, List.append_nil]

theorem perm_reorder_children (h : p.WellFormed) {x : Nat} {ids : List Nat} (hids : ids.Perm (p.children x)) :
    (p.reorder (some x) ids).order.Perm p.order := by
  by_cases hx : x ∈ p.order
  · rcases h.order_eq_append hx with ⟨front, back, heq⟩
    have heq : p.order = front ++ x :: (p.descendants x ++ back) := heq
    rw [h.reorder_children_eq heq hids, heq]
    exact (((h.perm_block hids).append_right back).cons x).append_left front
  · have hnone : p.position? x = none := List.idxOf?_eq_none_iff.mpr hx
    simp [reorder, hnone]

theorem perm_reorder_topLevel (h : p.WellFormed) {ids : List Nat} (hids : ids.Perm p.topLevel) :
    (p.reorder none ids).order.Perm p.order := by
  rw [h.reorder_topLevel_eq hids]
  exact h.perm_document hids

/-- Sorting the children of a section, or the topmost sections, permutes the document. -/
theorem perm_sortChildren (h : p.WellFormed) (parent? : Option Nat) (cmp : Section -> Section -> Ordering) :
    (p.sortChildren parent? cmp).order.Perm p.order := by
  cases parent? with
  | none =>
      simp only [sortChildren]
      split
      · exact List.Perm.refl _
      · exact h.perm_reorder_topLevel (perm_sortBy cmp _)
  | some x =>
      simp only [sortChildren]
      split
      · exact List.Perm.refl _
      · exact h.perm_reorder_children (perm_sortBy cmp _)

theorem perm_sortByRank (h : p.WellFormed) (c : Config) (x : Nat) :
    (p.sortByRank c x).order.Perm p.order := by
  unfold sortByRank
  split
  · exact List.Perm.refl _
  · exact h.perm_sortChildren (some x) _

end WellFormed

/-- Reordering gives the page as it was or the page under the new order. -/
theorem reorder_eq (p : Page) (parent? : Option Nat) (ids : List Nat) :
    p.reorder parent? ids = p ∨ p.reorder parent? ids = p.setOrder (p.reorder parent? ids).order := by
  cases parent? with
  | none => exact Or.inr rfl
  | some x =>
      cases hpos : p.position? x with
      | none =>
          left
          simp [reorder, hpos]
      | some n =>
          right
          simp only [reorder, hpos]
          rfl

theorem sortChildren_eq (p : Page) (parent? : Option Nat) (cmp : Section -> Section -> Ordering) :
    p.sortChildren parent? cmp = p ∨
      p.sortChildren parent? cmp = p.setOrder (p.sortChildren parent? cmp).order := by
  cases parent? with
  | none =>
      simp only [sortChildren]
      split
      · exact Or.inl rfl
      · exact reorder_eq p none _
  | some x =>
      simp only [sortChildren]
      split
      · exact Or.inl rfl
      · exact reorder_eq p (some x) _

namespace WellFormed

variable {p : Page}

theorem sortChildren (h : p.WellFormed) (parent? : Option Nat) (cmp : Section -> Section -> Ordering) :
    (p.sortChildren parent? cmp).WellFormed := by
  rcases sortChildren_eq p parent? cmp with he | he
  · rw [he]
    exact h
  · rw [he]
    exact h.setOrder_of_perm (h.perm_sortChildren parent? cmp)

theorem sortByRank (h : p.WellFormed) (c : Config) (x : Nat) : (p.sortByRank c x).WellFormed := by
  unfold Page.sortByRank
  split
  · exact h
  · exact h.sortChildren (some x) _

/-- Sorting below one section after the other keeps the page well formed and permutes the document. -/
theorem foldl_sortByRank (h : p.WellFormed) (c : Config) (ids : List Nat) :
    (ids.foldl (Page.sortByRank c) p).WellFormed ∧ (ids.foldl (Page.sortByRank c) p).order.Perm p.order := by
  induction ids generalizing p with
  | nil => exact ⟨h, List.Perm.refl _⟩
  | cons x ids ih =>
      rcases ih (h.sortByRank c x) with ⟨hw, hp⟩
      exact ⟨hw, hp.trans (h.perm_sortByRank c x)⟩

theorem sortLanguage (h : p.WellFormed) (c : Config) (i : Nat) :
    (p.sortLanguage c i).WellFormed ∧ (p.sortLanguage c i).order.Perm p.order := by
  unfold Page.sortLanguage
  split
  · split
    · exact ⟨h, List.Perm.refl _⟩
    · exact h.foldl_sortByRank c _
  · exact ⟨h.sortByRank c i, h.perm_sortByRank c i⟩

/-!
# Languages
-/

theorem mem_languages {i : Nat} : i ∈ p.languages <-> i ∈ p.order ∧ p.isLanguage i = true := by
  simp [languages]

/-- What is found on the way up from a section is a language, and the section lies in its subtree. -/
theorem of_languageAbove?_eq_some (h : p.WellFormed) {bound i l : Nat} (hi : i ∈ p.order)
    (hl : p.languageAbove? bound i = some l) : l ∈ p.languages ∧ i ∈ p.subtree l := by
  induction bound generalizing i with
  | zero => cases hl
  | succ bound ih =>
      unfold languageAbove? at hl
      by_cases hlang : p.isLanguage i = true
      · rw [if_pos hlang] at hl
        cases hl
        exact ⟨mem_languages.mpr ⟨hi, hlang⟩, List.mem_cons_self⟩
      · rw [if_neg hlang] at hl
        cases hp : p.parent? i with
        | none =>
            rw [hp] at hl
            cases hl
        | some j =>
            rw [hp] at hl
            rcases ih (h.parent_spec hp).2.1 hl with ⟨hmem, hj⟩
            exact ⟨hmem, h.mem_subtree_of_parent? hp hj⟩

theorem nodup_flatMap_subtree (h : p.WellFormed) {ids : List Nat} (hids : ids.Perm p.languages) :
    (ids.flatMap p.subtree).Nodup := by
  have hn : ids.Nodup := hids.nodup_iff.mpr (h.nodup.filter _)
  have htwo : forall i, i ∈ ids -> p.level i = 2 := fun i hi =>
    h.level_eq_two (mem_languages.mp (hids.mem_iff.mp hi)).2
  refine List.pairwise_flatMap.mpr ⟨fun i _ => h.nodup_subtree i, hn.imp_of_mem fun hi hj hij => ?_⟩
  rintro k hki _ hkj rfl
  exact hij (h.subtree_disjoint ((htwo _ hi).trans (htwo _ hj).symm) hki hkj)

/-- The languages with what lies below them, and then everything else, make up the whole document. -/
theorem perm_languages_append_outside (h : p.WellFormed) {ids : List Nat} (hids : ids.Perm p.languages) :
    (ids.flatMap p.subtree ++
      p.order.filter fun i => !(ids.flatMap p.subtree).contains i && (p.languageOf? i).isNone).Perm p.order := by
  refine (List.perm_ext_iff_of_nodup ?_ h.nodup).mpr fun i => ?_
  · refine List.nodup_append.mpr ⟨h.nodup_flatMap_subtree hids, h.nodup.filter _, fun i hi j hj hij => ?_⟩
    have hnot := (List.mem_filter.mp hj).2
    rw [← hij] at hnot
    simp [hi] at hnot
  · rw [List.mem_append, List.mem_filter, List.mem_flatMap]
    constructor
    · rintro (⟨l, hl, hi⟩ | ⟨hi, _⟩)
      · exact h.subtree_subset (mem_languages.mp (hids.mem_iff.mp hl)).1 hi
      · exact hi
    · intro hi
      cases hl : p.languageOf? i with
      | some l =>
          rcases h.of_languageAbove?_eq_some hi hl with ⟨hmem, hsub⟩
          exact Or.inl ⟨l, hids.mem_iff.mpr hmem, hsub⟩
      | none =>
          by_cases hsorted : i ∈ ids.flatMap p.subtree
          · exact Or.inl (List.mem_flatMap.mp hsorted)
          · have hcontains : (ids.flatMap p.subtree).contains i = false := by simpa using hsorted
            exact Or.inr ⟨hi, by rw [hcontains]; rfl⟩

theorem sortLanguagesBy (h : p.WellFormed) (collate : Text -> Text -> Ordering) :
    (p.sortLanguagesBy collate).WellFormed ∧ (p.sortLanguagesBy collate).order.Perm p.order := by
  have hperm := h.perm_languages_append_outside (perm_sortBy (p := p) (Section.compareLanguagesBy collate) p.languages)
  simp only [Page.sortLanguagesBy]
  split
  · exact ⟨h, List.Perm.refl _⟩
  · exact ⟨h.setOrder_of_perm hperm, hperm⟩

theorem sortLanguages (h : p.WellFormed) :
    p.sortLanguages.WellFormed ∧ p.sortLanguages.order.Perm p.order :=
  h.sortLanguagesBy Text.collate

theorem addLanguage (h : p.WellFormed) (c : Config) (code : Text) : (p.addLanguage c code).1.WellFormed := by
  unfold Page.addLanguage
  cases p.language? code with
  | some i => exact h
  | none => exact (h.append (Section.sound_ofLanguage c code)).sortLanguages.1

theorem removeLanguage (h : p.WellFormed) (code : Text) : (p.removeLanguage code).WellFormed := by
  unfold Page.removeLanguage
  cases p.language? code with
  | some i => exact h.detachAlone i
  | none => exact h

end WellFormed
end Page
end WikiEntry
