import WikiEntry.Proofs.Page.Sorting
import Mathlib.Data.List.Nodup
import Mathlib.Data.List.Perm.Subperm

/-!
# Subtrees in the document order

What lies below a section is what follows it in the document order, up to the first section that is not deeper.  So
where sections stand in the order says how far each subtree reaches.  The language that a section belongs to is
found on the way up, and is the one in whose subtree the section lies.
-/

namespace WikiEntry

namespace Outline

variable {level : Nat -> Nat}

/-- The trees that are split off are those of the deeper sections that come first. -/
theorem Nested.toList_spanDeeper {f : Outline} (h : Nested level f) (l : Nat) :
    (f.spanDeeper l).1.toList = f.toList.takeWhile fun j => l < level j := by
  induction f with
  | nil => rfl
  | node i k c r _ ih =>
      rcases h with ⟨rfl, hdeeper, _, _, hr⟩
      by_cases hlt : l < level i
      · have hc : forall j, j ∈ c.toList -> decide (l < level j) = true :=
          fun j hj => decide_eq_true (Nat.lt_trans hlt (hdeeper j hj))
        simp only [Outline.spanDeeper, if_pos hlt, toList]
        rw [List.takeWhile_cons_of_pos (by simpa using hlt), List.takeWhile_append_of_pos hc, ih hr]
      · simp only [Outline.spanDeeper, if_neg hlt, toList]
        rw [List.takeWhile_cons_of_neg (by simpa using hlt)]

theorem children?_spanDeeper (l : Nat) (f : Outline) (x : Nat) :
    ((f.spanDeeper l).1.children? x).or ((f.spanDeeper l).2.children? x) = f.children? x := by
  induction f with
  | nil => rfl
  | node j k c r _ ih =>
      by_cases h : l < k
      · simp only [spanDeeper, h, if_true]
        by_cases hxj : x = j
        · simp [children?, hxj]
        · simp only [children?, if_neg hxj]
          rw [Option.or_assoc, ih]
      · simp [spanDeeper, h, children?]

/-- What lies below a section depends only on the sections behind it. -/
theorem children?_ofOrder {front rest : List Nat} {x : Nat} (hx : x ∉ front) :
    (ofOrder level (front ++ x :: rest)).children? x = some ((ofOrder level rest).spanDeeper (level x)).1 := by
  induction front with
  | nil =>
      rw [List.nil_append, ofOrder_cons]
      exact children?_root
  | cons j front ih =>
      rw [List.mem_cons, not_or] at hx
      rw [List.cons_append, ofOrder_cons, adopt]
      simp only [children?, if_neg hx.1]
      rw [children?_spanDeeper, ih hx.2]

end Outline

namespace Page.WellFormed

open Outline

variable {p : Page} {i l x : Nat}

/-- Deriving the outline once more changes nothing. -/
theorem link_eq (h : p.WellFormed) : p.link = p := by
  show { p with outline := ofOrder p.level p.order } = p
  rw [← h.linked]

theorem setOrder_order (h : p.WellFormed) : p.setOrder p.order = p :=
  h.link_eq

theorem descendants_eq_takeWhile (h : p.WellFormed) {front rest : List Nat} (heq : p.order = front ++ x :: rest) :
    p.descendants x = rest.takeWhile fun k => p.level x < p.level k := by
  have hx : x ∉ front := by
    intro hx
    have hn := h.nodup
    rw [heq] at hn
    exact (List.nodup_append.mp hn).2.2 x hx x List.mem_cons_self rfl
  have hnested : Nested p.level (ofOrder p.level rest) := nested_ofOrder rest
  rw [descendants, below, h.linked, heq, children?_ofOrder hx, Option.getD_some, hnested.toList_spanDeeper,
    toList_ofOrder]

/-- A section keeps the deeper sections directly behind it, and takes those that follow them. -/
theorem descendants_eq_append (h : p.WellFormed) {front block rest : List Nat}
    (horder : p.order = front ++ l :: (block ++ rest)) (hdeeper : forall k, k ∈ block -> p.level l < p.level k) :
    p.descendants l = block ++ rest.takeWhile fun k => p.level l < p.level k := by
  rw [h.descendants_eq_takeWhile horder, List.takeWhile_append_of_pos]
  intro k hk
  exact decide_eq_true (hdeeper k hk)

/-!
# The language of a section
-/

/-- The way up repeats no section, since levels get smaller on it. -/
theorem nodup_ancestors (h : p.WellFormed) {as : List Nat} (has : p.Ancestors i as) : (i :: as).Nodup := by
  induction has with
  | top _ => exact List.nodup_singleton _
  | under hp hup ih =>
      refine List.nodup_cons.mpr ⟨?_, ih⟩
      intro hmem
      exact Nat.lt_irrefl _ (h.level_lt_of_mem_ancestors (.under hp hup) hmem)

theorem ancestors_made (h : p.WellFormed) {as : List Nat} (has : p.Ancestors i as) (hi : i ∈ p.order) :
    forall a, a ∈ i :: as -> a < p.sections.length := by
  induction has with
  | top _ =>
      intro a ha
      rw [List.mem_singleton.mp ha]
      exact h.made _ hi
  | under hp _ ih =>
      intro a ha
      rcases List.mem_cons.mp ha with rfl | ha
      · exact h.made a hi
      · exact ih (h.parent_spec hp).2.1 a ha

theorem length_ancestors_lt (h : p.WellFormed) {as : List Nat} (has : p.Ancestors i as) (hi : i ∈ p.order) :
    as.length < p.sections.length := by
  have hsubset : i :: as ⊆ List.range p.sections.length :=
    fun a ha => List.mem_range.mpr (h.ancestors_made has hi a ha)
  have hle := (List.subperm_of_subset (h.nodup_ancestors has) hsubset).length_le
  rwa [List.length_range, List.length_cons] at hle

/-- A language on the way up is found, since no other one lies above it. -/
theorem languageAbove?_eq_some (h : p.WellFormed) {as : List Nat} (has : p.Ancestors i as) {bound : Nat}
    (hbound : as.length < bound) (hl : p.isLanguage l = true) (hmem : l ∈ i :: as) :
    p.languageAbove? bound i = some l := by
  induction has generalizing bound with
  | top hp =>
      rw [List.mem_singleton] at hmem
      cases bound with
      | zero => cases hbound
      | succ bound => rw [languageAbove?, if_pos (hmem ▸ hl), hmem]
  | @under i j as hp hup ih =>
      cases bound with
      | zero => cases hbound
      | succ bound =>
          rw [languageAbove?]
          by_cases hi : p.isLanguage i = true
          · rw [if_pos hi]
            rcases List.mem_cons.mp hmem with rfl | hmem
            · rfl
            · have hlt := h.level_lt_of_mem_ancestors (.under hp hup) hmem
              rw [h.level_eq_two hl, h.level_eq_two hi] at hlt
              exact absurd hlt (Nat.lt_irrefl 2)
          · rw [if_neg hi, hp]
            apply ih (Nat.lt_of_succ_lt_succ hbound)
            apply (List.mem_cons.mp hmem).resolve_left
            rintro rfl
            exact hi hl

/-- A section belongs to the language in whose subtree it lies. -/
theorem languageOf?_eq_some_iff (h : p.WellFormed) (hi : i ∈ p.order) :
    p.languageOf? i = some l <-> l ∈ p.languages ∧ i ∈ p.subtree l := by
  constructor
  · exact h.of_languageAbove?_eq_some hi
  · rintro ⟨hl, hsub⟩
    rcases h.exists_ancestors hi with ⟨as, has, _⟩
    have hmem : l ∈ i :: as := by
      rcases List.mem_cons.mp hsub with rfl | hbelow
      · exact List.mem_cons_self
      · exact List.mem_cons_of_mem i ((h.mem_descendants_iff has).mp hbelow)
    exact h.languageAbove?_eq_some has (Nat.lt_succ_of_lt (h.length_ancestors_lt has hi)) (mem_languages.mp hl).2 hmem

end Page.WellFormed
end WikiEntry
