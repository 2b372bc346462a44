import WikiEntry.Proofs.Footnote.Naming

/-!
# What footnotes show

A footnote shows its content, or the content that its name stands for elsewhere.  Neither rule changes what a
footnote shows.  Bringing contents together is followed group by group: a later group meets names that earlier
groups have chosen, so that the invariant speaks about the present names, but about the contents that the
footnotes had from the start.
-/

namespace WikiEntry

/-- The content of a form, trimmed. -/
def FootnoteForm.body (x : FootnoteForm) : Text :=
  (x.content.getD []).trim

namespace Footnote

variable {notes : List Footnote} {forms : List (Nat × FootnoteForm)} {s : Naming}
variable {name body : Text} {i : Nat}

/-!
# Names that stand for a content
-/

/-- In the given forms the footnote has a content under the name. -/
structure Carries (notes : List Footnote) (forms : List (Nat × FootnoteForm)) (name : Text) (i : Nat) : Prop where
  ungrouped : Ungrouped notes i
  named : (formOf notes forms i).name = some name
  full : (formOf notes forms i).content.isSome = true

/-- The name has one content, and no other. -/
structure StandsFor (notes : List Footnote) (forms : List (Nat × FootnoteForm)) (name body : Text) : Prop where
  carried : exists i, Carries notes forms name i
  only : forall i, Carries notes forms name i -> (formOf notes forms i).body = body

/-- The footnote is a reference to a name that stands for the content. -/
def RefersTo (notes : List Footnote) (forms : List (Nat × FootnoteForm)) (i : Nat) (body : Text) : Prop :=
  (formOf notes forms i).content = none ∧
    exists name, (formOf notes forms i).name = some name ∧ StandsFor notes forms name body

/-- New forms in which all footnotes show what they have shown before. -/
structure Kept (notes : List Footnote) (forms : List (Nat × FootnoteForm)) : Prop where
  contents : forall i content, Ungrouped notes i -> (nth notes i).content = some content ->
    (formOf notes forms i).content = some content ∨ RefersTo notes forms i (nth notes i).body
  references : forall i name body, Ungrouped notes i -> (nth notes i).content = none ->
    (nth notes i).name? = some name -> StandsFor notes [] name body -> RefersTo notes forms i body

/-- All footnotes of a group keep their forms, or the first alone keeps its content and the others refer to it. -/
def Together (notes : List Footnote) (forms : List (Nat × FootnoteForm)) (members : List Nat) : Prop :=
  (forall i, i ∈ members -> formOf notes forms i = (nth notes i).form) ∨
    exists first rest name, members = first :: rest ∧ (nth notes first).isReference = false ∧
      formOf notes forms first = (nth notes first).formNamed (some name) ∧
      forall i, i ∈ rest -> formOf notes forms i = referenceTo name

theorem content_eq_none_of_isReference (h : (nth notes i).isReference = true) : (nth notes i).content = none :=
  Option.isNone_iff_eq_none.mp h

theorem isReference_of_content_eq_some {content : Text} (h : (nth notes i).content = some content) :
    (nth notes i).isReference = false := by
  rw [isReference, h]
  rfl

theorem content_isSome_of_full (h : (nth notes i).isReference = false) : (nth notes i).content.isSome = true := by
  rw [isReference, Option.isNone_eq_false_iff] at h
  exact h

theorem kept_nil (notes : List Footnote) : Kept notes [] := by
  constructor
  · intro i content _ hcontent
    left
    exact hcontent
  · intro i name body _ hcontent hname hstands
    exact ⟨hcontent, name, hname, hstands⟩

/-- A name keeps its content as long as the footnotes that have it, before or after, keep their forms. -/
theorem StandsFor.congr {forms' : List (Nat × FootnoteForm)} (h : StandsFor notes forms name body)
    (hsame : forall i, (formOf notes forms i).name = some name ∨ (formOf notes forms' i).name = some name ->
      formOf notes forms' i = formOf notes forms i) : StandsFor notes forms' name body := by
  constructor
  · rcases h.carried with ⟨i, hi⟩
    have hform := hsame i (Or.inl hi.named)
    refine ⟨i, hi.ungrouped, ?_, ?_⟩
    · rw [hform]
      exact hi.named
    · rw [hform]
      exact hi.full
  · intro i hi
    have hform := hsame i (Or.inr hi.named)
    have hnamed := hi.named
    have hfull := hi.full
    rw [hform] at hnamed hfull ⊢
    exact h.only i ⟨hi.ungrouped, hnamed, hfull⟩

/-!
# Names that are given up
-/

theorem formOf_map_formNamed (notes : List Footnote) (ids : List Nat) (i : Nat) :
    formOf notes (ids.map fun j => (j, (nth notes j).formNamed none)) i =
      if i ∈ ids then (nth notes i).formNamed none else (nth notes i).form := by
  induction ids with
  | nil => rfl
  | cons j ids ih =>
      rw [List.map_cons, formOf_cons, ih]
      by_cases hi : i = j
      · simp [hi]
      · simp [hi]

/-- Among footnotes of which one deviates, all have a content. -/
theorem body_ne_nil_of_mem_deviating {members : List Nat} (h : i ∈ deviating notes members) :
    i ∈ members ∧ forall j, j ∈ members -> (nth notes j).body ≠ [] := by
  rw [deviating] at h
  dsimp only at h
  split at h
  · cases h
  · rename_i hout
    split at h
    · cases h
    · rcases List.mem_flatMap.mp h with ⟨x, hx, hi⟩
      have hmem : i ∈ x.2 := by
        split at hi
        · exact hi
        · cases hi
      rcases List.mem_map.mp ((mem_of_mem_groupBy hx).mp hmem) with ⟨j, hj, heq⟩
      have hji : j = i := congrArg Prod.snd heq
      subst hji
      refine ⟨hj, ?_⟩
      intro k hk hempty
      apply hout
      simp only [Bool.or_eq_true, List.any_eq_true]
      right
      refine ⟨_, List.mem_map_of_mem hk, ?_⟩
      rw [hempty]
      rfl

theorem body_eq_nil_of_content_eq_none (h : (nth notes i).content = none) : (nth notes i).body = [] := by
  rw [Footnote.body, h]
  rfl

/-- A name that has a reference is given up by none of its footnotes. -/
theorem formOf_unnamed_of_reference {r : Nat} (hr : Ungrouped notes r) (hcontent : (nth notes r).content = none)
    (hname : (nth notes r).name? = some name) (hi : (nth notes i).name? = some name) :
    formOf notes (unnamed notes) i = (nth notes i).form := by
  rw [unnamed, formOf_map_formNamed, if_neg]
  intro hmem
  rcases List.mem_flatMap.mp hmem with ⟨x, hx, hdev⟩
  rcases body_ne_nil_of_mem_deviating hdev with ⟨hix, hfull⟩
  have hkey : (nth notes i).name? = some x.1 := ((mem_named hx).mp hix).2
  have hrx : r ∈ x.2 := (mem_named hx).mpr ⟨hr, by rw [hname, ← hi, hkey]⟩
  exact hfull r hrx (body_eq_nil_of_content_eq_none hcontent)

theorem kept_unnamed (notes : List Footnote) : Kept notes (unnamed notes) := by
  constructor
  · intro i content _ hcontent
    left
    rw [unnamed, formOf_map_formNamed]
    split
    · exact hcontent
    · exact hcontent
  · intro r name body hr hcontent hname hstands
    have hform := formOf_unnamed_of_reference hr hcontent hname hname
    refine ⟨?_, name, ?_, ?_⟩
    · rw [hform]
      exact hcontent
    · rw [hform]
      exact hname
    · refine hstands.congr ?_
      intro i hi
      refine formOf_unnamed_of_reference hr hcontent hname ?_
      rcases hi with hbefore | hafter
      · exact hbefore
      · rw [unnamed, formOf_map_formNamed] at hafter
        split at hafter
        · cases hafter
        · exact hafter

end Footnote
end WikiEntry
