import Mathlib.Data.List.Perm.Subperm
import WikiEntry.Proofs.Footnote.Groups

/-!
# Common names

One step brings the footnotes of one content together.  What it does is said here once: the name it chooses is
free of other contents, the references that follow are exactly those to a name that is given up, and the forms
of all other footnotes are as before.
-/

namespace WikiEntry
namespace Footnote

/-!
# New names
-/

theorem automatic_injective : Function.Injective automatic := by
  intro m n h
  have hdigits : Nat.toDigits 10 m = Nat.toDigits 10 n := List.append_cancel_left h
  have hm := @Nat.ofDigitChars_ten_toDigits m
  rw [hdigits, Nat.ofDigitChars_ten_toDigits] at hm
  exact hm.symm

/-- Among one more number than there are taken names, one gives a name that is not taken. -/
theorem exists_automatic_not_mem (taken : List Text) (start : Nat) :
    exists n, n ∈ List.range' start (taken.length + 1) ∧ automatic n ∉ taken := by
  by_contra hall
  push Not at hall
  have hnodup : ((List.range' start (taken.length + 1)).map automatic).Nodup :=
    List.Nodup.map automatic_injective List.nodup_range'
  have hsub : (List.range' start (taken.length + 1)).map automatic ⊆ taken := by
    intro name hname
    rcases List.mem_map.mp hname with ⟨n, hn, rfl⟩
    exact hall n hn
  have hlength := (hnodup.subperm hsub).length_le
  rw [List.length_map, List.length_range'] at hlength
  omega

theorem Naming.fresh_not_mem_taken (s : Naming) : s.fresh.1 ∉ s.taken := by
  rcases exists_automatic_not_mem s.taken s.next with ⟨n, hn, hfree⟩
  cases hfind : (List.range' s.next (s.taken.length + 1)).find? fun n => !s.taken.contains (automatic n) with
  | none =>
      have hno := List.find?_eq_none.mp hfind n hn
      simp [hfree] at hno
  | some m =>
      have hm := List.find?_some hfind
      have hname : s.fresh.1 = automatic m := by
        rw [Naming.fresh, hfind]
        rfl
      rw [hname]
      simpa using hm

/-!
# Changes of forms
-/

section Forms

variable {notes : List Footnote} {forms : List (Nat × FootnoteForm)} {s : Naming} {name : Text} {i : Nat}

theorem formOf_cons (notes : List Footnote) (forms : List (Nat × FootnoteForm)) (i j : Nat) (x : FootnoteForm) :
    formOf notes ((i, x) :: forms) j = if j = i then x else formOf notes forms j := by
  rw [formOf, formOf, List.lookup_cons]
  by_cases h : j = i
  · rw [if_pos h, beq_iff_eq.mpr h]
    rfl
  · rw [if_neg h, beq_eq_false_iff_ne.mpr h]

theorem Naming.taken_refer (s : Naming) (ids : List Nat) (name : Text) : (s.refer ids name).taken = s.taken := by
  induction ids generalizing s with
  | nil => rfl
  | cons i ids ih => exact ih (s.put i (referenceTo name))

theorem Naming.formOf_refer (notes : List Footnote) (s : Naming) (ids : List Nat) (name : Text) (j : Nat) :
    formOf notes (s.refer ids name).forms j = if j ∈ ids then referenceTo name else formOf notes s.forms j := by
  induction ids generalizing s with
  | nil => rw [if_neg List.not_mem_nil]; rfl
  | cons i ids ih =>
      have hstep := ih (s.put i (referenceTo name))
      rw [show (s.put i (referenceTo name)).forms = (i, referenceTo name) :: s.forms from rfl, formOf_cons] at hstep
      show formOf notes ((s.put i (referenceTo name)).refer ids name).forms j = _
      rw [hstep]
      by_cases hj : j ∈ ids <;> by_cases hi : j = i <;> simp [hj, hi]

/-- The forms after members were given a name: the first keeps its content, the others and the followers refer
to it. -/
theorem formOf_rewrite {first : Nat} {rest followers : List Nat} (hnodup : (first :: rest).Nodup) (j : Nat) :
    formOf notes (rewrite notes s (first :: rest) followers name).forms j =
      if j = first then (nth notes first).formNamed name
      else if j ∈ rest ∨ j ∈ followers then referenceTo name
      else formOf notes s.forms j := by
  have hforms : (rewrite notes s (first :: rest) followers name).forms =
      (((s.refer followers name).put first ((nth notes first).formNamed name)).refer rest name).forms := rfl
  have hput : ((s.refer followers name).put first ((nth notes first).formNamed name)).forms =
      (first, (nth notes first).formNamed name) :: (s.refer followers name).forms := rfl
  rw [hforms, Naming.formOf_refer, hput, formOf_cons, Naming.formOf_refer]
  by_cases hj : j = first
  · subst hj
    rw [if_neg (List.nodup_cons.mp hnodup).1, if_pos rfl, if_pos rfl]
  · by_cases hrest : j ∈ rest <;> simp [hj, hrest]

theorem taken_rewrite (notes : List Footnote) (s : Naming) (members followers : List Nat) (name : Text) :
    (rewrite notes s members followers name).taken = s.taken ++ [name] := by
  cases members with
  | nil =>
      show (s.refer followers name).taken ++ [name] = _
      rw [Naming.taken_refer]
  | cons first rest =>
      show (((s.refer followers name).put first _).refer rest name).taken ++ [name] = _
      rw [Naming.taken_refer]
      show (s.refer followers name).taken ++ [name] = _
      rw [Naming.taken_refer]

end Forms

/-!
# The choice of a name
-/

section Choice

variable {notes : List Footnote} {s : Naming} {members followers : List Nat} {name : Text} {i : Nat}

/-- All present names are taken. -/
def NamesTaken (notes : List Footnote) (s : Naming) : Prop :=
  forall i, i < notes.length -> forall name, s.name? notes i = some name -> name ∈ s.taken

/-- No footnote with a content of its own has the name, members apart. -/
def FreeFor (notes : List Footnote) (s : Naming) (members : List Nat) (name : Text) : Prop :=
  forall i, i < notes.length -> i ∉ members -> s.name? notes i = some name -> (nth notes i).isReference = true

/-- A reference, none of the members, to a name that a member gives up for `name`. -/
structure Follows (notes : List Footnote) (s : Naming) (members : List Nat) (name : Text) (i : Nat) : Prop where
  inside : i < notes.length
  outside : i ∉ members
  reference : (nth notes i).isReference = true
  former : exists m old, m ∈ members ∧ s.name? notes m = some old ∧ old ≠ name ∧ s.name? notes i = some old

theorem Naming.mem_others {old : Text} :
    i ∈ s.others notes members old <-> i < notes.length ∧ i ∉ members ∧ s.name? notes i = some old := by
  simp [Naming.others]

theorem mem_full {ids : List Nat} : i ∈ full notes ids <-> i ∈ ids ∧ (nth notes i).isReference = false := by
  simp [full]

theorem NamesTaken.freeFor (h : NamesTaken notes s) (hname : name ∉ s.taken) : FreeFor notes s members name := by
  intro i hi _ hcurrent
  exact absurd (h i hi name hcurrent) hname

theorem isReference_of_full_eq_nil {ids : List Nat} (h : full notes ids = []) (hi : i ∈ ids) :
    (nth notes i).isReference = true := by
  cases hfull : (nth notes i).isReference with
  | true => rfl
  | false =>
      have hin : i ∈ full notes ids := mem_full.mpr ⟨hi, hfull⟩
      rw [h] at hin
      cases hin

/-- Where a reference is among footnotes that are not mixed, all are references. -/
theorem full_eq_nil_of_isReference {ids : List Nat} (hi : i ∈ ids) (href : (nth notes i).isReference = true)
    (hmixed : ¬ (0 < (full notes ids).length ∧ (full notes ids).length < ids.length)) : full notes ids = [] := by
  have hless : (full notes ids).length < ids.length := by
    apply List.length_filter_lt_length_iff_exists.mpr
    refine ⟨i, hi, ?_⟩
    simp [href]
  apply List.length_eq_zero_iff.mp
  omega

theorem freeFor_of_full_eq_nil (h : full notes (s.others notes members name) = []) :
    FreeFor notes s members name := by
  intro i hi hmem hcurrent
  exact isReference_of_full_eq_nil h (Naming.mem_others.mpr ⟨hi, hmem, hcurrent⟩)

/-- Choosing a name changes at most the number for the next new name, and the name is free. -/
theorem chooseName_spec (htaken : NamesTaken notes s) (members : List Nat) :
    (exists k, (chooseName notes s members).2 = { s with next := k }) ∧
      forall name, (chooseName notes s members).1 = some name -> FreeFor notes s members name := by
  have hfresh : (exists k, s.fresh.2 = { s with next := k }) ∧
      forall name, some s.fresh.1 = some name -> FreeFor notes s members name := by
    refine ⟨⟨_, rfl⟩, ?_⟩
    intro name hname
    cases hname
    exact htaken.freeFor s.fresh_not_mem_taken
  rw [chooseName]
  split
  · exact hfresh
  · rename_i candidate _
    dsimp only
    split
    · rename_i hempty
      refine ⟨⟨s.next, rfl⟩, ?_⟩
      intro name hname
      cases hname
      exact freeFor_of_full_eq_nil (List.isEmpty_iff.mp hempty)
    · split
      · refine ⟨⟨s.next, rfl⟩, ?_⟩
        intro name hname
        cases hname
      · exact hfresh

/-- The footnotes that follow are exactly the references to the names that are given up. -/
theorem mem_followers? (h : followers? notes s members name = some followers) :
    i ∈ followers <-> Follows notes s members name i := by
  have hgiven : forall old, old ∈ (members.filterMap (s.name? notes)).filter (· ≠ name) <->
      (exists m, m ∈ members ∧ s.name? notes m = some old) ∧ old ≠ name := by
    intro old
    simp [List.mem_filter, List.mem_filterMap]
  rw [followers?] at h
  split at h
  · cases h
  · rename_i hclear
    cases h
    constructor
    · intro hi
      rcases List.mem_flatMap.mp hi with ⟨ids, hids, hi⟩
      rcases List.mem_map.mp hids with ⟨old, hold, rfl⟩
      split at hi
      · rename_i hempty
        rcases (hgiven old).mp hold with ⟨⟨m, hm, hname⟩, hne⟩
        rcases Naming.mem_others.mp hi with ⟨hin, hout, hcurrent⟩
        exact ⟨hin, hout, isReference_of_full_eq_nil (List.isEmpty_iff.mp hempty) hi, m, old, hm, hname, hne, hcurrent⟩
      · cases hi
    · rintro ⟨hin, hout, href, m, old, hm, hname, hne, hcurrent⟩
      have hi : i ∈ s.others notes members old := Naming.mem_others.mpr ⟨hin, hout, hcurrent⟩
      have hids := List.mem_map_of_mem (f := s.others notes members) ((hgiven old).mpr ⟨⟨m, hm, hname⟩, hne⟩)
      have hmixed : ¬ (0 < (full notes (s.others notes members old)).length ∧
          (full notes (s.others notes members old)).length < (s.others notes members old).length) := by
        intro hboth
        apply hclear
        apply List.any_eq_true.mpr
        refine ⟨_, hids, ?_⟩
        simpa using hboth
      refine List.mem_flatMap.mpr ⟨_, hids, ?_⟩
      rw [full_eq_nil_of_isReference hi href hmixed]
      exact hi

/-- What a step does: at most it counts on, or the members get a free name, and the references to the names that
they give up follow. -/
theorem unite_cases (htaken : NamesTaken notes s) (members : List Nat) :
    exists k, unite notes s members = { s with next := k } ∨
      exists name followers, FreeFor notes s members name ∧
        (forall i, i ∈ followers <-> Follows notes s members name i) ∧
        unite notes s members = rewrite notes { s with next := k } members followers name := by
  rcases chooseName_spec htaken members with ⟨⟨k, hnext⟩, hfree⟩
  refine ⟨k, ?_⟩
  cases hchosen : chooseName notes s members with
  | mk name? s' =>
      rw [hchosen] at hnext hfree
      subst hnext
      rw [unite, hchosen]
      cases name? with
      | none => exact Or.inl rfl
      | some name =>
          dsimp only
          cases hfollow : followers? notes { s with next := k } members name with
          | none => exact Or.inl rfl
          | some followers =>
              right
              exact ⟨name, followers, hfree name rfl, fun i => mem_followers? hfollow, rfl⟩

end Choice

end Footnote
end WikiEntry
