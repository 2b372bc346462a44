import Mathlib.Data.List.Induction
import Mathlib.Data.List.Nodup
import WikiEntry.Rule.Footnotes

/-!
# Groups of footnotes

A group holds the numbers of one key, in the order in which they come up.  From this follows which footnotes
share a name and which share a content, and that no footnote is in two groups.
-/

namespace WikiEntry
namespace Footnote

/-!
# Grouping by keys
-/

/-- The numbers that come up with a key. -/
def numbersOf (items : List (Text × Nat)) (key : Text) : List Nat :=
  (items.filter fun x => x.1 = key).map Prod.snd

theorem mem_numbersOf {items : List (Text × Nat)} {key : Text} {i : Nat} :
    i ∈ numbersOf items key <-> (key, i) ∈ items := by
  simp [numbersOf]

theorem numbersOf_append (items later : List (Text × Nat)) (key : Text) :
    numbersOf (items ++ later) key = numbersOf items key ++ numbersOf later key := by
  simp [numbersOf]

theorem numbersOf_eq_nil {items : List (Text × Nat)} {key : Text} (h : key ∉ items.map Prod.fst) :
    numbersOf items key = [] := by
  apply List.eq_nil_iff_forall_not_mem.mpr
  intro i hi
  exact h (List.mem_map_of_mem (mem_numbersOf.mp hi))

/-- The groups of some items: each key once, with all its numbers. -/
structure GroupsOf (items : List (Text × Nat)) (groups : List (Text × List Nat)) : Prop where
  keysNodup : (groups.map Prod.fst).Nodup
  keys : forall key, key ∈ groups.map Prod.fst <-> key ∈ items.map Prod.fst
  numbers : forall x, x ∈ groups -> x.2 = numbersOf items x.1

theorem keys_addTo (key : Text) (i : Nat) (groups : List (Text × List Nat)) :
    (addTo key i groups).map Prod.fst =
      if key ∈ groups.map Prod.fst then groups.map Prod.fst else groups.map Prod.fst ++ [key] := by
  induction groups with
  | nil => rfl
  | cons x rest ih =>
      rcases x with ⟨k, members⟩
      by_cases hk : k = key
      · simp [addTo, hk]
      · have hk' : ¬ key = k := fun h => hk h.symm
        simp only [addTo, if_neg hk, List.map_cons, ih, List.mem_cons, hk', false_or]
        split <;> rfl

/-- A group after a number was added: another group as it was, the longer group of the key, or a new group. -/
theorem mem_addTo {key : Text} {i : Nat} {groups : List (Text × List Nat)}
    (hnodup : (groups.map Prod.fst).Nodup) {x : Text × List Nat} (hx : x ∈ addTo key i groups) :
    x.1 ≠ key ∧ x ∈ groups ∨
      (exists members, (key, members) ∈ groups ∧ x = (key, members ++ [i])) ∨
      key ∉ groups.map Prod.fst ∧ x = (key, [i]) := by
  induction groups with
  | nil =>
      right
      right
      exact ⟨List.not_mem_nil, List.mem_singleton.mp hx⟩
  | cons y rest ih =>
      rcases y with ⟨k, members⟩
      rcases List.nodup_cons.mp hnodup with ⟨hfresh, hrest⟩
      by_cases hk : k = key
      · subst hk
        rw [addTo, if_pos rfl] at hx
        rcases List.mem_cons.mp hx with rfl | hx
        · right
          left
          exact ⟨members, List.mem_cons_self, rfl⟩
        · left
          refine ⟨?_, List.mem_cons_of_mem _ hx⟩
          intro heq
          have hkey : x.1 ∈ rest.map Prod.fst := List.mem_map_of_mem hx
          exact hfresh (heq ▸ hkey)
      · rw [addTo, if_neg hk] at hx
        rcases List.mem_cons.mp hx with rfl | hx
        · left
          exact ⟨hk, List.mem_cons_self⟩
        · rcases ih hrest hx with ⟨hne, hold⟩ | ⟨members', hold, heq⟩ | ⟨hnew, heq⟩
          · left
            exact ⟨hne, List.mem_cons_of_mem _ hold⟩
          · right
            left
            exact ⟨members', List.mem_cons_of_mem _ hold, heq⟩
          · right
            right
            refine ⟨?_, heq⟩
            intro hmem
            rcases List.mem_cons.mp hmem with h | h
            · exact hk h.symm
            · exact hnew h

theorem GroupsOf.addTo {items : List (Text × Nat)} {groups : List (Text × List Nat)}
    (h : GroupsOf items groups) (key : Text) (i : Nat) :
    GroupsOf (items ++ [(key, i)]) (Footnote.addTo key i groups) := by
  have hsingle : numbersOf [(key, i)] key = [i] := by
    simp [numbersOf]
  constructor
  · rw [keys_addTo]
    split
    · exact h.keysNodup
    · rename_i hnew
      rw [List.nodup_append]
      refine ⟨h.keysNodup, List.nodup_singleton key, ?_⟩
      intro k hk k' hk' heq
      exact hnew (List.mem_singleton.mp hk' ▸ heq ▸ hk)
  · intro k
    rw [keys_addTo, List.map_append, List.mem_append, ← h.keys k]
    split
    · rename_i hold
      constructor
      · exact Or.inl
      · rintro (hk | hk)
        · exact hk
        · exact List.mem_singleton.mp hk ▸ hold
    · exact List.mem_append
  · intro x hx
    rcases mem_addTo h.keysNodup hx with ⟨hne, hold⟩ | ⟨members, hold, rfl⟩ | ⟨hnew, rfl⟩
    · have hnone : numbersOf [(key, i)] x.1 = [] := numbersOf_eq_nil (by simpa using hne)
      rw [numbersOf_append, hnone, List.append_nil]
      exact h.numbers x hold
    · rw [numbersOf_append, hsingle, ← h.numbers _ hold]
    · rw [numbersOf_append, hsingle, numbersOf_eq_nil (fun hk => hnew ((h.keys key).mpr hk)), List.nil_append]

theorem groupsOf_groupBy (items : List (Text × Nat)) : GroupsOf items (groupBy items) := by
  induction items using List.reverseRecOn with
  | nil => exact ⟨List.nodup_nil, fun _ => Iff.rfl, fun _ hx => absurd hx List.not_mem_nil⟩
  | append_singleton items x ih =>
      rw [groupBy, List.foldl_append]
      exact ih.addTo x.1 x.2

theorem mem_of_mem_groupBy {items : List (Text × Nat)} {x : Text × List Nat} (hx : x ∈ groupBy items) {i : Nat} :
    i ∈ x.2 <-> (x.1, i) ∈ items := by
  rw [(groupsOf_groupBy items).numbers x hx]
  exact mem_numbersOf

theorem nodup_of_mem_groupBy {items : List (Text × Nat)} (hitems : (items.map Prod.snd).Nodup)
    {x : Text × List Nat} (hx : x ∈ groupBy items) : x.2.Nodup := by
  rw [(groupsOf_groupBy items).numbers x hx]
  exact hitems.sublist (List.filter_sublist.map Prod.snd)

/-!
# The footnotes of a list
-/

section Notes

variable {notes : List Footnote} {i : Nat} {x : Text × List Nat} {members : List Nat}

/-- A footnote of the list without a group of its own. -/
def Ungrouped (notes : List Footnote) (i : Nat) : Prop :=
  i < notes.length ∧ (nth notes i).hasGroup = false

theorem mem_zipIdx {f : Footnote} : (f, i) ∈ notes.zipIdx <-> i < notes.length ∧ nth notes i = f := by
  rw [List.mem_zipIdx_iff_getElem?]
  constructor
  · intro hf
    rcases List.getElem?_eq_some_iff.mp hf with ⟨hi, _⟩
    refine ⟨hi, ?_⟩
    rw [nth, List.getD_eq_getElem?_getD, hf]
    rfl
  · rintro ⟨hi, rfl⟩
    rw [nth, List.getD_eq_getElem?_getD, List.getElem?_eq_getElem hi]
    rfl

/-- Each footnote gives at most one number, its own. -/
theorem nodup_numbers {key : Footnote × Nat -> Option (Text × Nat)}
    (hkey : forall x y, key x = some y -> y.2 = x.2) : ((notes.zipIdx.filterMap key).map Prod.snd).Nodup := by
  have hsub : forall l : List (Footnote × Nat), ((l.filterMap key).map Prod.snd).Sublist (l.map Prod.snd) := by
    intro l
    induction l with
    | nil => exact List.Sublist.slnil
    | cons x l ih =>
        cases hx : key x with
        | none =>
            rw [List.filterMap_cons_none hx]
            exact ih.cons x.2
        | some y =>
            rw [List.filterMap_cons_some hx, List.map_cons, hkey x y hx]
            exact ih.cons_cons x.2
  refine List.Nodup.sublist (hsub notes.zipIdx) ?_
  rw [List.zipIdx_map_snd]
  exact List.nodup_range'

/-- A group of one name holds all footnotes outside groups that have the name. -/
theorem mem_named (hx : x ∈ named notes) : i ∈ x.2 <-> Ungrouped notes i ∧ (nth notes i).name? = some x.1 := by
  rw [mem_of_mem_groupBy hx, List.mem_filterMap]
  constructor
  · rintro ⟨⟨f, j⟩, hf, heq⟩
    rcases mem_zipIdx.mp hf with ⟨hj, rfl⟩
    cases hgroup : (nth notes j).hasGroup with
    | true => simp [hgroup] at heq
    | false =>
        simp only [hgroup, Bool.false_eq_true, if_false, Option.map_eq_some_iff, Prod.mk.injEq] at heq
        rcases heq with ⟨name, hname, rfl, rfl⟩
        exact ⟨⟨hj, hgroup⟩, hname⟩
  · rintro ⟨⟨hi, hgroup⟩, hname⟩
    refine ⟨(nth notes i, i), mem_zipIdx.mpr ⟨hi, rfl⟩, ?_⟩
    simp [hgroup, hname]

/-- The footnotes whose content may be repeated elsewhere. -/
structure Shareable (notes : List Footnote) (i : Nat) : Prop where
  ungrouped : Ungrouped notes i
  full : (nth notes i).isReference = false
  body : (nth notes i).body ≠ []

theorem mem_byContent (hx : x ∈ byContent notes) : i ∈ x.2 <-> Shareable notes i ∧ (nth notes i).body = x.1 := by
  rw [mem_of_mem_groupBy hx, List.mem_filterMap]
  constructor
  · rintro ⟨⟨f, j⟩, hf, heq⟩
    rcases mem_zipIdx.mp hf with ⟨hj, rfl⟩
    by_cases hout : (nth notes j).isReference || (nth notes j).hasGroup || (nth notes j).body.isEmpty
    · simp [hout] at heq
    · simp only [if_neg hout, Option.some.injEq, Prod.mk.injEq] at heq
      rcases heq with ⟨hbody, rfl⟩
      simp only [Bool.or_eq_true, not_or, Bool.not_eq_true, List.isEmpty_eq_false_iff] at hout
      exact ⟨⟨⟨hj, hout.1.2⟩, hout.1.1, hout.2⟩, hbody⟩
  · rintro ⟨⟨⟨hi, hgroup⟩, hfull, hbody⟩, hkey⟩
    refine ⟨(nth notes i, i), mem_zipIdx.mpr ⟨hi, rfl⟩, ?_⟩
    rw [← hkey]
    simp [hgroup, hfull, hbody]

theorem nodup_of_mem_byContent (hx : x ∈ byContent notes) : x.2.Nodup := by
  refine nodup_of_mem_groupBy (nodup_numbers ?_) hx
  rintro ⟨f, i⟩ y hy
  simp only [Option.ite_none_left_eq_some, Option.some.injEq] at hy
  rw [← hy.2]

/-!
# Repeated contents
-/

/-- All footnotes of one content, more than one. -/
structure Sharing (notes : List Footnote) (members : List Nat) (body : Text) : Prop where
  mem : forall i, i ∈ members <-> Shareable notes i ∧ (nth notes i).body = body
  nodup : members.Nodup
  several : 1 < members.length

theorem sharing_of_mem_repeated (h : members ∈ repeated notes) : exists body, Sharing notes members body := by
  rcases List.mem_filter.mp h with ⟨hmem, hseveral⟩
  rcases List.mem_map.mp hmem with ⟨x, hx, rfl⟩
  exact ⟨x.1, fun i => mem_byContent hx, nodup_of_mem_byContent hx, of_decide_eq_true hseveral⟩

/-- Footnotes are never in two groups, since a footnote has one content. -/
theorem pairwise_disjoint_repeated (notes : List Footnote) : (repeated notes).Pairwise List.Disjoint := by
  have hkeys : (byContent notes).Pairwise fun x y => x.1 ≠ y.1 :=
    List.pairwise_map.mp (groupsOf_groupBy _).keysNodup
  refine List.Pairwise.filter _ (List.pairwise_map.mpr ?_)
  refine List.Pairwise.imp_of_mem ?_ hkeys
  intro x y hx hy hne i hix hiy
  have hbody : (nth notes i).body = x.1 := ((mem_byContent hx).mp hix).2
  have hbody' : (nth notes i).body = y.1 := ((mem_byContent hy).mp hiy).2
  exact hne (hbody.symm.trans hbody')

end Notes

end Footnote
end WikiEntry
