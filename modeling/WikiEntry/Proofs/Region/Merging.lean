import WikiEntry.Proofs.Region.Union

/-!
# Merged regions

Merging walks along the regions in the order of their beginnings, of two with the same beginning the longer one first,
and keeps a region apart as soon as it begins where the last one has ended.  So what is merged is in order and apart, and
it is merged already.  The order leaves no choice, since regions that neither comes before the other are equal: it does
not matter how the regions were listed.
-/

namespace WikiEntry
namespace Region

variable {a b last s : Span} {rest : List Span}

/-!
# The order of regions
-/

theorem before_iff : before a b = true <-> a.start < b.start ∨ (a.start = b.start ∧ b.stop ≤ a.stop) := by
  simp only [before, Bool.or_eq_true, Bool.and_eq_true, decide_eq_true_eq, beq_iff_eq]

theorem eq_of_before (hab : before a b = true) (hba : before b a = true) : a = b := by
  rw [before_iff] at hab hba
  rcases a with ⟨start, stop⟩
  rcases b with ⟨start', stop'⟩
  rw [Span.mk.injEq]
  dsimp only at hab hba
  omega

theorem mergeSort_before_of_perm {regions regions' : List Span} (h : regions.Perm regions') :
    regions.mergeSort before = regions'.mergeSort before := by
  have hsorted := List.pairwise_mergeSort before_trans before_total
  have hperm := (List.mergeSort_perm regions before).trans (h.trans (List.mergeSort_perm regions' before).symm)
  exact hperm.eq_of_pairwise (fun a b _ _ hab hba => eq_of_before hab hba) (hsorted regions) (hsorted regions')

/-!
# What a merge leaves
-/

/-- A region that is made longer still comes before what follows. -/
theorem pairwise_before_longer (h : (last :: s :: rest).Pairwise fun a b => before a b = true) :
    ((⟨last.start, max last.stop s.stop⟩ : Span) :: rest).Pairwise fun a b => before a b = true := by
  rcases List.pairwise_cons.mp h with ⟨hlast, hrest⟩
  refine List.pairwise_cons.mpr ⟨fun u hu => ?_, (List.pairwise_cons.mp hrest).2⟩
  have hu := before_iff.mp (hlast u (List.mem_cons_of_mem s hu))
  rw [before_iff]
  dsimp only
  omega

theorem start_le_of_mem_mergeFrom (hsorted : (last :: rest).Pairwise fun a b => before a b = true)
    (hs : s ∈ mergeFrom last rest) : last.start ≤ s.start := by
  induction rest generalizing last with
  | nil =>
      rw [List.mem_singleton.mp hs]
  | cons u rest ih =>
      rcases List.pairwise_cons.mp hsorted with ⟨hlast, hrest⟩
      rw [mergeFrom] at hs
      split at hs
      · exact @ih ⟨last.start, max last.stop u.stop⟩ (pairwise_before_longer hsorted) hs
      · rcases List.mem_cons.mp hs with rfl | hs
        · exact Nat.le_refl _
        · exact Nat.le_trans (start_le_of_before (hlast u List.mem_cons_self)) (ih hrest hs)

/-- Merged regions end before the next one begins. -/
theorem pairwise_stop_le_start_mergeFrom (hsorted : (last :: rest).Pairwise fun a b => before a b = true) :
    (mergeFrom last rest).Pairwise fun a b => a.stop ≤ b.start := by
  induction rest generalizing last with
  | nil => exact List.pairwise_singleton _ _
  | cons u rest ih =>
      have hrest := (List.pairwise_cons.mp hsorted).2
      rw [mergeFrom]
      split
      · exact ih (pairwise_before_longer hsorted)
      · rename_i happart
        refine List.pairwise_cons.mpr ⟨fun s hs => ?_, ih hrest⟩
        exact Nat.le_trans (Nat.le_of_not_lt happart) (start_le_of_mem_mergeFrom hrest hs)

/-- What ends where a merge begins comes before all that is merged: a region that begins at the same place is empty then,
and an empty region takes nothing in. -/
theorem before_of_mem_mergeFrom (hstop : a.stop ≤ last.start) (ha : forall u, u ∈ last :: rest -> before a u = true)
    (hsorted : (last :: rest).Pairwise fun a b => before a b = true) (hs : s ∈ mergeFrom last rest) :
    before a s = true := by
  induction rest generalizing last with
  | nil => exact ha s hs
  | cons u rest ih =>
      rcases List.pairwise_cons.mp hsorted with ⟨hlast, hrest⟩
      rcases List.forall_mem_cons.mp ha with ⟨hfirst, hlater⟩
      have hstart := start_le_of_before (hlast u List.mem_cons_self)
      rw [mergeFrom] at hs
      split at hs
      · rename_i hoverlap
        refine @ih ⟨last.start, max last.stop u.stop⟩ hstop ?_ (pairwise_before_longer hsorted) hs
        refine List.forall_mem_cons.mpr ⟨?_, fun v hv => hlater v (List.mem_cons_of_mem u hv)⟩
        have hfirst := before_iff.mp hfirst
        rw [before_iff]
        dsimp only
        omega
      · rcases List.mem_cons.mp hs with rfl | hs
        · exact hfirst
        · exact ih (Nat.le_trans hstop hstart) hlater hrest hs

theorem pairwise_before_mergeFrom (hsorted : (last :: rest).Pairwise fun a b => before a b = true) :
    (mergeFrom last rest).Pairwise fun a b => before a b = true := by
  induction rest generalizing last with
  | nil => exact List.pairwise_singleton _ _
  | cons u rest ih =>
      rcases List.pairwise_cons.mp hsorted with ⟨hlast, hrest⟩
      rw [mergeFrom]
      split
      · exact ih (pairwise_before_longer hsorted)
      · rename_i happart
        refine List.pairwise_cons.mpr ⟨fun s hs => ?_, ih hrest⟩
        exact before_of_mem_mergeFrom (Nat.le_of_not_lt happart) hlast hrest hs

theorem mergeFrom_eq_self (h : (last :: rest).Pairwise fun a b => a.stop ≤ b.start) :
    mergeFrom last rest = last :: rest := by
  induction rest generalizing last with
  | nil => rfl
  | cons u rest ih =>
      rcases List.pairwise_cons.mp h with ⟨hlast, hrest⟩
      rw [mergeFrom, if_neg (Nat.not_lt.mpr (hlast u List.mem_cons_self)), ih hrest]

/-!
# Combined regions
-/

/-- Combined regions are in order and apart. -/
theorem pairwise_combine (lists : List (List Span)) :
    (combine lists).Pairwise (fun a b => before a b = true) ∧ (combine lists).Pairwise (fun a b => a.stop ≤ b.start) := by
  have hsorted := List.pairwise_mergeSort before_trans before_total lists.flatten
  rw [combine]
  cases hregions : lists.flatten.mergeSort before with
  | nil => exact ⟨List.Pairwise.nil, List.Pairwise.nil⟩
  | cons s rest =>
      rw [hregions] at hsorted
      exact ⟨pairwise_before_mergeFrom hsorted, pairwise_stop_le_start_mergeFrom hsorted⟩

/-- Regions that are in order and apart are combined already. -/
theorem combine_eq_self {regions : List Span} (hsorted : regions.Pairwise fun a b => before a b = true)
    (happart : regions.Pairwise fun a b => a.stop ≤ b.start) : combine [regions] = regions := by
  rw [combine, List.flatten_singleton, List.mergeSort_of_pairwise hsorted]
  cases regions with
  | nil => rfl
  | cons s rest => exact mergeFrom_eq_self happart

theorem combine_of_perm {lists others : List (List Span)} (h : others.flatten.Perm lists.flatten) :
    combine others = combine lists := by
  rw [combine, combine, mergeSort_before_of_perm h]

theorem covers_combine_iff (lists : List (List Span)) (place : Nat) :
    covers (combine lists) place = true <->
      exists regions, regions ∈ lists ∧ exists s, s ∈ regions ∧ s.start ≤ place ∧ place < s.stop := by
  rw [covers_combine, List.any_eq_true]
  simp only [covers, List.any_eq_true, holds_iff]

theorem covers_ignored_iff (t : Text) (place : Nat) :
    covers (ignored t) place = true <->
      covers (comments t) place = true ∨ covers (elements .nowiki t) place = true ∨
        covers (elements .pre t) place = true ∨ covers (elements .code t) place = true := by
  rw [ignored, covers_combine]
  simp only [List.any_cons, List.any_nil, Bool.or_false, Bool.or_eq_true]

theorem covers_markup_iff (t : Text) (place : Nat) :
    covers (markup t) place = true <->
      covers (ignored t) place = true ∨ covers (templates t) place = true ∨ covers (tables t) place = true ∨
        covers (elements .ref t) place = true := by
  rw [markup, covers_combine]
  simp only [List.any_cons, List.any_nil, Bool.or_false, Bool.or_eq_true]

/-- Combined regions are in order and do not overlap, they cover what the listed regions cover, and nothing depends on how
these were listed; combining what was combined changes nothing.  So the ignored regions cover just what the comments and
the three kinds of elements do, and the markup just what these, the templates, the tables and the footnotes do. -/
theorem combine_in_order_and_exact (lists : List (List Span)) :
    (combine lists).Pairwise (fun a b => a.start ≤ b.start ∧ a.stop ≤ b.start) ∧
      (forall place, covers (combine lists) place = true <->
        exists regions, regions ∈ lists ∧ exists s, s ∈ regions ∧ s.start ≤ place ∧ place < s.stop) ∧
      (forall others : List (List Span), others.flatten.Perm lists.flatten -> combine others = combine lists) ∧
      combine [combine lists] = combine lists ∧
      forall t place,
        (covers (ignored t) place = true <->
          covers (comments t) place = true ∨ covers (elements .nowiki t) place = true ∨
            covers (elements .pre t) place = true ∨ covers (elements .code t) place = true) ∧
        (covers (markup t) place = true <->
          covers (ignored t) place = true ∨ covers (templates t) place = true ∨ covers (tables t) place = true ∨
            covers (elements .ref t) place = true) := by
  rcases pairwise_combine lists with ⟨hsorted, happart⟩
  exact ⟨(hsorted.imp start_le_of_before).and happart, covers_combine_iff lists, fun _ => combine_of_perm,
    combine_eq_self hsorted happart, fun t place => ⟨covers_ignored_iff t place, covers_markup_iff t place⟩⟩

/-- A region that overlaps the next but one, regions that touch, and empty ones. -/
example : combine [[⟨3, 3⟩, ⟨5, 7⟩], [⟨0, 3⟩], [⟨6, 9⟩, ⟨9, 9⟩, ⟨3, 5⟩]] = [⟨0, 3⟩, ⟨3, 5⟩, ⟨5, 9⟩, ⟨9, 9⟩] := by
  cbv

end Region
end WikiEntry
