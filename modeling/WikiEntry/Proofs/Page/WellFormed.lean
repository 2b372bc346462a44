import WikiEntry.Page.Edit
import WikiEntry.Page.Read
import WikiEntry.Proofs.Page.Tree

/-!
# Changes keep pages well formed

Every change works on the document order or on the levels and derives the outline anew.  It is enough, then, that
it leaves the page orderly; for the order this means that a change only takes sections out, or puts them back
in where they were taken out before.
-/

namespace WikiEntry
namespace Page

open Outline

/-!
# Linking
-/

theorem Orderly.link {p : Page} (h : p.Orderly) : p.link.WellFormed where
  nodup := h.nodup
  made := h.made
  sound := h.sound
  linked := rfl

/-- A page is well formed under any order of its sections that repeats none. -/
theorem Orderly.setOrder {p : Page} {order : List Nat} (h : p.Orderly) (hn : order.Nodup)
    (hm : forall i, i ∈ order -> i < p.sections.length) : (p.setOrder order).WellFormed :=
  Orderly.link (p := { p with order := order }) ⟨hn, hm, h.sound⟩

theorem Orderly.setOrder_of_perm {p : Page} {order : List Nat} (h : p.Orderly) (hp : order.Perm p.order) :
    (p.setOrder order).WellFormed :=
  h.setOrder (hp.nodup_iff.mpr h.nodup) fun i hi => h.made i (hp.mem_iff.mp hi)

/-!
# New pages and sections
-/

theorem wellFormed_empty (title : Text) : (empty title).WellFormed where
  nodup := List.nodup_nil
  made := fun i hi => by cases hi
  sound := fun s hs => by cases hs
  linked := rfl

theorem level_create {p : Page} {s : Section} {i : Nat} (hi : i < p.sections.length) :
    (p.create s).1.level i = p.level i := by
  simp [level, get, create, List.getElem?_append_left hi]

theorem WellFormed.create {p : Page} {s : Section} (h : p.WellFormed) (hs : s.Sound) :
    (p.create s).1.WellFormed where
  nodup := h.nodup
  made := fun i hi => by
    have hlt := h.made i hi
    simp only [Page.create, List.length_append, List.length_singleton]
    omega
  sound := fun t ht => by
    rcases List.mem_append.mp ht with ht | ht
    · exact h.sound t ht
    · rw [List.mem_singleton.mp ht]
      exact hs
  linked := by
    show p.outline = ofOrder (p.create s).1.level p.order
    rw [h.linked]
    exact ofOrder_congr fun i hi => (level_create (h.made i hi)).symm

theorem WellFormed.append {p : Page} {s : Section} (h : p.WellFormed) (hs : s.Sound) :
    (p.append s).1.WellFormed := by
  refine (h.create hs).toOrderly.setOrder ?_ fun i hi => ?_
  · refine List.nodup_append.mpr ⟨h.nodup, by simp, fun i hi j hj hij => ?_⟩
    have hlt := h.made i hi
    rw [hij, List.mem_singleton.mp hj] at hlt
    exact Nat.lt_irrefl _ hlt
  · show i < (p.sections ++ [s]).length
    rw [List.length_append, List.length_singleton]
    rcases List.mem_append.mp hi with hi | hi
    · exact Nat.lt_succ_of_lt (h.made i hi)
    · rw [List.mem_singleton.mp hi]
      exact Nat.lt_succ_self _

/-!
# Taking sections out
-/

theorem mem_without {p : Page} {removed : List Nat} {i : Nat} :
    i ∈ p.without removed <-> i ∈ p.order ∧ i ∉ removed := by
  simp [without]

theorem WellFormed.without {p : Page} (h : p.WellFormed) (removed : List Nat) :
    (p.setOrder (p.without removed)).WellFormed :=
  h.setOrder (h.nodup.filter _) fun i hi => h.made i (mem_without.mp hi).1

theorem WellFormed.detach {p : Page} (h : p.WellFormed) (i : Nat) : (p.detach i).WellFormed :=
  h.without _

theorem WellFormed.detachAlone {p : Page} (h : p.WellFormed) (i : Nat) : (p.detachAlone i).WellFormed :=
  h.without _

/-!
# Moving sections
-/

theorem nodup_eraseDups {α : Type} [BEq α] [LawfulBEq α] (xs : List α) : xs.eraseDups.Nodup := by
  induction hl : xs.length using Nat.strongRecOn generalizing xs with
  | ind n ih =>
      cases xs with
      | nil => exact List.nodup_nil
      | cons x xs =>
          have hlt : (xs.filter fun b => !b == x).length < n := by
            have hle := List.length_filter_le (fun b => !b == x) xs
            rw [← hl, List.length_cons]
            omega
          rw [List.eraseDups_cons]
          refine List.nodup_cons.mpr ⟨fun hx => ?_, ih _ hlt _ rfl⟩
          simpa using (List.mem_filter.mp (List.mem_eraseDups.mp hx)).2

theorem eraseDups_of_nodup {xs : List Nat} (h : xs.Nodup) : xs.eraseDups = xs := by
  induction xs with
  | nil => rfl
  | cons x xs ih =>
      rcases List.nodup_cons.mp h with ⟨hx, hn⟩
      have hfilter : (xs.filter fun b => !b == x) = xs :=
        List.filter_eq_self.mpr fun b hb => by
          have hne : b ≠ x := fun e => hx (e ▸ hb)
          simpa using hne
      rw [List.eraseDups_cons, hfilter, ih hn]

theorem WellFormed.subtrees_made {p : Page} (h : p.WellFormed) {ids : List Nat}
    (hids : forall i, i ∈ ids -> i < p.sections.length) : forall i, i ∈ p.subtrees ids -> i < p.sections.length := by
  intro i hi
  rcases List.mem_flatMap.mp (List.mem_eraseDups.mp hi) with ⟨j, hj, hij⟩
  rcases List.mem_cons.mp hij with rfl | hij
  · exact hids i hj
  · exact h.made i (h.descendants_subset hij)

/-- Moved sections may be put between any two parts of the order without them. -/
theorem WellFormed.move {p : Page} (h : p.WellFormed) {ids front back : List Nat}
    (hids : forall i, i ∈ ids -> i < p.sections.length) (hrest : p.without (p.subtrees ids) = front ++ back) :
    (p.setOrder (front ++ p.subtrees ids ++ back)).WellFormed := by
  have hperm : (front ++ p.subtrees ids ++ back).Perm (p.without (p.subtrees ids) ++ p.subtrees ids) := by
    rw [hrest, List.append_assoc, List.append_assoc]
    exact List.Perm.append_left front List.perm_append_comm
  have hmade := h.subtrees_made hids
  refine h.setOrder (hperm.nodup_iff.mpr ?_) fun i hi => ?_
  · refine List.nodup_append.mpr ⟨h.nodup.filter _, nodup_eraseDups _, fun i hi j hj hij => ?_⟩
    exact (mem_without.mp hi).2 (hij ▸ hj)
  · rcases List.mem_append.mp (hperm.mem_iff.mp hi) with hi | hi
    · exact h.made i (mem_without.mp hi).1
    · exact hmade i hi

theorem WellFormed.appendSections {p : Page} (h : p.WellFormed) {ids : List Nat}
    (hids : forall i, i ∈ ids -> i < p.sections.length) : (p.appendSections ids).WellFormed := by
  unfold Page.appendSections
  by_cases he : ids.isEmpty
  · rw [if_pos he]
    exact h
  · rw [if_neg he]
    simpa using h.move hids (List.append_nil _).symm

theorem WellFormed.insertBehind {p : Page} (h : p.WellFormed) {ids : List Nat} {anchor? : Page -> Option Nat}
    {f : TreeFault} (hids : forall i, i ∈ ids -> i < p.sections.length)
    (hok : (p.insertBehind ids anchor? f).fault? = none) : (p.insertBehind ids anchor? f).page.WellFormed := by
  simp only [Page.insertBehind] at hok ⊢
  cases ha : anchor? { p with order := p.without (p.subtrees ids) } with
  | none =>
      rw [ha] at hok
      cases hok
  | some n => exact h.move hids (List.take_append_drop (n + 1) _).symm

theorem WellFormed.moveBehind {p : Page} (h : p.WellFormed) {ids : List Nat} {refused? : Option TreeFault}
    {anchor? : Page -> Option Nat} {f : TreeFault} (hids : forall i, i ∈ ids -> i < p.sections.length)
    (hok : (p.moveBehind ids refused? anchor? f).fault? = none) :
    (p.moveBehind ids refused? anchor? f).page.WellFormed := by
  unfold Page.moveBehind at hok ⊢
  by_cases he : ids.isEmpty
  · rw [if_pos he]
    exact h
  · rw [if_neg he] at hok ⊢
    cases refused? with
    | some f => cases hok
    | none => exact h.insertBehind hids hok

theorem WellFormed.setReferences {p : Page} (h : p.WellFormed) {i : Nat} (hi : i < p.sections.length) :
    (p.setReferences i).WellFormed := by
  have hmoved : forall removed : List Nat, i ∈ removed -> (p.setOrder (p.without removed ++ [i])).WellFormed := by
    intro removed hmem
    refine h.setOrder ?_ fun j hj => ?_
    · refine List.nodup_append.mpr ⟨h.nodup.filter _, by simp, fun j hj k hk hjk => ?_⟩
      rw [hjk, List.mem_singleton.mp hk] at hj
      exact (mem_without.mp hj).2 hmem
    · rcases List.mem_append.mp hj with hj | hj
      · exact h.made j (mem_without.mp hj).1
      · rw [List.mem_singleton.mp hj]
        exact hi
  unfold Page.setReferences
  cases p.references? with
  | none => exact hmoved [i] List.mem_cons_self
  | some old => exact hmoved [old, i] (List.mem_cons_of_mem old List.mem_cons_self)

/-!
# Levels
-/

theorem page_of_toExcept {a : Attempt} {q : Page} (h : a.toExcept = .ok q) : q = a.page := by
  rw [Attempt.toExcept] at h
  split at h
  · exact (Except.ok.inj h).symm
  · cases h

theorem get_modify (p : Page) (i j : Nat) (f : Section -> Section) :
    (p.modify i f).get j = if i = j ∧ j < p.sections.length then f (p.get j) else p.get j := by
  simp only [get, modify, List.getD_eq_getElem?_getD, List.getElem?_modify]
  by_cases hij : i = j
  · by_cases hj : j < p.sections.length
    · simp [hij, hj]
    · simp [hij, hj]
  · simp [hij]

theorem level_modify {p : Page} {f : Section -> Section} (hf : forall s, (f s).level = s.level) (i j : Nat) :
    (p.modify i f).level j = p.level j := by
  rw [level, get_modify]
  by_cases hij : i = j ∧ j < p.sections.length
  · rw [if_pos hij]
    exact hf (p.get j)
  · rw [if_neg hij]
    rfl

theorem Orderly.modify {p : Page} (h : p.Orderly) (i : Nat) {f : Section -> Section}
    (hf : forall s, s.Sound -> (f s).Sound) : (p.modify i f).Orderly where
  nodup := h.nodup
  made := fun j hj => by simpa [Page.modify] using h.made j hj
  sound := fun s hs => by
    rcases List.mem_iff_getElem?.mp hs with ⟨n, hn⟩
    simp only [Page.modify, List.getElem?_modify, Option.map_eq_map, Option.map_eq_some_iff] at hn
    rcases hn with ⟨t, ht, rfl⟩
    have hsound := h.sound t (List.mem_of_getElem? ht)
    by_cases hin : i = n
    · simpa [hin] using hf t hsound
    · simpa [hin] using hsound

theorem WellFormed.modify {p : Page} (h : p.WellFormed) (i : Nat) {f : Section -> Section}
    (hf : forall s, s.Sound -> (f s).Sound) (hl : forall s, (f s).level = s.level) : (p.modify i f).WellFormed where
  toOrderly := h.toOrderly.modify i hf
  linked := by
    show p.outline = ofOrder (p.modify i f).level p.order
    rw [h.linked]
    exact ofOrder_congr fun j _ => (level_modify hl i j).symm

theorem WellFormed.modifyBody {p : Page} (h : p.WellFormed) (i : Nat) (f : Section -> Body) :
    (p.modify i fun s => { s with body := f s }).WellFormed :=
  h.modify i (fun s hs => hs.withBody (f s)) fun _ => rfl

theorem Orderly.putLevel {p : Page} (h : p.Orderly) (i level : Nat) : (p.putLevel i level).page.Orderly := by
  unfold Page.putLevel
  by_cases hl : 1 ≤ level ∧ level ≤ 6
  · rw [if_pos hl]
    refine h.modify i fun s hs => ?_
    cases ht : s.setLevel level with
    | error e => exact hs
    | ok t => exact (Section.sound_setLevel ht).1
  · rw [if_neg hl]
    exact h

theorem Orderly.putLevels {p : Page} (h : p.Orderly) (levels : List (Nat × Nat)) :
    (p.putLevels levels).Orderly := by
  unfold Page.putLevels
  induction levels generalizing p with
  | nil => exact h
  | cons x levels ih => exact ih (h.putLevel x.1 x.2)

theorem WellFormed.setLevel {p : Page} (h : p.WellFormed) {i level : Nat}
    (hok : (p.setLevel i level).fault? = none) : (p.setLevel i level).page.WellFormed := by
  simp only [Page.setLevel] at hok ⊢
  cases hf : (p.putLevel i level).fault? with
  | none => exact (h.toOrderly.putLevel i level).link
  | some f =>
      simp only [hf] at hok
      cases hok

theorem WellFormed.shiftLevels {p : Page} (h : p.WellFormed) (i : Nat) (shift : Int) :
    (p.shiftLevels i shift).page.WellFormed := by
  simp only [Page.shiftLevels]
  split
  · exact h
  split
  · exact h
  split
  · exact h
  split
  · exact (h.toOrderly.putLevels _).link
  · exact h

theorem Orderly.levelSiblings {p : Page} (h : p.Orderly) (group : Option Nat × List Nat) :
    (p.levelSiblings group).Orderly := by
  unfold Page.levelSiblings
  cases p.siblingLevel? group.1 group.2 with
  | none => exact h
  | some level => exact h.putLevels _

theorem Orderly.foldl_levelSiblings {p : Page} (h : p.Orderly) (groups : List (Option Nat × List Nat)) :
    (groups.foldl Page.levelSiblings p).Orderly := by
  induction groups generalizing p with
  | nil => exact h
  | cons group groups ih => exact ih (h.levelSiblings group)

theorem WellFormed.levelFrom {p : Page} (h : p.WellFormed) (rounds depth : Nat) :
    (Page.levelFrom rounds depth p).WellFormed := by
  induction rounds generalizing p depth with
  | zero => exact h
  | succ rounds ih =>
      rw [Page.levelFrom]
      split
      · exact h
      · exact ih (h.toOrderly.foldl_levelSiblings _).link (depth + 1)

theorem WellFormed.normalizeLevels {p : Page} (h : p.WellFormed) : p.normalizeLevels.WellFormed := by
  unfold Page.normalizeLevels
  split
  · exact h
  · exact h.levelFrom _ 0

end Page
end WikiEntry
