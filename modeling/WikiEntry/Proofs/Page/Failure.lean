import WikiEntry.Page.Render
import WikiEntry.Proofs.Page.Reachable

/-!
# Changes that fail

Levels are checked before anything is changed, so that a change that is refused for them leaves the page as it was.
Moving sections looks for its anchor only when the sections are taken out already: if the anchor is not part of the
document, or goes with the sections that are moved, the call fails and they stay out, while the outline is still
the old one.
-/

namespace WikiEntry

/-- The anchor of a move was not found in the document. -/
def TreeFault.isDetached : TreeFault -> Bool
  | parentDetached | targetDetached => true
  | _ => false

/-- The sections that a change moves to another section. -/
def TreeChange.moved : TreeChange -> List Nat
  | appendChildren _ ids | prependChildren _ ids | insertAfter _ ids => ids
  | _ => []

namespace Page

/-!
# Levels
-/

theorem setLevel_of_fault {p : Page} {i level : Nat} {f : TreeFault} (hf : (p.setLevel i level).fault? = some f) :
    (p.setLevel i level).page = p ∧ f.isDetached = false := by
  simp only [setLevel, putLevel] at hf ⊢
  by_cases hl : 1 ≤ level ∧ level ≤ 6
  · rw [if_pos hl] at hf
    cases hf
  · rw [if_neg hl] at hf ⊢
    cases hf
    exact ⟨rfl, rfl⟩

/-- A shift does nothing, is refused with the page as it was, or puts the whole subtree on its new levels. -/
theorem shiftLevels_cases (p : Page) (i : Nat) (shift : Int) :
    (shift = 0 ∧ p.shiftLevels i shift = ⟨p, none⟩) ∨
      (exists f, p.shiftLevels i shift = ⟨p, some f⟩ ∧
        (f = .shiftTooFar shift ∨ f = .languageShifted ∨ f = .shiftedOutOfRange shift)) ∨
      (shift ≠ 0 ∧ p.isLanguage i = false ∧
        (forall j, j ∈ p.subtree i -> 1 ≤ (p.level j : Int) + shift ∧ (p.level j : Int) + shift ≤ 6) ∧
        p.shiftLevels i shift =
          ⟨(p.putLevels ((p.subtree i).map fun j => (j, ((p.level j : Int) + shift).toNat))).link, none⟩) := by
  unfold shiftLevels
  by_cases hzero : shift = 0
  · exact Or.inl ⟨hzero, if_pos hzero⟩
  right
  rw [if_neg hzero]
  by_cases hfar : shift < -5 ∨ 5 < shift
  · rw [if_pos hfar]
    exact Or.inl ⟨_, rfl, Or.inl rfl⟩
  rw [if_neg hfar]
  by_cases hlang : p.isLanguage i = true
  · rw [if_pos hlang]
    exact Or.inl ⟨_, rfl, Or.inr (Or.inl rfl)⟩
  rw [if_neg hlang]
  dsimp only
  rw [List.map_map, List.all_map]
  by_cases hrange : (p.subtree i).all fun j => decide (1 ≤ (p.level j : Int) + shift ∧ (p.level j : Int) + shift ≤ 6)
  · right
    refine ⟨hzero, Bool.eq_false_iff.mpr hlang, fun j hj => of_decide_eq_true (List.all_eq_true.mp hrange j hj), ?_⟩
    exact if_pos hrange
  · left
    exact ⟨_, if_neg hrange, Or.inr (Or.inr rfl)⟩

theorem shiftLevels_of_fault {p : Page} {i : Nat} {shift : Int} {f : TreeFault}
    (hf : (p.shiftLevels i shift).fault? = some f) : (p.shiftLevels i shift).page = p ∧ f.isDetached = false := by
  rcases shiftLevels_cases p i shift with ⟨_, heq⟩ | ⟨g, heq, hg⟩ | ⟨_, _, _, heq⟩
  · rw [heq] at hf
    cases hf
  · rw [heq] at hf ⊢
    cases hf
    rcases hg with rfl | rfl | rfl <;> exact ⟨rfl, rfl⟩
  · rw [heq] at hf
    cases hf

theorem isDetached_of_notDeeper? {p : Page} {parent : Nat} {ids : List Nat} {f : TreeFault}
    (hf : p.notDeeper? parent ids = some f) : f.isDetached = false := by
  rcases Option.map_eq_some_iff.mp hf with ⟨_, _, rfl⟩
  rfl

theorem isDetached_of_notSameLevel? {p : Page} {target : Nat} {ids : List Nat} {f : TreeFault}
    (hf : p.notSameLevel? target ids = some f) : f.isDetached = false := by
  rcases Option.map_eq_some_iff.mp hf with ⟨_, _, rfl⟩
  rfl

/-!
# Moves
-/

/-- The page without the sections that were to be moved, which still has its old outline. -/
def withoutMoved (p : Page) (ids : List Nat) : Page :=
  { p with order := p.without (p.subtrees ids) }

/-- A move fails before it has changed anything, or leaves the moved sections out. -/
theorem moveBehind_of_fault {p : Page} {ids : List Nat} {refused? : Option TreeFault} {anchor? : Page -> Option Nat}
    {detached f : TreeFault} (hrefused : forall r, refused? = some r -> r.isDetached = false)
    (hdetached : detached.isDetached = true) (hf : (p.moveBehind ids refused? anchor? detached).fault? = some f) :
    (f.isDetached = false ∧ (p.moveBehind ids refused? anchor? detached).page = p) ∨
      (f.isDetached = true ∧ (p.moveBehind ids refused? anchor? detached).page = p.withoutMoved ids) := by
  unfold moveBehind at hf ⊢
  by_cases he : ids.isEmpty
  · rw [if_pos he] at hf
    cases hf
  · rw [if_neg he] at hf ⊢
    cases hr : refused? with
    | some r =>
        rw [hr] at hf
        cases hf
        exact Or.inl ⟨hrefused f hr, rfl⟩
    | none =>
        rw [hr] at hf
        simp only [insertBehind] at hf ⊢
        cases ha : anchor? { p with order := p.without (p.subtrees ids) } with
        | some n =>
            rw [ha] at hf
            cases hf
        | none =>
            rw [ha] at hf
            cases hf
            exact Or.inr ⟨hdetached, rfl⟩

/-- What lies below a section that is not part of the document is nothing, so that it takes nothing out. -/
theorem WellFormed.mem_of_mem_subtrees {p : Page} (h : p.WellFormed) {ids : List Nat} {j : Nat}
    (hj : j ∈ p.subtrees ids) (horder : j ∈ p.order) : exists i, i ∈ ids ∧ i ∈ p.order := by
  rcases List.mem_flatMap.mp (List.mem_eraseDups.mp hj) with ⟨i, hi, hji⟩
  refine ⟨i, hi, ?_⟩
  rcases List.mem_cons.mp hji with rfl | hbelow
  · exact horder
  · exact h.mem_of_mem_descendants hbelow

theorem mem_subtrees {p : Page} {ids : List Nat} {i : Nat} (hi : i ∈ ids) : i ∈ p.subtrees ids :=
  List.mem_eraseDups.mpr (List.mem_flatMap.mpr ⟨i, hi, List.mem_cons_self⟩)

theorem WellFormed.order_withoutMoved {p : Page} (h : p.WellFormed) (ids : List Nat) :
    (p.withoutMoved ids).order = p.order <-> forall i, i ∈ ids -> i ∉ p.order := by
  show p.without (p.subtrees ids) = p.order <-> _
  rw [Page.without, List.filter_eq_self]
  constructor
  · intro hkept i hi horder
    have hnot := hkept i horder
    rw [List.contains_iff_mem.mpr (mem_subtrees hi)] at hnot
    cases hnot
  · intro hids j hj
    have hnot : j ∉ p.subtrees ids := by
      intro hmoved
      rcases h.mem_of_mem_subtrees hmoved hj with ⟨i, hi, horder⟩
      exact hids i hi horder
    simpa using hnot

/-!
# All changes
-/

theorem run_of_fault {p : Page} {x : TreeChange} {f : TreeFault} (hf : (x.run p).fault? = some f) :
    (f.isDetached = false ∧ (x.run p).page = p) ∨
      (f.isDetached = true ∧ (x.run p).page = p.withoutMoved x.moved) := by
  cases x with
  | appendChildren parent ids => exact moveBehind_of_fault (fun _ hr => isDetached_of_notDeeper? hr) rfl hf
  | prependChildren parent ids => exact moveBehind_of_fault (fun _ hr => isDetached_of_notDeeper? hr) rfl hf
  | insertAfter target ids => exact moveBehind_of_fault (fun _ hr => isDetached_of_notSameLevel? hr) rfl hf
  | setLevel i level => exact Or.inl (setLevel_of_fault hf).symm
  | shiftLevels i shift => exact Or.inl (shiftLevels_of_fault hf).symm
  | create s => cases hf
  | appendSections ids => cases hf
  | detach i => cases hf
  | detachAlone i => cases hf
  | normalizeLevels => cases hf
  | sortChildren parent? cmp => cases hf
  | sortByRank c parent => cases hf
  | sortLanguage c i => cases hf
  | sortLanguages => cases hf
  | addLanguage c code => cases hf
  | removeLanguage code => cases hf
  | setReferences i => cases hf

/-- A change that fails leaves the page as it was, unless its anchor is detached and a section that it was to move is
not: then just the sections to be moved are missing in the document order, and all else is as it was. -/
theorem Reachable.page_eq_iff_of_fault {p : Page} (h : p.Reachable) {x : TreeChange} {f : TreeFault}
    (hf : (x.run p).fault? = some f) :
    ((x.run p).page = p <-> f.isDetached = false ∨ forall i, i ∈ x.moved -> i ∉ p.order) ∧
      ((x.run p).page.order = p.order -> (x.run p).page = p) ∧
      (f.isDetached = true -> (x.run p).page = p.withoutMoved x.moved) := by
  rcases run_of_fault hf with ⟨hfault, hpage⟩ | ⟨hfault, hpage⟩
  · refine ⟨⟨fun _ => Or.inl hfault, fun _ => hpage⟩, fun _ => hpage, fun hdetached => ?_⟩
    rw [hfault] at hdetached
    cases hdetached
  · have horder := h.wellFormed.order_withoutMoved x.moved
    have hself : (p.withoutMoved x.moved).order = p.order -> p.withoutMoved x.moved = p := by
      intro heq
      show { p with order := (p.withoutMoved x.moved).order } = p
      rw [heq]
    rw [hpage, hfault]
    refine ⟨?_, hself, fun _ => rfl⟩
    constructor
    · intro heq
      exact Or.inr (horder.mp (congrArg Page.order heq))
    · rintro (hfalse | hids)
      · cases hfalse
      · exact hself (horder.mpr hids)

/-- Two sections of one level, of which the first was taken out. -/
def entryWithDetached : Page where
  title := "casa"
  sections := [⟨⟨2, "Uso", .tight, [], []⟩, {}, none⟩, ⟨⟨2, "Notas", .tight, [], []⟩, {}, none⟩]
  order := [1]
  outline := .ofList [(1, 2)]

theorem reachable_entryWithDetached : entryWithDetached.Reachable := by
  have hfirst := (Reachable.new "casa").create (s := entryWithDetached.get 0) (by decide)
  have hsecond := hfirst.create (s := entryWithDetached.get 1) (by decide)
  have hboth := Reachable.change (.appendSections [0, 1]) hsecond ⟨by decide, nofun⟩ rfl
  exact .change (.detach 0) hboth ⟨by decide, nofun⟩ rfl

theorem page_eq_iff_of_fault_entryWithDetached :
    entryWithDetached.Reachable ∧
      ((TreeChange.insertAfter 0 [1]).run entryWithDetached).fault? = some .targetDetached ∧
      (((TreeChange.insertAfter 0 [1]).run entryWithDetached).page = entryWithDetached <->
        TreeFault.targetDetached.isDetached = false ∨ forall i, i ∈ [1] -> i ∉ entryWithDetached.order) ∧
      (((TreeChange.insertAfter 0 [1]).run entryWithDetached).page.order = entryWithDetached.order ->
        ((TreeChange.insertAfter 0 [1]).run entryWithDetached).page = entryWithDetached) ∧
      (TreeFault.targetDetached.isDetached = true ->
        ((TreeChange.insertAfter 0 [1]).run entryWithDetached).page = entryWithDetached.withoutMoved [1]) := by
  have hfault : ((TreeChange.insertAfter 0 [1]).run entryWithDetached).fault? = some .targetDetached := by decide
  exact ⟨reachable_entryWithDetached, hfault, reachable_entryWithDetached.page_eq_iff_of_fault hfault⟩

/-- Not every change that fails leaves the document order, or the text that is printed, as it was. -/
theorem not_forall_order_eq_of_fault :
    ¬ forall (p : Page) (x : TreeChange) (f : TreeFault), p.Reachable -> x.Applies p -> (x.run p).fault? = some f ->
      (x.run p).page.order = p.order ∧ (x.run p).page.render = p.render := by
  intro h
  have hkept := h entryWithDetached (.insertAfter 0 [1]) .targetDetached reachable_entryWithDetached
    ⟨by decide, nofun⟩ (by decide)
  exact absurd hkept.1 (by decide)

end Page
end WikiEntry
