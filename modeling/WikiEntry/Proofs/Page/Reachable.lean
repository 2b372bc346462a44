import WikiEntry.Proofs.Page.Sorting

/-!
# Reachable pages

A page begins empty or is read from a text, and is then changed step by step.  Every step keeps it well formed, so
that on every page that can be reached the tree says what the document order and the levels say.
-/

namespace WikiEntry

open Outline

/-- A change to the tree of a page. -/
inductive TreeChange where
  | create (s : Section)
  | appendSections (ids : List Nat)
  | appendChildren (parent : Nat) (ids : List Nat)
  | prependChildren (parent : Nat) (ids : List Nat)
  | insertAfter (target : Nat) (ids : List Nat)
  | detach (i : Nat)
  | detachAlone (i : Nat)
  | setLevel (i level : Nat)
  | shiftLevels (i : Nat) (shift : Int)
  | normalizeLevels
  | sortChildren (parent? : Option Nat) (cmp : Section -> Section -> Ordering)
  | sortByRank (c : Config) (parent : Nat)
  | sortLanguage (c : Config) (i : Nat)
  | sortLanguages
  | addLanguage (c : Config) (code : Text)
  | removeLanguage (code : Text)
  | setReferences (i : Nat)

namespace TreeChange

/-- What a change leaves behind. -/
def run (p : Page) : TreeChange -> Attempt
  | create s => ⟨(p.create s).1, none⟩
  | appendSections ids => ⟨p.appendSections ids, none⟩
  | appendChildren parent ids => p.appendChildren parent ids
  | prependChildren parent ids => p.prependChildren parent ids
  | insertAfter target ids => p.insertAfter target ids
  | detach i => ⟨p.detach i, none⟩
  | detachAlone i => ⟨p.detachAlone i, none⟩
  | setLevel i level => p.setLevel i level
  | shiftLevels i shift => p.shiftLevels i shift
  | normalizeLevels => ⟨p.normalizeLevels, none⟩
  | sortChildren parent? cmp => ⟨p.sortChildren parent? cmp, none⟩
  | sortByRank c parent => ⟨p.sortByRank c parent, none⟩
  | sortLanguage c i => ⟨p.sortLanguage c i, none⟩
  | sortLanguages => ⟨p.sortLanguages, none⟩
  | addLanguage c code => ⟨(p.addLanguage c code).1, none⟩
  | removeLanguage code => ⟨p.removeLanguage code, none⟩
  | setReferences i => ⟨p.setReferences i, none⟩

/-- The sections that a change names. -/
def named : TreeChange -> List Nat
  | appendSections ids => ids
  | appendChildren parent ids | prependChildren parent ids => parent :: ids
  | insertAfter target ids => target :: ids
  | detach i | detachAlone i | setLevel i _ | shiftLevels i _ | setReferences i => [i]
  | sortChildren parent? _ => parent?.toList
  | sortByRank _ i | sortLanguage _ i => [i]
  | create _ | normalizeLevels | sortLanguages | addLanguage _ _ | removeLanguage _ => []

/-- A change can be asked of a page if the sections that it names were made there, and a new section is sound. -/
structure Applies (p : Page) (x : TreeChange) : Prop where
  named : forall i, i ∈ x.named -> i < p.sections.length
  sound : forall s, x = create s -> s.Sound

end TreeChange

namespace Page

inductive Reachable : Page -> Prop where
  | new (title : Text) : Reachable (empty title)
  | read {c : Config} {title t : Text} {p : Page} : Page.read c title t = .ok p -> Reachable p
  | change {p : Page} (x : TreeChange) :
      Reachable p -> x.Applies p -> (x.run p).fault? = none -> Reachable (x.run p).page

theorem Reachable.create {p : Page} {s : Section} (h : p.Reachable) (hs : s.Sound) : (p.create s).1.Reachable := by
  have happlies : (TreeChange.create s).Applies p := by
    constructor
    · intro i hi
      cases hi
    · intro t ht
      cases ht
      exact hs
  exact .change (.create s) h happlies rfl

/-!
# Every reachable page is well formed
-/

theorem wellFormed_of_step {p : Page} {x : TreeChange} (h : p.WellFormed) (hx : x.Applies p)
    (hok : (x.run p).fault? = none) : (x.run p).page.WellFormed := by
  have hnamed := hx.named
  cases x with
  | create s => exact h.create (hx.sound s rfl)
  | appendSections ids => exact h.appendSections hnamed
  | appendChildren parent ids => exact h.moveBehind (fun i hi => hnamed i (List.mem_cons_of_mem _ hi)) hok
  | prependChildren parent ids => exact h.moveBehind (fun i hi => hnamed i (List.mem_cons_of_mem _ hi)) hok
  | insertAfter target ids => exact h.moveBehind (fun i hi => hnamed i (List.mem_cons_of_mem _ hi)) hok
  | detach i => exact h.detach i
  | detachAlone i => exact h.detachAlone i
  | setLevel i level => exact h.setLevel hok
  | shiftLevels i shift => exact h.shiftLevels i shift
  | normalizeLevels => exact h.normalizeLevels
  | sortChildren parent? cmp => exact h.sortChildren parent? cmp
  | sortByRank c parent => exact h.sortByRank c parent
  | sortLanguage c i => exact (h.sortLanguage c i).1
  | sortLanguages => exact h.sortLanguages.1
  | addLanguage c code => exact h.addLanguage c code
  | removeLanguage code => exact h.removeLanguage code
  | setReferences i => exact h.setReferences (hnamed i List.mem_cons_self)

theorem wellFormed_splitTrailing {p : Page} (c : Config) (h : p.WellFormed) : (splitTrailing c p).WellFormed := by
  unfold splitTrailing
  split
  · exact h
  · rename_i last _
    simp only
    split
    · exact h
    · rename_i m _
      have hbody := h.modifyBody last fun s =>
        bodyBeforeLinks s.body (Text.slice ('\n' :: (p.get last).intro) ⟨1, m.start⟩)
      exact ⟨⟨hbody.nodup, hbody.made, hbody.sound⟩, hbody.linked⟩

theorem wellFormed_assemble {title front : Text} {sections : List Section}
    (hsections : forall s, s ∈ sections -> s.Sound) : (assemble title front sections).WellFormed :=
  Orderly.link ⟨List.nodup_range, fun _ hi => List.mem_range.mp hi, hsections⟩

/-- The page before the links at its end are taken out. -/
def readWhole (c : Config) (title t : Text) : Except EntryError Page :=
  if t.isEmpty then .ok (empty title)
  else do
    let cut := chunks (Region.sanitizeBlanks t)
    let sections ← (dropNewlines cut.2).mapM (Section.read c)
    return assemble title cut.1 sections

theorem read_eq_map (c : Config) (title t : Text) : read c title t = (readWhole c title t).map (splitTrailing c) := by
  unfold read readWhole
  split
  · rfl
  · dsimp only
    cases (dropNewlines (chunks (Region.sanitizeBlanks t)).2).mapM (Section.read c) <;> rfl

theorem exists_readWhole_of_read {c : Config} {title t : Text} {p : Page} (h : read c title t = .ok p) :
    exists q, readWhole c title t = .ok q ∧ splitTrailing c q = p := by
  rw [read_eq_map] at h
  exact exists_of_map_eq_ok h

theorem readWhole_eq_ok {c : Config} {title t : Text} {q : Page} (h : readWhole c title t = .ok q) :
    (t = [] ∧ q = empty title) ∨
      exists sections, (dropNewlines (chunks (Region.sanitizeBlanks t)).2).mapM (Section.read c) = .ok sections ∧
        q = assemble title (chunks (Region.sanitizeBlanks t)).1 sections := by
  unfold readWhole at h
  by_cases ht : t.isEmpty
  · rw [if_pos ht] at h
    cases h
    exact Or.inl ⟨List.isEmpty_iff.mp ht, rfl⟩
  · rw [if_neg ht] at h
    rcases exists_of_bind_eq_ok h with ⟨sections, hsections, h⟩
    exact Or.inr ⟨sections, hsections, (Except.ok.inj h).symm⟩

/-- A page that was read is empty, or is put together from the sections that its pieces were read as. -/
theorem read_eq_ok {c : Config} {title t : Text} {p : Page} (h : read c title t = .ok p) :
    (t = [] ∧ p = empty title) ∨
      exists sections, (dropNewlines (chunks (Region.sanitizeBlanks t)).2).mapM (Section.read c) = .ok sections ∧
        p = splitTrailing c (assemble title (chunks (Region.sanitizeBlanks t)).1 sections) := by
  rcases exists_readWhole_of_read h with ⟨q, hq, rfl⟩
  rcases readWhole_eq_ok hq with ⟨ht, rfl⟩ | ⟨sections, hsections, rfl⟩
  · exact Or.inl ⟨ht, rfl⟩
  · exact Or.inr ⟨sections, hsections, rfl⟩

theorem sound_of_mapM_read {c : Config} {pieces : List Text} {sections : List Section}
    (h : pieces.mapM (Section.read c) = .ok sections) {s : Section} (hs : s ∈ sections) : s.Sound := by
  rcases exists_of_mem_of_mapM_eq_ok h hs with ⟨piece, _, hread⟩
  exact Section.sound_read hread

theorem wellFormed_readWhole {c : Config} {title t : Text} {q : Page} (h : readWhole c title t = .ok q) :
    q.WellFormed := by
  rcases readWhole_eq_ok h with ⟨_, rfl⟩ | ⟨sections, hsections, rfl⟩
  · exact wellFormed_empty title
  · exact wellFormed_assemble fun s hs => sound_of_mapM_read hsections hs

theorem wellFormed_read {c : Config} {title t : Text} {p : Page} (h : read c title t = .ok p) :
    p.WellFormed := by
  rcases exists_readWhole_of_read h with ⟨q, hq, rfl⟩
  exact wellFormed_splitTrailing c (wellFormed_readWhole hq)

theorem Reachable.wellFormed {p : Page} (h : p.Reachable) : p.WellFormed := by
  induction h with
  | new title => exact wellFormed_empty title
  | read hread => exact wellFormed_read hread
  | change x _ hx hok ih => exact wellFormed_of_step ih hx hok

/-!
# The tree follows the order
-/

/-- The tree of a page says what its document order and its levels say. -/
structure TreeFollowsOrder (p : Page) : Prop where
  nodup_order : p.order.Nodup
  /-- The parent is the nearest section before that is shallower. -/
  parent?_eq_some_iff : forall i j, p.parent? i = some j <->
    exists front between back, p.order = front ++ j :: (between ++ i :: back) ∧ p.level j < p.level i ∧
      forall k, k ∈ between -> p.level i ≤ p.level k
  children_eq : forall x, p.children x = p.order.filter fun i => p.parent? i == some x
  topLevel_eq : p.topLevel = p.order.filter fun i => p.parent? i == none
  depth_eq : forall i, i ∈ p.order -> exists as, p.Ancestors i as ∧ p.depth i = 1 + as.length
  /-- The walk visits a section and then its children, each with what is below it. -/
  subtree_eq : forall i, p.subtree i = i :: (p.children i).flatMap p.subtree
  walk_eq : p.topLevel.flatMap p.subtree = p.order
  of_not_mem : forall i, i ∉ p.order -> p.parent? i = none ∧ p.children i = []

theorem WellFormed.treeFollowsOrder {p : Page} (h : p.WellFormed) : p.TreeFollowsOrder where
  nodup_order := h.nodup
  parent?_eq_some_iff := fun _ _ => h.parent?_eq_some_iff
  children_eq := h.children_eq_filter
  topLevel_eq := List.filter_congr fun i hi => by
    rw [Bool.eq_iff_iff, beq_iff_eq, beq_iff_eq]
    exact h.depth_eq_one_iff hi
  depth_eq := fun _ hi => h.exists_ancestors hi
  subtree_eq := h.subtree_eq
  walk_eq := h.flatMap_subtree_topLevel
  of_not_mem := fun _ hi => ⟨h.parent?_of_not_mem hi, h.children_of_not_mem hi⟩

/-- On every reachable page the tree follows the document order, and sorting only permutes that order. -/
theorem Reachable.treeFollowsOrder_and_perm_sort {p : Page} (h : p.Reachable) :
    p.TreeFollowsOrder ∧
      (forall parent? cmp, (p.sortChildren parent? cmp).order.Perm p.order) ∧
      (forall c parent, (p.sortByRank c parent).order.Perm p.order) ∧
      (forall c i, (p.sortLanguage c i).order.Perm p.order) ∧
      p.sortLanguages.order.Perm p.order := by
  have hw := h.wellFormed
  exact ⟨hw.treeFollowsOrder, hw.perm_sortChildren, hw.perm_sortByRank, fun c i => (hw.sortLanguage c i).2,
    hw.sortLanguages.2⟩

/-- A section of level 3 is put under one of level 2 that was made after it, in front of a section that is then
raised to its level. -/
theorem treeFollowsOrder_and_perm_sort_moved :
    exists p, Reachable p ∧ p.order = [1, 0, 2] ∧ p.parent? 2 = some 1 ∧ p.depth 2 = 2 ∧
      p.TreeFollowsOrder ∧
        (forall parent? cmp, (p.sortChildren parent? cmp).order.Perm p.order) ∧
        (forall c parent, (p.sortByRank c parent).order.Perm p.order) ∧
        (forall c i, (p.sortLanguage c i).order.Perm p.order) ∧
        p.sortLanguages.order.Perm p.order := by
  have plain : forall level, 1 ≤ level -> level ≤ 6 ->
      Section.Sound ⟨⟨level, "Uso", .spaced, [], []⟩, {}, none⟩ := fun _ hpos hle => ⟨hpos, hle, nofun⟩
  have created := Reachable.change (.create ⟨⟨3, "Uso", .spaced, [], []⟩, {}, none⟩) (.new "casa")
    ⟨by decide, fun s hs => by cases hs; exact plain 3 (by decide) (by decide)⟩ rfl
  have created := Reachable.change (.create ⟨⟨2, "Uso", .spaced, [], []⟩, {}, none⟩) created
    ⟨by decide, fun s hs => by cases hs; exact plain 2 (by decide) (by decide)⟩ rfl
  have created := Reachable.change (.create ⟨⟨4, "Uso", .spaced, [], []⟩, {}, none⟩) created
    ⟨by decide, fun s hs => by cases hs; exact plain 4 (by decide) (by decide)⟩ rfl
  have appended := Reachable.change (.appendSections [0, 1, 2]) created ⟨by decide, nofun⟩ rfl
  have moved := Reachable.change (.prependChildren 1 [0]) appended ⟨by decide, nofun⟩ (by decide)
  have raised := Reachable.change (.setLevel 2 3) moved ⟨by decide, nofun⟩ (by decide)
  exact ⟨_, raised, by decide, by decide, by decide, raised.treeFollowsOrder_and_perm_sort⟩

end Page
end WikiEntry
