import WikiEntry.Proofs.Page.Failure

/-!
# Level changes and languages

A section that leaves level 2 is no language any more, and nothing makes a section a language again.  A shift looks at
the section that it was asked for and not at those below it, so that it takes the language away from every
language section below a shifted one.  Making levels equal keeps the languages under sections of level 1, since
their place is on level 2, but lifts those on top to level 1 if any section stands on that level.
-/

namespace WikiEntry

namespace Page

/-!
# Single sections
-/

theorem lt_length_of_isLanguage {p : Page} {j : Nat} (hj : p.isLanguage j = true) : j < p.sections.length := by
  refine Nat.lt_of_not_le fun hle => ?_
  rw [isLanguage, get, List.getD_eq_getElem?_getD, List.getElem?_eq_none hle] at hj
  cases hj

theorem page_putLevel {p : Page} {i level : Nat} (hl : 1 ≤ level ∧ level ≤ 6) :
    (p.putLevel i level).page = p.modify i fun s =>
      ⟨{ s.line with level := level }, s.body, if level = 2 then s.language? else none⟩ := by
  have hset : forall s : Section, s.setLevel level =
      .ok ⟨{ s.line with level := level }, s.body, if level = 2 then s.language? else none⟩ := by
    intro s
    simp only [Section.setLevel, Section.checkLevel_eq_ok_iff.mpr hl]
    rfl
  rw [putLevel, if_pos hl]
  simp only [hset]
  rfl

/-- A section on a new level is a language if it was one and the new level is 2. -/
theorem isLanguage_putLevel (p : Page) (i level j : Nat) :
    (p.putLevel i level).page.isLanguage j = true <->
      p.isLanguage j = true ∧ (i = j -> 1 ≤ level -> level ≤ 6 -> level = 2) := by
  by_cases hl : 1 ≤ level ∧ level ≤ 6
  · rw [page_putLevel hl, isLanguage, isLanguage, get_modify]
    by_cases hij : i = j ∧ j < p.sections.length
    · rw [if_pos hij]
      by_cases htwo : level = 2
      · simp [Section.isLanguage, htwo]
      · simp [Section.isLanguage, htwo, hij.1, hl]
    · rw [if_neg hij]
      constructor
      · intro hj
        exact ⟨hj, fun he => absurd ⟨he, lt_length_of_isLanguage hj⟩ hij⟩
      · exact And.left
  · rw [putLevel, if_neg hl]
    constructor
    · intro hj
      exact ⟨hj, fun _ hpos hle => absurd ⟨hpos, hle⟩ hl⟩
    · exact And.left

theorem level_putLevel_of_ne {p : Page} {i j : Nat} (level : Nat) (hij : i ≠ j) :
    (p.putLevel i level).page.level j = p.level j := by
  by_cases hl : 1 ≤ level ∧ level ≤ 6
  · rw [page_putLevel hl, Page.level, get_modify, if_neg fun h => hij h.1]
    rfl
  · rw [putLevel, if_neg hl]

theorem isLanguage_putLevels (p : Page) (levels : List (Nat × Nat)) (j : Nat) :
    (p.putLevels levels).isLanguage j = true <->
      p.isLanguage j = true ∧ forall x, x ∈ levels -> x.1 = j -> 1 ≤ x.2 -> x.2 ≤ 6 -> x.2 = 2 := by
  unfold putLevels
  induction levels generalizing p with
  | nil => simp
  | cons x levels ih =>
      rw [List.foldl_cons, ih, isLanguage_putLevel, and_assoc, List.forall_mem_cons]

theorem level_putLevels_of_not_mem {p : Page} {levels : List (Nat × Nat)} {j : Nat}
    (hj : forall x, x ∈ levels -> x.1 ≠ j) : (p.putLevels levels).level j = p.level j := by
  unfold putLevels
  induction levels generalizing p with
  | nil => rfl
  | cons x levels ih =>
      rw [List.foldl_cons, ih fun y hy => hj y (List.mem_cons_of_mem x hy)]
      exact level_putLevel_of_ne x.2 (hj x List.mem_cons_self)

/-!
# Shifts
-/

/-- The languages of the document are still languages, and stand on level 2. -/
def KeepsLanguages (p q : Page) : Prop :=
  forall j, j ∈ p.order -> p.isLanguage j = true -> j ∈ q.order ∧ q.isLanguage j = true ∧ q.level j = 2

theorem WellFormed.keepsLanguages_iff_isLanguage {p q : Page} (hq : q.WellFormed) (horder : q.order = p.order) :
    p.KeepsLanguages q <-> forall j, j ∈ p.order -> p.isLanguage j = true -> q.isLanguage j = true := by
  constructor
  · intro h j hj hlang
    exact (h j hj hlang).2.1
  · intro h j hj hlang
    have hlang' := h j hj hlang
    exact ⟨horder ▸ hj, hlang', hq.level_eq_two hlang'⟩

theorem order_putLevels (p : Page) (levels : List (Nat × Nat)) : (p.putLevels levels).order = p.order := by
  unfold putLevels
  induction levels generalizing p with
  | nil => rfl
  | cons x levels ih =>
      rw [List.foldl_cons, ih]
      unfold putLevel
      split <;> rfl

theorem WellFormed.keepsLanguages_shiftLevels {p : Page} (h : p.WellFormed) {i : Nat} {shift : Int}
    (hok : (p.shiftLevels i shift).fault? = none) :
    p.KeepsLanguages (p.shiftLevels i shift).page <->
      shift = 0 ∨ forall j, j ∈ p.descendants i -> p.isLanguage j = false := by
  have hshifted := h.shiftLevels i shift
  rcases shiftLevels_cases p i shift with ⟨hzero, heq⟩ | ⟨f, heq, _⟩ | ⟨hne, hroot, hrange, heq⟩
  · rw [heq]
    exact ⟨fun _ => Or.inl hzero, fun _ => (h.keepsLanguages_iff_isLanguage rfl).mpr fun _ _ hlang => hlang⟩
  · rw [heq] at hok
    cases hok
  · rw [heq] at hshifted ⊢
    rw [hshifted.keepsLanguages_iff_isLanguage (order_putLevels p _)]
    have hlanguage : forall j, (p.putLevels ((p.subtree i).map fun j =>
        (j, ((p.level j : Int) + shift).toNat))).isLanguage j = true <->
          p.isLanguage j = true ∧ j ∉ p.subtree i := by
      intro j
      rw [isLanguage_putLevels, List.forall_mem_map]
      refine and_congr_right fun hlang => ?_
      have htwo := h.level_eq_two hlang
      constructor
      · intro hall hj
        have hin := hrange j hj
        have := hall j hj rfl (by dsimp only; omega) (by dsimp only; omega)
        dsimp only at this
        omega
      · rintro hj k hk rfl
        exact absurd hk hj
    constructor
    · intro hkeeps
      right
      intro j hj
      refine Bool.eq_false_iff.mpr fun hlang => ?_
      have hkept := hkeeps j (h.descendants_subset hj) hlang
      exact ((hlanguage j).mp hkept).2 (List.mem_cons_of_mem i hj)
    · rintro (hzero | hbelow)
      · exact absurd hzero hne
      · intro j _ hlang
        refine (hlanguage j).mpr ⟨hlang, fun hj => ?_⟩
        rcases List.mem_cons.mp hj with rfl | hj
        · rw [hroot] at hlang
          cases hlang
        · rw [hbelow j hj] at hlang
          cases hlang

/-!
# Equal levels
-/

theorem isLanguage_levelSiblings (p : Page) (group : Option Nat × List Nat) (j : Nat) :
    (p.levelSiblings group).isLanguage j = true <->
      p.isLanguage j = true ∧ forall level, p.siblingLevel? group.1 group.2 = some level -> j ∈ group.2 ->
        1 ≤ level -> min level 6 = 2 := by
  unfold levelSiblings
  cases hlevel : p.siblingLevel? group.1 group.2 with
  | none => simp
  | some level =>
      dsimp only
      rw [isLanguage_putLevels, List.forall_mem_map]
      refine and_congr_right fun _ => ?_
      constructor
      · intro hall level' hlevel' hj hpos
        cases hlevel'
        exact hall j hj rfl (by dsimp only; omega) (by dsimp only; omega)
      · rintro hall k hk rfl hpos _
        dsimp only at hpos
        exact hall level rfl hk (by omega)

theorem level_levelSiblings_of_not_mem {p : Page} {group : Option Nat × List Nat} {j : Nat} (hj : j ∉ group.2) :
    (p.levelSiblings group).level j = p.level j := by
  unfold levelSiblings
  cases p.siblingLevel? group.1 group.2 with
  | none => rfl
  | some level =>
      refine level_putLevels_of_not_mem fun x hx hxj => hj ?_
      rcases List.mem_map.mp hx with ⟨k, hk, rfl⟩
      exact hxj ▸ hk

theorem siblingLevel?_some {p : Page} {parent level : Nat} {siblings : List Nat}
    (hlevel : p.siblingLevel? (some parent) siblings = some level) : level = p.level parent + 1 := by
  unfold siblingLevel? at hlevel
  dsimp only at hlevel
  split at hlevel
  · split at hlevel
    · exact (Option.some.inj hlevel).symm
    · cases hlevel
  · cases hlevel

/-- On top the siblings go to the topmost of their levels, unless they have only one. -/
theorem siblingLevel?_none_iff {p : Page} {siblings : List Nat} {least : Nat} :
    p.siblingLevel? none siblings = some least <->
      (siblings.map p.level).min? = some least ∧ exists i, i ∈ siblings ∧ least < p.level i := by
  unfold siblingLevel?
  dsimp only
  constructor
  · intro hlevel
    split at hlevel
    · rename_i least' most hmin hmax
      split at hlevel
      · rename_i hne
        cases hlevel
        refine ⟨hmin, ?_⟩
        rcases List.mem_map.mp (List.max?_mem hmax) with ⟨i, hi, rfl⟩
        have hle := (List.min?_eq_some_iff.mp hmin).2 _ (List.mem_map_of_mem hi)
        exact ⟨i, hi, by omega⟩
      · cases hlevel
    · cases hlevel
  · rintro ⟨hmin, i, hi, hlt⟩
    cases hmax : (siblings.map p.level).max? with
    | none =>
        rw [List.max?_eq_none_iff.mp hmax] at hmin
        cases hmin
    | some most =>
        have hle := (List.max?_eq_some_iff.mp hmax).2 _ (List.mem_map_of_mem hi)
        rw [hmin]
        exact if_pos (by omega)

/-- No section becomes a language by it. -/
theorem isLanguage_of_foldl_levelSiblings {p : Page} {groups : List (Option Nat × List Nat)} {j : Nat}
    (hj : (groups.foldl levelSiblings p).isLanguage j = true) : p.isLanguage j = true := by
  induction groups generalizing p with
  | nil => exact hj
  | cons group groups ih => exact ((isLanguage_levelSiblings p group j).mp (ih hj)).1

theorem isLanguage_of_levelFrom {p : Page} {rounds depth j : Nat}
    (hj : (levelFrom rounds depth p).isLanguage j = true) : p.isLanguage j = true := by
  induction rounds generalizing p depth with
  | zero => exact hj
  | succ rounds ih =>
      rw [levelFrom] at hj
      split at hj
      · exact hj
      · have hround : (List.foldl levelSiblings p (p.siblingGroups depth)).link.isLanguage j = true := ih hj
        exact isLanguage_of_foldl_levelSiblings hround

namespace WellFormed

variable {p : Page}

theorem one_le_level (h : p.WellFormed) (i : Nat) : 1 ≤ p.level i :=
  (get_sound h.sound i).one_le_level

/-- A section of level 1 has nothing above it. -/
theorem parent?_of_level_eq_one (h : p.WellFormed) {i : Nat} (hi : p.level i = 1) : p.parent? i = none := by
  cases hp : p.parent? i with
  | none => rfl
  | some j =>
      have hlt := (h.parent_spec hp).2.2
      have hpos := h.one_le_level j
      omega

/-- Among the children of other sections languages lie below sections of level 1, which themselves stay in place,
so that the level for their siblings is 2. -/
theorem isLanguage_foldl_levelSiblings (h : p.WellFormed) {parents : List Nat} {q : Page} {j : Nat}
    (hlang : p.isLanguage j = true) (hone : forall k, p.level k = 1 -> q.level k = 1)
    (hj : q.isLanguage j = true) :
    ((parents.map fun i => (some i, p.children i)).foldl levelSiblings q).isLanguage j = true := by
  induction parents generalizing q with
  | nil => exact hj
  | cons i parents ih =>
      rw [List.map_cons, List.foldl_cons]
      apply ih
      · intro k hk
        have hnot : k ∉ p.children i := by
          intro hmem
          have hp := h.mem_children_iff.mp hmem
          rw [h.parent?_of_level_eq_one hk] at hp
          cases hp
        rw [level_levelSiblings_of_not_mem hnot]
        exact hone k hk
      · refine (isLanguage_levelSiblings q _ j).mpr ⟨hj, fun level hlevel hmem _ => ?_⟩
        have hlt := (h.parent_spec (h.mem_children_iff.mp hmem)).2.2
        have htwo := h.level_eq_two hlang
        have hpos := h.one_le_level i
        have hi := hone i (by omega)
        have := siblingLevel?_some hlevel
        omega

theorem isLanguage_levelFrom (h : p.WellFormed) (rounds depth : Nat) {j : Nat} (hj : p.isLanguage j = true) :
    (Page.levelFrom rounds (depth + 1) p).isLanguage j = true := by
  induction rounds generalizing p depth with
  | zero => exact hj
  | succ rounds ih =>
      rw [Page.levelFrom]
      split
      · exact hj
      · refine ih (h.toOrderly.foldl_levelSiblings _).link (depth + 1) ?_
        exact h.isLanguage_foldl_levelSiblings hj (fun _ hk => hk) hj

theorem mem_topLevel_iff (h : p.WellFormed) {i : Nat} : i ∈ p.topLevel <-> i ∈ p.order ∧ p.parent? i = none := by
  rw [topLevel, List.mem_filter]
  refine and_congr_right fun hi => ?_
  rw [beq_iff_eq]
  exact h.depth_eq_one_iff hi

/-- On top a language is lifted to level 1 exactly if some section stands on that level. -/
theorem isLanguage_levelSiblings_topLevel (h : p.WellFormed) {j : Nat} (hlang : p.isLanguage j = true) :
    (p.levelSiblings (none, p.topLevel)).isLanguage j = true <->
      (j ∈ p.topLevel -> forall k, k ∈ p.order -> p.level k ≠ 1) := by
  have htwo := h.level_eq_two hlang
  rw [isLanguage_levelSiblings]
  constructor
  · rintro ⟨_, hlevel⟩ hj k hk hone
    have hktop : k ∈ p.topLevel := h.mem_topLevel_iff.mpr ⟨hk, h.parent?_of_level_eq_one hone⟩
    have hmin : (p.topLevel.map p.level).min? = some 1 := by
      refine List.min?_eq_some_iff.mpr ⟨hone ▸ List.mem_map_of_mem hktop, fun b hb => ?_⟩
      rcases List.mem_map.mp hb with ⟨i, _, rfl⟩
      exact h.one_le_level i
    have := hlevel 1 (siblingLevel?_none_iff.mpr ⟨hmin, j, hj, by omega⟩) hj (Nat.le_refl 1)
    omega
  · intro hnone
    refine ⟨hlang, fun level hlevel hj _ => ?_⟩
    rcases siblingLevel?_none_iff.mp hlevel with ⟨hmin, _⟩
    have hle := (List.min?_eq_some_iff.mp hmin).2 _ (List.mem_map_of_mem hj)
    rcases List.mem_map.mp (List.min?_mem hmin) with ⟨k, hk, rfl⟩
    have hne := hnone hj k (h.mem_topLevel_iff.mp hk).1
    have hpos := h.one_le_level k
    omega

theorem isLanguage_normalizeLevels (h : p.WellFormed) {j : Nat} (hlang : p.isLanguage j = true) :
    p.normalizeLevels.isLanguage j = true <-> (j ∈ p.topLevel -> forall k, k ∈ p.order -> p.level k ≠ 1) := by
  rw [← h.isLanguage_levelSiblings_topLevel hlang]
  unfold Page.normalizeLevels
  by_cases hempty : p.order.isEmpty
  · rw [if_pos hempty]
    refine iff_of_true hlang ((h.isLanguage_levelSiblings_topLevel hlang).mpr fun _ k hk => ?_)
    rw [List.isEmpty_iff.mp hempty] at hk
    cases hk
  · rw [if_neg hempty]
    show (Page.levelFrom p.order.length 1 (p.levelSiblings (none, p.topLevel)).link).isLanguage j = true <-> _
    constructor
    · intro hj
      have hround : (p.levelSiblings (none, p.topLevel)).link.isLanguage j = true := isLanguage_of_levelFrom hj
      exact hround
    · exact (h.toOrderly.levelSiblings _).link.isLanguage_levelFrom _ 0

end WellFormed

theorem order_levelSiblings (p : Page) (group : Option Nat × List Nat) : (p.levelSiblings group).order = p.order := by
  unfold levelSiblings
  cases p.siblingLevel? group.1 group.2 with
  | none => rfl
  | some level => exact order_putLevels p _

theorem order_foldl_levelSiblings (p : Page) (groups : List (Option Nat × List Nat)) :
    (groups.foldl levelSiblings p).order = p.order := by
  induction groups generalizing p with
  | nil => rfl
  | cons group groups ih => rw [List.foldl_cons, ih, order_levelSiblings]

theorem order_levelFrom (rounds depth : Nat) (p : Page) : (levelFrom rounds depth p).order = p.order := by
  induction rounds generalizing depth p with
  | zero => rfl
  | succ rounds ih =>
      rw [levelFrom]
      split
      · rfl
      · rw [ih]
        exact order_foldl_levelSiblings p _

theorem order_normalizeLevels (p : Page) : p.normalizeLevels.order = p.order := by
  unfold normalizeLevels
  split
  · rfl
  · exact order_levelFrom _ 0 p

theorem WellFormed.keepsLanguages_normalizeLevels {p : Page} (h : p.WellFormed) :
    p.KeepsLanguages p.normalizeLevels <->
      forall j, j ∈ p.topLevel -> p.isLanguage j = true -> forall k, k ∈ p.order -> p.level k ≠ 1 := by
  rw [h.normalizeLevels.keepsLanguages_iff_isLanguage p.order_normalizeLevels]
  constructor
  · intro hkeeps j hj hlang
    exact (h.isLanguage_normalizeLevels hlang).mp (hkeeps j (h.mem_topLevel_iff.mp hj).1 hlang) hj
  · intro hnone j _ hlang
    exact (h.isLanguage_normalizeLevels hlang).mpr fun hj => hnone j hj hlang

/-- A shift that is done keeps the languages exactly if none lies below the shifted section, and one that is refused
leaves the page as it was.  Making levels equal keeps the languages exactly if there is no language on top or no
section of level 1. -/
theorem Reachable.keepsLanguages_iff {p : Page} (h : p.Reachable) :
    (forall i shift, (p.shiftLevels i shift).fault? = none ->
      (p.KeepsLanguages (p.shiftLevels i shift).page <->
        shift = 0 ∨ forall j, j ∈ p.descendants i -> p.isLanguage j = false)) ∧
      (forall i shift f, (p.shiftLevels i shift).fault? = some f ->
        (p.shiftLevels i shift).toExcept = .error (.invariant f) ∧ (p.shiftLevels i shift).page = p) ∧
      (p.KeepsLanguages p.normalizeLevels <->
        forall j, j ∈ p.topLevel -> p.isLanguage j = true -> forall k, k ∈ p.order -> p.level k ≠ 1) := by
  have hw := h.wellFormed
  refine ⟨fun i shift hok => hw.keepsLanguages_shiftLevels hok, ?_, hw.keepsLanguages_normalizeLevels⟩
  intro i shift f hf
  constructor
  · rw [Attempt.toExcept, hf]
  · exact (shiftLevels_of_fault hf).1

/-!
# Languages that are lost
-/

/-- A language on top, and behind it a section of level 1 with another language below. -/
def entryWithLevelOne : Page where
  title := "casa"
  sections := [⟨⟨2, "\x7b\x7blengua|es\x7d\x7d", .tight, [], []⟩, {}, some ⟨⟨"lengua", [.positional 1 "es"]⟩, .plain, "español"⟩⟩,
    ⟨⟨1, "Uso", .tight, [], []⟩, {}, none⟩,
    ⟨⟨2, "\x7b\x7blengua|fr\x7d\x7d", .tight, [], []⟩, {}, some ⟨⟨"lengua", [.positional 1 "fr"]⟩, .plain, "francés"⟩⟩]
  order := [0, 1, 2]
  outline := .ofList [(0, 2), (1, 1), (2, 2)]

theorem reachable_entryWithLevelOne : entryWithLevelOne.Reachable := by
  have hfirst := (Reachable.new "casa").create (s := entryWithLevelOne.get 0) (by decide)
  have hsecond := hfirst.create (s := entryWithLevelOne.get 1) (by decide)
  have hthird := hsecond.create (s := entryWithLevelOne.get 2) (by decide)
  exact .change (.appendSections [0, 1, 2]) hthird ⟨by decide, nofun⟩ rfl

theorem keepsLanguages_iff_entryWithLevelOne :
    entryWithLevelOne.Reachable ∧ (entryWithLevelOne.shiftLevels 1 1).fault? = none ∧
      entryWithLevelOne.descendants 1 = [2] ∧ entryWithLevelOne.topLevel = [0, 1] ∧
      (entryWithLevelOne.KeepsLanguages (entryWithLevelOne.shiftLevels 1 1).page <->
        (1 : Int) = 0 ∨ forall j, j ∈ entryWithLevelOne.descendants 1 -> entryWithLevelOne.isLanguage j = false) ∧
      (entryWithLevelOne.KeepsLanguages entryWithLevelOne.normalizeLevels <->
        forall j, j ∈ entryWithLevelOne.topLevel -> entryWithLevelOne.isLanguage j = true ->
          forall k, k ∈ entryWithLevelOne.order -> entryWithLevelOne.level k ≠ 1) := by
  rcases reachable_entryWithLevelOne.keepsLanguages_iff with ⟨hshift, _, hnormalize⟩
  exact ⟨reachable_entryWithLevelOne, by decide, by decide, by decide, hshift 1 1 (by decide), hnormalize⟩

/-- Neither a shift nor making levels equal keeps the languages of every page. -/
theorem not_forall_keepsLanguages :
    ¬ forall (p : Page), p.Reachable ->
      (forall i shift, (p.shiftLevels i shift).fault? = none -> p.KeepsLanguages (p.shiftLevels i shift).page) ∧
        p.KeepsLanguages p.normalizeLevels := by
  intro h
  have hkept := (h entryWithLevelOne reachable_entryWithLevelOne).1 1 1 (by decide) 2 (by decide) (by decide)
  exact absurd hkept.2.1 (by decide)

end Page
end WikiEntry
