import WikiEntry.Proofs.Page.LevelRounds

/-!
# Equal levels

Each round of making levels equal puts the sections of one more depth on their level: the sections on top on the
topmost level that one of them has, and the children of the sections at a depth one below these.  No round meets a level
out of range.  The rounds end when no section is left at their depth, and then every section stands one level below its
parent.  A page on which that is so is left as it is.
-/

namespace WikiEntry
namespace Page

/-!
# Rounds that may fail
-/

/-- Puts siblings on their level; a level out of range is a fault. -/
def tryLevelSiblings (p : Page) (group : Option Nat × List Nat) : Except EntryError Page :=
  match p.siblingLevel? group.1 group.2 with
  | some level => group.2.foldlM (fun p i => (p.putLevel i (min level 6)).toExcept) p
  | none => .ok p

/-- The rounds from a depth on, until there are no siblings at a depth; none of them fails. -/
inductive LevelRounds : Nat -> Page -> Page -> Prop where
  | done {depth : Nat} {p : Page} : p.siblingGroups depth = [] -> LevelRounds depth p p
  | round {depth : Nat} {p q r : Page} : p.siblingGroups depth ≠ [] ->
      (p.siblingGroups depth).foldlM tryLevelSiblings p = .ok q -> LevelRounds (depth + 1) q.link r ->
      LevelRounds depth p r

theorem foldlM_putLevel {level : Nat} (hl : 1 ≤ level ∧ level ≤ 6) (ids : List Nat) (p : Page) :
    ids.foldlM (fun p i => (p.putLevel i level).toExcept) p = .ok (p.putLevels (ids.map (·, level))) := by
  induction ids generalizing p with
  | nil => rfl
  | cons i ids ih =>
      have hok : (p.putLevel i level).toExcept = .ok (p.putLevel i level).page := by
        rw [putLevel, if_pos hl]
        rfl
      rw [List.foldlM_cons, hok]
      exact ih _

namespace Orderly

variable {p : Page}

theorem one_le_level (h : p.Orderly) (i : Nat) : 1 ≤ p.level i :=
  (get_sound h.sound i).one_le_level

theorem level_le_six (h : p.Orderly) (i : Nat) : p.level i ≤ 6 :=
  (get_sound h.sound i).level_le_six

theorem tryLevelSiblings_eq (h : p.Orderly) (group : Option Nat × List Nat) :
    p.tryLevelSiblings group = .ok (p.levelSiblings group) := by
  rcases group with ⟨parent?, siblings⟩
  unfold tryLevelSiblings Page.levelSiblings
  cases hlevel : p.siblingLevel? parent? siblings with
  | none => rfl
  | some level =>
      have hpositive : 1 ≤ level := by
        cases parent? with
        | some parent =>
            rw [siblingLevel?_some hlevel]
            exact Nat.le_add_left 1 _
        | none =>
            rcases List.mem_map.mp (List.min?_mem (siblingLevel?_none_iff.mp hlevel).1) with ⟨i, _, rfl⟩
            exact h.one_le_level i
      exact foldlM_putLevel ⟨Nat.le_min.mpr ⟨hpositive, by decide⟩, Nat.min_le_right level 6⟩ siblings p

theorem foldlM_tryLevelSiblings (h : p.Orderly) (groups : List (Option Nat × List Nat)) :
    groups.foldlM tryLevelSiblings p = .ok (groups.foldl Page.levelSiblings p) := by
  induction groups generalizing p with
  | nil => rfl
  | cons group groups ih =>
      rw [List.foldlM_cons, h.tryLevelSiblings_eq]
      exact ih (h.levelSiblings group)

end Orderly

/-!
# Parents at a depth
-/

/-- The sections at a depth that have others below them. -/
def parentsAt (p : Page) (depth : Nat) : List Nat :=
  p.order.filter fun x => p.depth x == depth && !(p.children x).isEmpty

theorem siblingGroups_zero (p : Page) : p.siblingGroups 0 = [(none, p.topLevel)] :=
  rfl

theorem siblingGroups_of_pos (p : Page) {depth : Nat} (h : 0 < depth) :
    p.siblingGroups depth = (p.parentsAt depth).map fun x => (some x, p.children x) :=
  if_neg (Nat.ne_of_gt h)

theorem WellFormed.mem_parentsAt_iff {p : Page} (h : p.WellFormed) {x depth : Nat} :
    x ∈ p.parentsAt depth <-> p.depth x = depth ∧ exists i, p.parent? i = some x := by
  rw [parentsAt, List.mem_filter, Bool.and_eq_true, beq_iff_eq]
  constructor
  · rintro ⟨_, hdepth, hsome⟩
    refine ⟨hdepth, ?_⟩
    cases hchildren : p.children x with
    | nil =>
        rw [hchildren] at hsome
        cases hsome
    | cons i is => exact ⟨i, h.mem_children_iff.mp (hchildren ▸ List.mem_cons_self)⟩
  · rintro ⟨hdepth, i, hp⟩
    refine ⟨(h.parent_spec hp).2.1, hdepth, ?_⟩
    cases hchildren : p.children x with
    | nil =>
        have hchild := h.mem_children_iff.mpr hp
        rw [hchildren] at hchild
        cases hchild
    | cons i is => rfl

/-!
# The levels of siblings
-/

theorem le_level_of_min? {p : Page} {ids : List Nat} {least : Nat} (h : (ids.map p.level).min? = some least) :
    forall i, i ∈ ids -> least ≤ p.level i := by
  intro i hi
  apply (List.min?_eq_some_iff.mp h).2
  exact List.mem_map_of_mem hi

theorem length_putLevel (p : Page) (i level : Nat) : (p.putLevel i level).page.sections.length = p.sections.length := by
  unfold putLevel
  split
  · exact List.length_modify _ _ _
  · rfl

theorem level_putLevel_self {p : Page} {i level : Nat} (hl : 1 ≤ level ∧ level ≤ 6) (hi : i < p.sections.length) :
    (p.putLevel i level).page.level i = level := by
  rw [page_putLevel hl, Page.level, get_modify, if_pos ⟨rfl, hi⟩]
  rfl

theorem level_putLevels_map {p : Page} {ids : List Nat} {level : Nat} (hl : 1 ≤ level ∧ level ≤ 6)
    (hids : forall i, i ∈ ids -> i < p.sections.length) (i : Nat) :
    (p.putLevels (ids.map (·, level))).level i = if i ∈ ids then level else p.level i := by
  induction ids generalizing p with
  | nil => rfl
  | cons j ids ih =>
      have hrest : forall i, i ∈ ids -> i < (p.putLevel j level).page.sections.length := by
        intro i hi
        rw [length_putLevel]
        exact hids i (List.mem_cons_of_mem j hi)
      show ((p.putLevel j level).page.putLevels (ids.map (·, level))).level i = _
      rw [ih hrest]
      by_cases hi : i ∈ ids
      · rw [if_pos hi, if_pos (List.mem_cons_of_mem j hi)]
      · rw [if_neg hi]
        by_cases hij : i = j
        · rw [hij, if_pos List.mem_cons_self]
          exact level_putLevel_self hl (hids j List.mem_cons_self)
        · rw [if_neg (by simp [hij, hi])]
          exact level_putLevel_of_ne level fun hji => hij hji.symm

/-- Siblings below a parent may stay as they are exactly if they stand one level below it. -/
theorem siblingLevel?_eq_none_iff {p : Page} {parent : Nat} {siblings : List Nat}
    (hdeeper : forall i, i ∈ siblings -> p.level parent < p.level i) :
    p.siblingLevel? (some parent) siblings = none <-> forall i, i ∈ siblings -> p.level i = p.level parent + 1 := by
  unfold siblingLevel?
  dsimp only
  cases hmin : (siblings.map p.level).min? with
  | none =>
      rw [List.min?_eq_none_iff, List.map_eq_nil_iff] at hmin
      simp [hmin]
  | some least =>
      cases hmax : (siblings.map p.level).max? with
      | none =>
          rw [List.max?_eq_none_iff] at hmax
          rw [hmax] at hmin
          cases hmin
      | some most =>
          rcases List.min?_eq_some_iff.mp hmin with ⟨hleast, hle⟩
          rcases List.max?_eq_some_iff.mp hmax with ⟨hmost, hge⟩
          rcases List.mem_map.mp hleast with ⟨i, hi, rfl⟩
          rcases List.mem_map.mp hmost with ⟨j, hj, rfl⟩
          dsimp only
          constructor
          · intro hnone k hk
            have hk' := List.mem_map_of_mem (f := p.level) hk
            have := hle _ hk'
            have := hge _ hk'
            have := hdeeper k hk
            split at hnone
            · cases hnone
            · omega
          · intro hall
            rw [hall i hi, hall j hj, if_neg]
            simp

theorem level_levelSiblings {p : Page} (h : p.Orderly) {parent : Nat} {siblings : List Nat}
    (hsiblings : forall i, i ∈ siblings -> i ∈ p.order ∧ p.level parent < p.level i) (i : Nat) :
    (p.levelSiblings (some parent, siblings)).level i =
      if i ∈ siblings then p.level parent + 1 else p.level i := by
  have hdeeper : forall i, i ∈ siblings -> p.level parent < p.level i := fun i hi => (hsiblings i hi).2
  unfold levelSiblings
  cases hlevel : p.siblingLevel? (some parent) siblings with
  | none =>
      by_cases hi : i ∈ siblings
      · rw [if_pos hi]
        exact (siblingLevel?_eq_none_iff hdeeper).mp hlevel i hi
      · rw [if_neg hi]
  | some level =>
      by_cases hsome : siblings = []
      · rw [hsome]
        rfl
      · rcases List.exists_mem_of_ne_nil siblings hsome with ⟨j, hj⟩
        have hrange : p.level parent + 1 ≤ 6 := Nat.le_trans (hdeeper j hj) (h.level_le_six j)
        cases siblingLevel?_some hlevel
        dsimp only
        rw [Nat.min_eq_left hrange]
        exact level_putLevels_map ⟨Nat.le_add_left 1 _, hrange⟩ (fun i hi => h.made i (hsiblings i hi).1) i

theorem level_levelSiblings_topLevel {p : Page} (h : p.WellFormed) {least : Nat}
    (hleast : (p.topLevel.map p.level).min? = some least) (i : Nat) :
    (p.levelSiblings (none, p.topLevel)).level i = if i ∈ p.topLevel then least else p.level i := by
  rcases List.mem_map.mp (List.min?_mem hleast) with ⟨t, _, rfl⟩
  unfold levelSiblings
  cases hlevel : p.siblingLevel? none p.topLevel with
  | none =>
      by_cases hi : i ∈ p.topLevel
      · rw [if_pos hi]
        apply Nat.le_antisymm _ (le_level_of_min? hleast i hi)
        apply Nat.le_of_not_lt
        intro hlt
        rw [siblingLevel?_none_iff.mpr ⟨hleast, i, hi, hlt⟩] at hlevel
        cases hlevel
      · rw [if_neg hi]
  | some level =>
      have hsame : level = p.level t := by
        have hmin := (siblingLevel?_none_iff.mp hlevel).1
        rw [hleast] at hmin
        exact (Option.some.inj hmin).symm
      dsimp only
      rw [hsame, Nat.min_eq_left (h.toOrderly.level_le_six t)]
      apply level_putLevels_map ⟨h.one_le_level t, h.toOrderly.level_le_six t⟩
      exact fun j hj => h.made j (h.mem_topLevel_iff.mp hj).1

/-- The children of the sections at one depth go one below these, and nothing else changes.  What the groups are is told
from the page `q` on which the round begins. -/
theorem level_foldl_levelSiblings {p q : Page} (h : p.Orderly) (hq : q.WellFormed) {parents : List Nat}
    (hapart : forall x, x ∈ parents -> forall y, q.parent? x = some y -> y ∉ parents)
    (hchildren : forall x, x ∈ parents -> forall i, i ∈ q.children x -> i ∈ p.order ∧ p.level x < p.level i) (i : Nat) :
    (forall x, q.parent? i = some x -> x ∈ parents ->
      ((parents.map fun x => (some x, q.children x)).foldl levelSiblings p).level i = p.level x + 1) ∧
      ((forall x, q.parent? i = some x -> x ∉ parents) ->
        ((parents.map fun x => (some x, q.children x)).foldl levelSiblings p).level i = p.level i) := by
  induction parents generalizing p with
  | nil => exact ⟨fun x _ hx => absurd hx List.not_mem_nil, fun _ => rfl⟩
  | cons x parents ih =>
      have hround := level_levelSiblings h (hchildren x List.mem_cons_self)
      -- No parent is a child of another one, so that the later groups are still in order after the first.
      have hparent : forall y, y ∈ x :: parents -> (p.levelSiblings (some x, q.children x)).level y = p.level y := by
        intro y hy
        rw [hround, if_neg]
        intro hchild
        exact hapart y hy x (hq.mem_children_iff.mp hchild) List.mem_cons_self
      have hchildren' : forall y, y ∈ parents -> forall i, i ∈ q.children y ->
          i ∈ (p.levelSiblings (some x, q.children x)).order ∧
            (p.levelSiblings (some x, q.children x)).level y < (p.levelSiblings (some x, q.children x)).level i := by
        intro y hy i hi
        rcases hchildren y (List.mem_cons_of_mem x hy) i hi with ⟨hmade, hlt⟩
        constructor
        · rwa [order_levelSiblings]
        · rw [hparent y (List.mem_cons_of_mem x hy), hround]
          by_cases hix : i ∈ q.children x
          · have hsame : y = x := by
              have hp := hq.mem_children_iff.mp hi
              rw [hq.mem_children_iff.mp hix] at hp
              exact (Option.some.inj hp).symm
            rw [if_pos hix, hsame]
            exact Nat.lt_succ_self _
          · rwa [if_neg hix]
      have hrest := ih (h.levelSiblings _)
        (fun y hy z hz hmem => hapart y (List.mem_cons_of_mem x hy) z hz (List.mem_cons_of_mem x hmem)) hchildren'
      rw [List.map_cons, List.foldl_cons]
      constructor
      · intro y hy hmem
        by_cases hlater : y ∈ parents
        · rw [hrest.1 y hy hlater, hparent y hmem]
        · have hyx : y = x := (List.mem_cons.mp hmem).resolve_right hlater
          have hnone : forall z, q.parent? i = some z -> z ∉ parents := by
            intro z hz
            rw [hy] at hz
            cases hz
            exact hlater
          rw [hrest.2 hnone, hround, if_pos (hq.mem_children_iff.mpr (hyx ▸ hy)), hyx]
      · intro hnone
        have hnot : i ∉ q.children x := by
          intro hchild
          exact hnone x (hq.mem_children_iff.mp hchild) List.mem_cons_self
        rw [hrest.2 fun z hz hmem => hnone z hz (List.mem_cons_of_mem x hmem), hround, if_neg hnot]

/-!
# The page after some rounds
-/

/-- A page with the sections of `p` in the same order, on the levels that they have after some rounds. -/
structure LeveledTo (p : Page) (least rounds : Nat) (q : Page) : Prop where
  wellFormed : q.WellFormed
  order_eq : q.order = p.order
  level_eq : forall i, q.level i = p.levelAfter least rounds i

namespace LeveledTo

variable {p q : Page} {least rounds i : Nat}

theorem parent?_eq (hq : p.LeveledTo least rounds q) (h : p.WellFormed)
    (hleast : forall t, t ∈ p.topLevel -> least ≤ p.level t) (i : Nat) : q.parent? i = p.parent? i :=
  h.parent?_eq_of_levelAfter hq.wellFormed hq.order_eq hleast (fun i _ => hq.level_eq i) i

theorem zero (h : p.WellFormed) (least : Nat) : p.LeveledTo least 0 p :=
  ⟨h, rfl, fun i => (h.levelAfter_zero least i).symm⟩

/-- The round on top. -/
theorem level_round_zero (hq : p.LeveledTo least 0 q) (h : p.WellFormed)
    (hleast : (p.topLevel.map p.level).min? = some least) (i : Nat) :
    ((q.siblingGroups 0).foldl levelSiblings q).level i = p.levelAfter least 1 i := by
  have hlevel : q.level = p.level := funext fun i => (hq.level_eq i).trans (h.levelAfter_zero least i)
  have htop : q.topLevel = p.topLevel :=
    h.topLevel_eq_of_parent?_eq hq.wellFormed hq.order_eq (hq.parent?_eq h (le_level_of_min? hleast))
  have hmin : (q.topLevel.map q.level).min? = some least := by rw [htop, hlevel, hleast]
  show (q.levelSiblings (none, q.topLevel)).level i = _
  rw [level_levelSiblings_topLevel hq.wellFormed hmin, htop, hq.level_eq, levelAfter_succ, Nat.add_zero]
  exact if_congr (by rw [topLevel, List.mem_filter, beq_iff_eq]) rfl rfl

/-- A round below the sections at one depth. -/
theorem level_round_succ (hq : p.LeveledTo least (rounds + 1) q) (h : p.WellFormed)
    (hleast : forall t, t ∈ p.topLevel -> least ≤ p.level t) (i : Nat) :
    ((q.siblingGroups (rounds + 1)).foldl levelSiblings q).level i = p.levelAfter least (rounds + 2) i := by
  have hparent := hq.parent?_eq h hleast
  have hdepth : forall x, x ∈ p.order -> q.depth x = p.depth x :=
    fun x hx => h.depth_eq_of_parent?_eq hq.wellFormed hq.order_eq hparent hx
  have hmem : forall x, x ∈ q.parentsAt (rounds + 1) -> q.depth x = rounds + 1 :=
    fun x hx => (hq.wellFormed.mem_parentsAt_iff.mp hx).1
  have hapart : forall x, x ∈ q.parentsAt (rounds + 1) -> forall y, q.parent? x = some y ->
      y ∉ q.parentsAt (rounds + 1) := by
    intro x hx y hy hmem'
    have hlower := hq.wellFormed.depth_of_parent? hy
    rw [hmem x hx, hmem y hmem'] at hlower
    exact absurd hlower (Nat.ne_of_lt (Nat.lt_succ_self _))
  have hchildren : forall x, x ∈ q.parentsAt (rounds + 1) -> forall i, i ∈ q.children x ->
      i ∈ q.order ∧ q.level x < q.level i := by
    intro x _ i hi
    rcases hq.wellFormed.parent_spec (hq.wellFormed.mem_children_iff.mp hi) with ⟨horder, _, hlt⟩
    exact ⟨horder, hlt⟩
  rcases level_foldl_levelSiblings hq.wellFormed.toOrderly hq.wellFormed hapart hchildren i with ⟨hbelow, hrest⟩
  rw [siblingGroups_of_pos q (Nat.succ_pos rounds), levelAfter_succ]
  cases hp : p.parent? i with
  | none =>
      have hnot : ¬ (i ∈ p.order ∧ p.depth i = rounds + 1 + 1) := by
        rintro ⟨hi, hd⟩
        rw [h.depth_of_parent?_eq_none hi hp] at hd
        cases hd
      rw [if_neg hnot, hrest, hq.level_eq]
      intro x hx
      rw [hparent, hp] at hx
      cases hx
  | some x =>
      rcases h.parent_spec hp with ⟨hi, hx, _⟩
      have hlower := h.depth_of_parent? hp
      by_cases hdx : p.depth x = rounds + 1
      · have hp' : q.parent? i = some x := (hparent i).trans hp
        have hxmem : x ∈ q.parentsAt (rounds + 1) :=
          hq.wellFormed.mem_parentsAt_iff.mpr ⟨(hdepth x hx).trans hdx, i, hp'⟩
        rw [hbelow x hp' hxmem, hq.level_eq, levelAfter_succ, if_pos ⟨hx, hdx⟩,
          if_pos ⟨hi, by rw [hlower, hdx]⟩]
        rfl
      · have hnot : ¬ (i ∈ p.order ∧ p.depth i = rounds + 1 + 1) := by
          rintro ⟨_, hd⟩
          exact hdx (Nat.succ.inj (hlower.symm.trans hd))
        rw [if_neg hnot, hrest, hq.level_eq]
        intro y hy hmem'
        rw [hparent, hp] at hy
        cases hy
        exact hdx ((hdepth x hx).symm.trans (hmem x hmem'))

/-- One round. -/
theorem round (hq : p.LeveledTo least rounds q) (h : p.WellFormed)
    (hleast : (p.topLevel.map p.level).min? = some least) :
    p.LeveledTo least (rounds + 1) ((q.siblingGroups rounds).foldl levelSiblings q).link := by
  constructor
  · exact (hq.wellFormed.toOrderly.foldl_levelSiblings _).link
  · exact (order_foldl_levelSiblings q _).trans hq.order_eq
  · intro i
    cases rounds with
    | zero => exact hq.level_round_zero h hleast i
    | succ rounds => exact hq.level_round_succ h (le_level_of_min? hleast) i

end LeveledTo

/-!
# The end of the rounds
-/

/-- Behind as many rounds as there are sections nothing is left. -/
theorem WellFormed.siblingGroups_eq_nil {p : Page} (h : p.WellFormed) {depth : Nat} (hpositive : 0 < depth)
    (hdepth : p.order.length ≤ depth) : p.siblingGroups depth = [] := by
  rw [siblingGroups_of_pos p hpositive, List.map_eq_nil_iff, List.eq_nil_iff_forall_not_mem]
  intro x hx
  rcases h.mem_parentsAt_iff.mp hx with ⟨hdx, i, hp⟩
  have hle := h.depth_le_length (h.parent_spec hp).1
  rw [h.depth_of_parent? hp, hdx] at hle
  exact Nat.lt_irrefl _ (Nat.lt_of_lt_of_le hle hdepth)

/-- Where nothing is left at a depth, nothing lies deeper. -/
theorem WellFormed.depth_le_of_siblingGroups_eq_nil {p : Page} (h : p.WellFormed) {depth i : Nat}
    (hnil : p.siblingGroups depth = []) (hi : i ∈ p.order) : p.depth i ≤ depth := by
  have hpositive : 0 < depth := by
    apply Nat.pos_of_ne_zero
    rintro rfl
    cases hnil
  rw [siblingGroups_of_pos p hpositive, List.map_eq_nil_iff] at hnil
  rcases h.exists_ancestors hi with ⟨as, has, -⟩
  induction has with
  | top hp =>
      rw [h.depth_of_parent?_eq_none hi hp]
      exact hpositive
  | @under i j _ hp _ ih =>
      have hne : p.depth j ≠ depth := by
        intro hd
        have hparent := h.mem_parentsAt_iff.mpr ⟨hd, i, hp⟩
        rw [hnil] at hparent
        cases hparent
      rw [h.depth_of_parent? hp]
      exact Nat.lt_of_le_of_ne (ih (h.parent_spec hp).2.1) hne

/-- The rounds end without a fault, and with all sections on their level. -/
theorem WellFormed.levelRounds {p : Page} (h : p.WellFormed) {least : Nat}
    (hleast : (p.topLevel.map p.level).min? = some least) {rounds depth : Nat} {q : Page}
    (hq : p.LeveledTo least depth q) (hrounds : p.order.length < rounds + depth) :
    LevelRounds depth q (Page.levelFrom rounds depth q) ∧
      exists last, p.LeveledTo least last (Page.levelFrom rounds depth q) ∧ forall i, i ∈ p.order -> p.depth i ≤ last := by
  have hend : forall {depth : Nat} {q : Page}, p.LeveledTo least depth q -> q.siblingGroups depth = [] ->
      forall i, i ∈ p.order -> p.depth i ≤ depth := by
    intro depth q hq hnil i hi
    rw [← h.depth_eq_of_parent?_eq hq.wellFormed hq.order_eq (hq.parent?_eq h (le_level_of_min? hleast)) hi]
    exact hq.wellFormed.depth_le_of_siblingGroups_eq_nil hnil (hq.order_eq ▸ hi)
  induction rounds generalizing depth q with
  | zero =>
      -- As many rounds as there are sections were made, and no section lies so deep.
      rw [Nat.zero_add] at hrounds
      have hnil : q.siblingGroups depth = [] := by
        apply hq.wellFormed.siblingGroups_eq_nil (Nat.lt_of_le_of_lt (Nat.zero_le _) hrounds)
        rw [hq.order_eq]
        exact Nat.le_of_lt hrounds
      exact ⟨.done hnil, depth, hq, hend hq hnil⟩
  | succ rounds ih =>
      rw [Page.levelFrom]
      split
      · rename_i hnil
        exact ⟨.done hnil, depth, hq, hend hq hnil⟩
      · rename_i hsome
        rcases ih (hq.round h hleast) (by omega) with ⟨hrest, hlast⟩
        refine ⟨.round (fun hnil => hsome hnil) ?_ hrest, hlast⟩
        exact hq.wellFormed.toOrderly.foldlM_tryLevelSiblings _

/-!
# Pages with equal levels
-/

/-- Every section stands one level below its parent, and all sections on top stand on one level. -/
structure EqualLevels (p : Page) : Prop where
  level_of_parent? : forall i j, p.parent? i = some j -> p.level i = p.level j + 1
  level_topLevel : forall i j, i ∈ p.topLevel -> j ∈ p.topLevel -> p.level i = p.level j

/-- With as many rounds as the sections need, their levels are equal. -/
theorem LeveledTo.equalLevels {p q : Page} {least last : Nat} (hq : p.LeveledTo least last q) (h : p.WellFormed)
    (hleast : forall t, t ∈ p.topLevel -> least ≤ p.level t) (hlast : forall i, i ∈ p.order -> p.depth i ≤ last) :
    q.EqualLevels := by
  have hparent := hq.parent?_eq h hleast
  have hlevel : forall i, i ∈ p.order -> q.level i + 1 = least + p.depth i := by
    intro i hi
    have hpositive := h.one_le_depth hi
    rw [hq.level_eq, levelAfter, if_pos ⟨hi, hlast i hi⟩]
    omega
  constructor
  · intro i j hp
    rw [hparent] at hp
    rcases h.parent_spec hp with ⟨hi, hj, _⟩
    have hdepth := h.depth_of_parent? hp
    have hchild := hlevel i hi
    have habove := hlevel j hj
    omega
  · intro i j hi hj
    rw [h.topLevel_eq_of_parent?_eq hq.wellFormed hq.order_eq hparent, h.mem_topLevel_iff] at hi hj
    have htop : forall k, k ∈ p.order ∧ p.parent? k = none -> q.level k + 1 = least + 1 := by
      rintro k ⟨hk, hnone⟩
      rw [hlevel k hk, h.depth_of_parent?_eq_none hk hnone]
    exact Nat.succ.inj ((htop i hi).trans (htop j hj).symm)

theorem levelSiblings_eq_self {p : Page} (h : p.WellFormed) (hequal : p.EqualLevels) {depth : Nat}
    {group : Option Nat × List Nat} (hgroup : group ∈ p.siblingGroups depth) : p.levelSiblings group = p := by
  have hnone : p.siblingLevel? group.1 group.2 = none := by
    by_cases hzero : depth = 0
    · rw [hzero, siblingGroups_zero, List.mem_singleton] at hgroup
      rw [hgroup]
      cases hlevel : p.siblingLevel? none p.topLevel with
      | none => rfl
      | some least =>
          rcases siblingLevel?_none_iff.mp hlevel with ⟨hmin, i, hi, hlt⟩
          rcases List.mem_map.mp (List.min?_mem hmin) with ⟨t, ht, rfl⟩
          exact absurd (hequal.level_topLevel t i ht hi) (Nat.ne_of_lt hlt)
    · rw [siblingGroups_of_pos p (Nat.pos_of_ne_zero hzero)] at hgroup
      rcases List.mem_map.mp hgroup with ⟨x, _, rfl⟩
      rw [siblingLevel?_eq_none_iff]
      · intro i hi
        exact hequal.level_of_parent? i x (h.mem_children_iff.mp hi)
      · intro i hi
        exact (h.parent_spec (h.mem_children_iff.mp hi)).2.2
  unfold levelSiblings
  rw [hnone]

theorem WellFormed.levelFrom_eq_self {p : Page} (h : p.WellFormed) (hequal : p.EqualLevels) (rounds depth : Nat) :
    Page.levelFrom rounds depth p = p := by
  have hround : forall depth, (p.siblingGroups depth).foldl Page.levelSiblings p = p := by
    intro depth
    apply List.foldlRecOn (motive := fun q => q = p) _ _ rfl
    rintro q rfl group hgroup
    exact levelSiblings_eq_self h hequal hgroup
  induction rounds generalizing depth with
  | zero => rfl
  | succ rounds ih =>
      rw [Page.levelFrom]
      split
      · rfl
      · rw [hround, h.link_eq]
        exact ih (depth + 1)

theorem WellFormed.normalizeLevels_eq_self {p : Page} (h : p.WellFormed) (hequal : p.EqualLevels) :
    p.normalizeLevels = p := by
  unfold Page.normalizeLevels
  split
  · rfl
  · exact h.levelFrom_eq_self hequal _ _

/-!
# Making levels equal
-/

/-- A page without sections is left alone; on any other one the rounds are made until none is left. -/
def NormalizesTo (p q : Page) : Prop :=
  (p.order = [] ∧ q = p) ∨ (p.order ≠ [] ∧ LevelRounds 0 p q)

theorem LevelRounds.unique {depth : Nat} {p q r : Page} (hq : LevelRounds depth p q) (hr : LevelRounds depth p r) :
    q = r := by
  induction hq with
  | done hnil =>
      cases hr with
      | done _ => rfl
      | round hsome _ _ => exact absurd hnil hsome
  | round hsome hfold _ ih =>
      cases hr with
      | done hnil => exact absurd hnil hsome
      | round _ hfold' hrest =>
          cases hfold.symm.trans hfold'
          exact ih hrest

theorem NormalizesTo.unique {p q r : Page} (hq : p.NormalizesTo q) (hr : p.NormalizesTo r) : q = r := by
  rcases hq with ⟨hempty, rfl⟩ | ⟨hsome, hq⟩
  · rcases hr with ⟨_, rfl⟩ | ⟨hsome, _⟩
    · rfl
    · exact absurd hempty hsome
  · rcases hr with ⟨hempty, _⟩ | ⟨_, hr⟩
    · exact absurd hempty hsome
    · exact hq.unique hr

theorem WellFormed.exists_min?_topLevel {p : Page} (h : p.WellFormed) (hsome : p.order ≠ []) :
    exists least, (p.topLevel.map p.level).min? = some least := by
  cases hmin : (p.topLevel.map p.level).min? with
  | some least => exact ⟨least, rfl⟩
  | none =>
      rw [List.min?_eq_none_iff, List.map_eq_nil_iff] at hmin
      apply absurd _ hsome
      rw [← h.flatMap_subtree_topLevel, hmin]
      rfl

theorem WellFormed.leveledTo_normalizeLevels {p : Page} (h : p.WellFormed) :
    p.NormalizesTo p.normalizeLevels ∧ exists least last, (forall t, t ∈ p.topLevel -> least ≤ p.level t) ∧
      p.LeveledTo least last p.normalizeLevels ∧ forall i, i ∈ p.order -> p.depth i ≤ last := by
  unfold Page.normalizeLevels
  by_cases hempty : p.order = []
  · rw [if_pos (List.isEmpty_iff.mpr hempty)]
    refine ⟨Or.inl ⟨hempty, rfl⟩, 0, 0, fun _ _ => Nat.zero_le _, LeveledTo.zero h 0, ?_⟩
    intro i hi
    rw [hempty] at hi
    cases hi
  · rw [if_neg (by simpa using hempty)]
    rcases h.exists_min?_topLevel hempty with ⟨least, hleast⟩
    rcases h.levelRounds hleast (LeveledTo.zero h least) (Nat.lt_succ_self p.order.length) with
      ⟨hrounds, last, hleveled, hlast⟩
    exact ⟨Or.inr ⟨hempty, hrounds⟩, least, last, le_level_of_min? hleast, hleveled, hlast⟩

/-- Making the levels of a reachable page equal ends without a fault, with one page as its outcome.  No level gets
greater, and the order and the tree are as before; every section stands one level below its parent and those on top on
one level, so that doing it again changes nothing. -/
theorem Reachable.equalLevels_normalizeLevels {p : Page} (h : p.Reachable) :
    (forall q, p.NormalizesTo q <-> q = p.normalizeLevels) ∧
      (forall i, p.normalizeLevels.level i ≤ p.level i) ∧
      p.normalizeLevels.order = p.order ∧
      (forall i, p.normalizeLevels.parent? i = p.parent? i ∧ p.normalizeLevels.children i = p.children i) ∧
      p.normalizeLevels.EqualLevels ∧
      p.normalizeLevels.normalizeLevels = p.normalizeLevels := by
  have hw := h.wellFormed
  rcases hw.leveledTo_normalizeLevels with ⟨hnormalizes, least, last, hleast, hleveled, hlast⟩
  have hparent := hleveled.parent?_eq hw hleast
  have hequal := hleveled.equalLevels hw hleast hlast
  refine ⟨?_, ?_, hleveled.order_eq, ?_, hequal, hleveled.wellFormed.normalizeLevels_eq_self hequal⟩
  · intro q
    constructor
    · exact fun hq => hq.unique hnormalizes
    · rintro rfl
      exact hnormalizes
  · intro i
    rw [hleveled.level_eq]
    exact hw.levelAfter_le hleast last i
  · intro i
    exact ⟨hparent i, hw.children_eq_of_parent?_eq hleveled.wellFormed hleveled.order_eq hparent i⟩

/-- Two sections on top on different levels, and below the first of them one on level 5 and behind it one on level 4. -/
def entryWithUnequalLevels : Page where
  title := "casa"
  sections := [⟨⟨3, "Uso", .tight, [], []⟩, {}, none⟩, ⟨⟨5, "Notas", .tight, [], []⟩, {}, none⟩,
    ⟨⟨4, "Sinónimos", .tight, [], []⟩, {}, none⟩, ⟨⟨2, "Referencias", .tight, [], []⟩, {}, none⟩]
  order := [0, 1, 2, 3]
  outline := .ofList [(0, 3), (1, 5), (2, 4), (3, 2)]

theorem reachable_entryWithUnequalLevels : entryWithUnequalLevels.Reachable := by
  have hfirst := (Reachable.new "casa").create (s := entryWithUnequalLevels.get 0) (by decide)
  have hsecond := hfirst.create (s := entryWithUnequalLevels.get 1) (by decide)
  have hthird := hsecond.create (s := entryWithUnequalLevels.get 2) (by decide)
  have hfourth := hthird.create (s := entryWithUnequalLevels.get 3) (by decide)
  exact .change (.appendSections [0, 1, 2, 3]) hfourth ⟨by decide, nofun⟩ rfl

theorem equalLevels_normalizeLevels_entryWithUnequalLevels :
    entryWithUnequalLevels.Reachable ∧
      entryWithUnequalLevels.order.map entryWithUnequalLevels.normalizeLevels.level = [2, 3, 3, 2] ∧
      (forall q, entryWithUnequalLevels.NormalizesTo q <-> q = entryWithUnequalLevels.normalizeLevels) ∧
      (forall i, entryWithUnequalLevels.normalizeLevels.level i ≤ entryWithUnequalLevels.level i) ∧
      entryWithUnequalLevels.normalizeLevels.order = entryWithUnequalLevels.order ∧
      (forall i, entryWithUnequalLevels.normalizeLevels.parent? i = entryWithUnequalLevels.parent? i ∧
        entryWithUnequalLevels.normalizeLevels.children i = entryWithUnequalLevels.children i) ∧
      entryWithUnequalLevels.normalizeLevels.EqualLevels ∧
      entryWithUnequalLevels.normalizeLevels.normalizeLevels = entryWithUnequalLevels.normalizeLevels :=
  ⟨reachable_entryWithUnequalLevels, by decide, reachable_entryWithUnequalLevels.equalLevels_normalizeLevels⟩

end Page
end WikiEntry
