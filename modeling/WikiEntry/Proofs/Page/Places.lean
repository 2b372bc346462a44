import Mathlib.Data.Nat.Find
import WikiEntry.Proofs.Page.EqualLevels

/-!
# Places in the document order

A page is seen here as the sequence of the levels that stand at the places of its document order.  What lies below a
section is what follows its place as long as it is deeper, so that a shift changes one stretch of this sequence and
nothing else.  Where no level is more than one greater than the one before it, every section stands one level below its
parent.  A section that closes an entry may be raised and leave deeper ones behind, which then lie below it.
-/

namespace WikiEntry
namespace Page

/-!
# Sequences of levels
-/

/-- The place `n` follows `a`, and all places behind `a` up to it are deeper. -/
def Below (lv : Nat -> Nat) (a n : Nat) : Prop :=
  a < n ∧ forall k, a < k -> k ≤ n -> lv a < lv k

/-- What lies below the place `a` ends in front of the place `stop`. -/
structure Reaches (lv : Nat -> Nat) (a stop : Nat) : Prop where
  lt : a < stop
  deeper : forall k, a < k -> k < stop -> lv a < lv k
  ends : lv stop ≤ lv a

/-- The stretch from `a` to `stop` is shifted, and nothing else is changed. -/
structure Shifted (lv lv' : Nat -> Nat) (a stop : Nat) (shift : Int) : Prop where
  inside : forall n, a ≤ n -> n < stop -> (lv' n : Int) = lv n + shift
  outside : forall n, n < a ∨ stop ≤ n -> lv' n = lv n

/-- The level behind a place is at most one greater. -/
def StepsAt (lv : Nat -> Nat) (n : Nat) : Prop :=
  lv (n + 1) ≤ lv n + 1

/-- A greater step leads only to what lies below a closing place. -/
def StepsOrCloses (closing : Nat -> Prop) (lv : Nat -> Nat) (n : Nat) : Prop :=
  StepsAt lv n ∨ exists b, closing b ∧ Below lv b (n + 1)

section Sequences

variable {lv lv' : Nat -> Nat} {closing : Nat -> Prop} {a b c d m n stop : Nat} {shift : Int}

theorem Below.le (h : Below lv b n) (hm : b ≤ m) (hn : m ≤ n) : lv b ≤ lv m := by
  rcases Nat.lt_or_eq_of_le hm with hbm | rfl
  · exact Nat.le_of_lt (h.2 m hbm hn)
  · exact Nat.le_refl _

theorem Reaches.le (h : Reaches lv a stop) (hm : a ≤ m) (hstop : m < stop) : lv a ≤ lv m := by
  rcases Nat.lt_or_eq_of_le hm with ham | rfl
  · exact Nat.le_of_lt (h.deeper m ham hstop)
  · exact Nat.le_refl _

theorem Reaches.below_iff (h : Reaches lv a stop) : Below lv a n <-> a < n ∧ n < stop := by
  constructor
  · rintro ⟨hlt, hdeeper⟩
    refine ⟨hlt, Nat.lt_of_not_le fun hle => ?_⟩
    exact Nat.not_lt.mpr h.ends (hdeeper stop h.lt hle)
  · rintro ⟨hlt, hstop⟩
    exact ⟨hlt, fun k hak hkn => h.deeper k hak (Nat.lt_of_le_of_lt hkn hstop)⟩

theorem exists_reaches {size : Nat} (ha : a < size) (hsize : lv size ≤ lv a) : exists stop, Reaches lv a stop := by
  have hsome : exists n, a < n ∧ lv n ≤ lv a := ⟨size, ha, hsize⟩
  refine ⟨Nat.find hsome, (Nat.find_spec hsome).1, ?_, (Nat.find_spec hsome).2⟩
  intro k hak hk
  exact Nat.lt_of_not_le fun hle => Nat.find_min hsome hk ⟨hak, hle⟩

/-- What lies below a place that itself lies below another one ends no later. -/
theorem Reaches.stop_le (h : Reaches lv a stop) (hc : a < c ∧ c < stop) (hd : Reaches lv c d) : d ≤ stop := by
  refine Nat.le_of_not_lt fun hlt => ?_
  have hdeeper := hd.deeper stop hc.2 hlt
  exact Nat.not_lt.mpr h.ends (Nat.lt_trans (h.deeper c hc.1 hc.2) hdeeper)

namespace Shifted

/-- The first place of the stretch is still no deeper than the others. -/
theorem head_le (h : Shifted lv lv' a stop shift) (hreach : Reaches lv a stop) (hm : a ≤ m) (hstop : m < stop) :
    lv' a ≤ lv' m := by
  have hhead := h.inside a (Nat.le_refl a) hreach.lt
  have hin := h.inside m hm hstop
  have := hreach.le hm hstop
  omega

/-- A stretch that is raised makes no step greater but the one behind it. -/
theorem stepsAt_of_raised (h : Shifted lv lv' a stop shift) (hreach : Reaches lv a stop) (hraised : shift ≤ 0)
    (hn : StepsAt lv n) (hstop : n + 1 = stop -> lv stop ≤ lv' a + 1) : StepsAt lv' n := by
  unfold StepsAt at hn ⊢
  have hhead := h.inside a (Nat.le_refl a) hreach.lt
  by_cases hbefore : n < a
  · rw [h.outside n (Or.inl hbefore)]
    by_cases hat : n + 1 = a
    · rw [hat] at hn ⊢
      omega
    · rwa [h.outside (n + 1) (by omega)]
  · by_cases hbehind : stop ≤ n
    · rwa [h.outside n (Or.inr hbehind), h.outside (n + 1) (by omega)]
    · have hin := h.inside n (by omega) (by omega)
      by_cases hlast : n + 1 = stop
      · have hle := h.head_le hreach (m := n) (by omega) (by omega)
        rw [h.outside (n + 1) (by omega), hlast]
        have := hstop hlast
        omega
      · have hnext := h.inside (n + 1) (by omega) (by omega)
        omega

/-- A stretch can be shifted one level up, and one level down if the place before it is not less deep. -/
theorem stepsAt (h : Shifted lv lv' a stop shift) (hreach : Reaches lv a stop)
    (hshift : shift = -1 ∨ shift = 1 ∧ lv a ≤ lv (a - 1)) (hn : StepsAt lv n) : StepsAt lv' n := by
  have hhead := h.inside a (Nat.le_refl a) hreach.lt
  have hends := hreach.ends
  rcases hshift with rfl | ⟨rfl, hprevious⟩
  · exact h.stepsAt_of_raised hreach (by omega) hn fun _ => by omega
  · unfold StepsAt at hn ⊢
    by_cases hbefore : n < a
    · rw [h.outside n (Or.inl hbefore)]
      by_cases hat : n + 1 = a
      · subst hat
        rw [Nat.add_sub_cancel] at hprevious
        omega
      · rwa [h.outside (n + 1) (by omega)]
    · by_cases hbehind : stop ≤ n + 1
      · rw [h.outside (n + 1) (Or.inr hbehind)]
        by_cases hlast : n < stop
        · have := h.inside n (by omega) hlast
          omega
        · rwa [h.outside n (by omega)]
      · have hin := h.inside n (by omega) (by omega)
        have hnext := h.inside (n + 1) (by omega) (by omega)
        omega

theorem below_of_le (h : Shifted lv lv' a stop shift) (hb : stop ≤ b) (hbelow : Below lv b n) : Below lv' b n := by
  refine ⟨hbelow.1, fun k hbk hk => ?_⟩
  rw [h.outside b (Or.inr hb), h.outside k (Or.inr (by omega))]
  exact hbelow.2 k hbk hk

/-- What lies below a place in front of the stretch still does so if the stretch starts behind it or lies deeper. -/
theorem below_of_lt (h : Shifted lv lv' a stop shift) (hreach : Reaches lv a stop) (hb : b < a)
    (hdeep : n < a ∨ lv b < lv' a) (hbelow : Below lv b n) : Below lv' b n := by
  refine ⟨hbelow.1, fun k hbk hk => ?_⟩
  rw [h.outside b (Or.inl hb)]
  by_cases hin : a ≤ k ∧ k < stop
  · have := h.head_le hreach hin.1 hin.2
    omega
  · rw [h.outside k (by omega)]
    exact hbelow.2 k hbk hk

/-- Raising a closing place leaves greater steps only below it, and below those where they were. -/
theorem stepsOrCloses (h : Shifted lv lv' a stop shift) (hreach : Reaches lv a stop) (hclosing : closing a)
    (hraised : shift ≤ 0) (hn : StepsOrCloses closing lv n) : StepsOrCloses closing lv' n := by
  by_cases hown : Below lv' a (n + 1)
  · exact Or.inr ⟨a, hclosing, hown⟩
  have hhead := h.inside a (Nat.le_refl a) hreach.lt
  -- What does not lie below the raised place stands before it, or behind one that is not deeper.
  have hplace : n + 1 ≤ a ∨ exists m, stop ≤ m ∧ m ≤ n + 1 ∧ lv m ≤ lv' a := by
    rcases Nat.lt_or_ge a (n + 1) with hlt | hle
    · right
      refine Classical.byContradiction fun hnone => hown ⟨hlt, fun k hak hk => ?_⟩
      by_cases hstop : k < stop
      · have hin := h.inside k (Nat.le_of_lt hak) hstop
        have := hreach.deeper k hak hstop
        omega
      · rw [h.outside k (by omega)]
        exact Nat.lt_of_not_le fun hle => hnone ⟨k, by omega, hk, hle⟩
    · exact Or.inl hle
  rcases hn with hstep | ⟨b, hb, hbelow⟩
  · refine Or.inl (h.stepsAt_of_raised hreach hraised hstep fun hlast => ?_)
    rcases hplace with hle | ⟨m, hstop, hm, hle⟩
    · have := hreach.lt
      omega
    · have hmstop : m = stop := by omega
      rw [hmstop] at hle
      omega
  · by_cases hbehind : stop ≤ b
    · exact Or.inr ⟨b, hb, h.below_of_le hbehind hbelow⟩
    have hba : b < a := by
      refine Nat.lt_of_not_le fun hab => ?_
      have hle := hreach.le hab (by omega)
      have hdeeper := hbelow.2 stop (by omega) (by have := hbelow.1; omega)
      have := hreach.ends
      omega
    rcases hplace with hle | ⟨m, hstop, hm, hle⟩
    · by_cases hdeep : n + 1 < a ∨ lv b < lv' a
      · exact Or.inr ⟨b, hb, h.below_of_lt hreach hba hdeep hbelow⟩
      · -- The raised place comes as high as the one that it lay below, so that it makes no step.
        left
        have hat : n + 1 = a := by omega
        have hbn : lv b ≤ lv n := hbelow.le (by omega) (Nat.le_succ n)
        unfold StepsAt
        rw [h.outside n (by omega), hat]
        omega
    · have hbm := hbelow.2 m (by omega) hm
      exact Or.inr ⟨b, hb, h.below_of_lt hreach hba (Or.inr (by omega)) hbelow⟩

end Shifted

end Sequences

/-!
# The places of a page
-/

/-- The level at a place of the document order, and 0 behind the last one. -/
def levelAt (p : Page) (n : Nat) : Nat :=
  (p.order[n]?.map p.level).getD 0

section Places

variable {p q r : Page} {closing : Nat -> Prop} {a i j m n x : Nat} {shift : Int}

theorem levelAt_eq (hi : p.order[n]? = some i) : p.levelAt n = p.level i := by
  rw [levelAt, hi]
  rfl

theorem levelAt_eq_zero (hn : p.order.length ≤ n) : p.levelAt n = 0 := by
  rw [levelAt, List.getElem?_eq_none hn]
  rfl

theorem exists_of_levelAt_pos (hn : 0 < p.levelAt n) : exists i, p.order[n]? = some i := by
  cases hi : p.order[n]? with
  | some i => exact ⟨i, rfl⟩
  | none =>
      rw [levelAt_eq_zero (List.getElem?_eq_none_iff.mp hi)] at hn
      cases hn

theorem exists_place (hi : i ∈ p.order) : exists n : Nat, p.order[n]? = some i :=
  List.mem_iff_getElem?.mp hi

theorem order_eq_append_of_place (hi : p.order[n]? = some i) :
    p.order = p.order.take n ++ i :: p.order.drop (n + 1) := by
  rcases List.getElem?_eq_some_iff.mp hi with ⟨hn, heq⟩
  rw [← heq, List.getElem_cons_drop, List.take_append_drop]

theorem WellFormed.position?_eq_of_place (h : p.WellFormed) (hi : p.order[n]? = some i) : p.position? i = some n := by
  rw [h.position?_eq_some (order_eq_append_of_place hi), List.length_take,
    Nat.min_eq_left (Nat.le_of_lt (List.getElem?_eq_some_iff.mp hi).1)]

/-- Places are given by what stands at them. -/
theorem WellFormed.place_inj (h : p.WellFormed) (hm : p.order[m]? = some i) (hn : p.order[n]? = some i) : m = n := by
  exact Option.some.inj ((h.position?_eq_of_place hm).symm.trans (h.position?_eq_of_place hn))

theorem mem_takeWhile_iff {α : Type} {f : α -> Bool} {xs : List α} {y : α} (hnodup : xs.Nodup) (hy : xs[n]? = some y) :
    y ∈ xs.takeWhile f <-> forall k z, k ≤ n -> xs[k]? = some z -> f z = true := by
  induction xs generalizing n with
  | nil => cases hy
  | cons x xs ih =>
      rcases List.nodup_cons.mp hnodup with ⟨hx, hnodup⟩
      by_cases hf : f x = true
      · rw [List.takeWhile_cons_of_pos hf, List.mem_cons]
        cases n with
        | zero =>
            cases hy
            refine iff_of_true (Or.inl rfl) fun k z hk hz => ?_
            cases Nat.le_zero.mp hk
            cases hz
            exact hf
        | succ n =>
            have hne : y ≠ x := by
              rintro rfl
              exact hx (List.mem_of_getElem? hy)
            rw [or_iff_right hne, ih hnodup hy]
            constructor
            · intro hall k z hk hz
              cases k with
              | zero =>
                  cases hz
                  exact hf
              | succ k => exact hall k z (Nat.le_of_succ_le_succ hk) hz
            · exact fun hall k z hk hz => hall (k + 1) z (Nat.succ_le_succ hk) hz
      · rw [List.takeWhile_cons_of_neg hf]
        exact iff_of_false List.not_mem_nil fun hall => hf (hall 0 x (Nat.zero_le _) rfl)

/-- What lies below a section is told by the places. -/
theorem WellFormed.mem_descendants_iff_below (h : p.WellFormed) (hx : p.order[a]? = some x) (hi : p.order[n]? = some i) :
    i ∈ p.descendants x <-> Below p.levelAt a n := by
  rw [h.descendants_eq_takeWhile (order_eq_append_of_place hx)]
  rcases Nat.lt_or_ge a n with han | hna
  · have hrest : forall k, (p.order.drop (a + 1))[k]? = p.order[a + 1 + k]? := fun k => List.getElem?_drop
    have hplace : (p.order.drop (a + 1))[n - (a + 1)]? = some i := by
      rw [hrest, Nat.add_sub_cancel' han, hi]
    rw [mem_takeWhile_iff (h.nodup.sublist (List.drop_sublist _ _)) hplace, Below, and_iff_right han, levelAt_eq hx]
    constructor
    · intro hall k hak hk
      have hlt : k < p.order.length := Nat.lt_of_le_of_lt hk (List.getElem?_eq_some_iff.mp hi).1
      have hsome := List.getElem?_eq_getElem hlt
      rw [levelAt_eq hsome]
      apply of_decide_eq_true
      apply hall (k - (a + 1)) p.order[k] (by omega)
      rw [hrest, Nat.add_sub_cancel' hak, hsome]
    · intro hall k z hk hz
      rw [hrest] at hz
      have := hall (a + 1 + k) (by omega) (by omega)
      rw [levelAt_eq hz] at this
      exact decide_eq_true this
  · refine iff_of_false (fun hmem => ?_) fun hbelow => Nat.not_lt.mpr hna hbelow.1
    rcases List.mem_iff_getElem?.mp ((List.takeWhile_sublist _).mem hmem) with ⟨k, hk⟩
    rw [List.getElem?_drop] at hk
    have := h.place_inj hk hi
    omega

theorem exists_reaches_levelAt (hx : p.order[a]? = some x) : exists stop, Reaches p.levelAt a stop := by
  apply exists_reaches (List.getElem?_eq_some_iff.mp hx).1
  rw [levelAt_eq_zero (Nat.le_refl _)]
  exact Nat.zero_le _

theorem WellFormed.nodup_children (h : p.WellFormed) (x : Nat) : (p.children x).Nodup := by
  rw [h.children_eq_filter]
  exact h.nodup.filter _

theorem WellFormed.mem_descendants_of_child (h : p.WellFormed) (hj : j ∈ p.children x) (hi : i ∈ p.subtree j) :
    i ∈ p.descendants x := by
  have hbelow : p.descendants x = (p.children x).flatMap p.subtree := (List.cons.inj (h.subtree_eq x)).2
  rw [hbelow]
  exact List.mem_flatMap.mpr ⟨j, hj, hi⟩

/-!
# Steps and parents
-/

/-- A section stands one level below its parent, unless it lies below a closing place. -/
theorem WellFormed.level_of_stepsOrCloses (h : p.WellFormed) (hp : p.parent? i = some j) (hj : p.order[m]? = some j)
    (hm : StepsOrCloses closing p.levelAt m) :
    p.level i = p.level j + 1 ∨ exists b n, closing b ∧ p.order[n]? = some i ∧ Below p.levelAt b n := by
  rcases h.parent?_eq_some_iff.mp hp with ⟨front, between, back, horder, hlt, hle⟩
  have hplace : m = front.length := h.place_inj hj (by rw [horder]; simp)
  have hi : p.order[m + 1 + between.length]? = some i := by
    rw [horder, hplace, List.getElem?_append_right (by omega)]
    simp [show front.length + 1 + between.length - front.length = between.length + 1 by omega]
  have hbetween : forall k, m < k -> k ≤ m + 1 + between.length -> p.level i ≤ p.levelAt k := by
    intro k hmk hk
    rcases Nat.lt_or_eq_of_le hk with hk | rfl
    · have hmem : p.order[k]? = between[k - (m + 1)]? := by
        rw [horder, hplace, List.getElem?_append_right (by omega),
          show k - front.length = k - (front.length + 1) + 1 by omega, List.getElem?_cons_succ,
          List.getElem?_append_left (by omega)]
      have hsome := List.getElem?_eq_getElem (show k - (m + 1) < between.length by omega)
      rw [levelAt_eq (hmem.trans hsome)]
      exact hle _ (List.getElem_mem _)
    · exact Nat.le_of_eq (levelAt_eq hi).symm
  rw [← levelAt_eq hj] at hlt ⊢
  rcases hm with hstep | ⟨b, hb, hbelow⟩
  · left
    have := hbetween (m + 1) (Nat.lt_succ_self m) (by omega)
    unfold StepsAt at hstep
    omega
  · refine Or.inr ⟨b, m + 1 + between.length, hb, hi, by have := hbelow.1; omega, fun k hbk hk => ?_⟩
    rcases Nat.lt_or_ge m k with hmk | hkm
    · have := hbelow.le (m := m) (Nat.le_of_lt_succ hbelow.1) (Nat.le_succ m)
      have := hbetween k hmk hk
      omega
    · exact hbelow.2 k hbk (Nat.le_succ_of_le hkm)

theorem WellFormed.level_of_stepsAt (h : p.WellFormed) (hp : p.parent? i = some j) (hj : p.order[m]? = some j)
    (hm : StepsAt p.levelAt m) : p.level i = p.level j + 1 := by
  have hsteps : StepsOrCloses (fun _ => False) p.levelAt m := Or.inl hm
  rcases h.level_of_stepsOrCloses hp hj hsteps with heq | ⟨_, _, hfalse, _⟩
  · exact heq
  · cases hfalse

/-- Where levels are equal, no step is greater than one. -/
theorem WellFormed.stepsAt_of_equalLevels (h : p.WellFormed) (hequal : p.EqualLevels) (n : Nat) : StepsAt p.levelAt n := by
  unfold StepsAt
  by_cases hle : p.levelAt (n + 1) ≤ p.levelAt n
  · omega
  rcases exists_of_levelAt_pos (p := p) (n := n + 1) (by omega) with ⟨i, hi⟩
  have hlt : n + 1 < p.order.length := (List.getElem?_eq_some_iff.mp hi).1
  have hj := List.getElem?_eq_getElem (Nat.lt_of_succ_lt hlt)
  rw [levelAt_eq hi, levelAt_eq hj] at hle ⊢
  have hparent : p.parent? i = some p.order[n] := by
    rw [h.parent?_eq_some_iff]
    refine ⟨p.order.take n, [], p.order.drop (n + 2), ?_, by omega, nofun⟩
    rw [List.nil_append, ← (List.getElem?_eq_some_iff.mp hi).2, List.getElem_cons_drop, List.getElem_cons_drop,
      List.take_append_drop]
  exact Nat.le_of_eq (hequal.level_of_parent? i _ hparent)

/-!
# Shifts
-/

/-- A page with the same sections in the same order, of which only the levels may be others. -/
structure SameButLevels (p q : Page) : Prop where
  wellFormed : q.WellFormed
  order_eq : q.order = p.order
  strippedHeader_eq : forall i, q.strippedHeader i = p.strippedHeader i

theorem SameButLevels.refl (h : p.WellFormed) : SameButLevels p p :=
  ⟨h, rfl, fun _ => rfl⟩

theorem SameButLevels.trans (h : SameButLevels p q) (h' : SameButLevels q r) : SameButLevels p r :=
  ⟨h'.wellFormed, h'.order_eq.trans h.order_eq, fun i => (h'.strippedHeader_eq i).trans (h.strippedHeader_eq i)⟩

/-- What a section shows besides its level and its language stays when levels are put. -/
theorem of_get_putLevels {α : Type} {f : Section -> α}
    (hf : forall (s : Section) (level : Nat) (language? : Option LanguageHeader),
      f ⟨{ s.line with level := level }, s.body, language?⟩ = f s)
    (p : Page) (levels : List (Nat × Nat)) (i : Nat) : f ((p.putLevels levels).get i) = f (p.get i) := by
  unfold putLevels
  induction levels generalizing p with
  | nil => rfl
  | cons x levels ih =>
      rw [List.foldl_cons, ih]
      by_cases hl : 1 ≤ x.2 ∧ x.2 ≤ 6
      · rw [page_putLevel hl, get_modify]
        split
        · exact hf _ _ _
        · rfl
      · rw [putLevel, if_neg hl]

theorem strippedHeader_putLevels (p : Page) (levels : List (Nat × Nat)) (i : Nat) :
    (p.putLevels levels).strippedHeader i = p.strippedHeader i :=
  of_get_putLevels (f := Section.strippedHeader) (fun _ _ _ => rfl) p levels i

theorem level_putLevels_map_of_mem {p : Page} {ids : List Nat} {f : Nat -> Nat} (hnodup : ids.Nodup)
    (hids : forall i, i ∈ ids -> i < p.sections.length ∧ 1 ≤ f i ∧ f i ≤ 6) (hi : i ∈ ids) :
    (p.putLevels (ids.map fun j => (j, f j))).level i = f i := by
  induction ids generalizing p with
  | nil => cases hi
  | cons j ids ih =>
      rcases List.nodup_cons.mp hnodup with ⟨hj, hnodup⟩
      rcases hids j List.mem_cons_self with ⟨hmade, hrange⟩
      show ((p.putLevel j (f j)).page.putLevels (ids.map fun j => (j, f j))).level i = f i
      rcases List.mem_cons.mp hi with rfl | hi
      · rw [level_putLevels_of_not_mem, level_putLevel_self hrange hmade]
        intro x hx hxi
        rcases List.mem_map.mp hx with ⟨k, hk, rfl⟩
        exact hj (hxi ▸ hk)
      · refine ih hnodup (fun k hk => ?_) hi
        rw [length_putLevel]
        exact hids k (List.mem_cons_of_mem j hk)

/-- A section and what lies below it stand at the places of one stretch. -/
theorem WellFormed.mem_subtree_iff (h : p.WellFormed) (hi : p.order[a]? = some i) (hreach : Reaches p.levelAt a stop)
    (hj : p.order[n]? = some j) : j ∈ p.subtree i <-> a ≤ n ∧ n < stop := by
  rw [subtree, List.mem_cons, h.mem_descendants_iff_below hi hj, hreach.below_iff]
  constructor
  · rintro (rfl | hbelow)
    · cases h.place_inj hi hj
      exact ⟨Nat.le_refl a, hreach.lt⟩
    · exact ⟨Nat.le_of_lt hbelow.1, hbelow.2⟩
  · rintro ⟨han, hn⟩
    rcases Nat.lt_or_eq_of_le han with han | rfl
    · exact Or.inr ⟨han, hn⟩
    · exact Or.inl (Option.some.inj (hj.symm.trans hi))

/-- A shift that is done gives the section and what lies below it the level that is asked for, and nothing else. -/
theorem WellFormed.level_shiftLevels (h : p.WellFormed) (hi : i ∈ p.order)
    (hq : (p.shiftLevels i shift).toExcept = .ok q) :
    SameButLevels p q ∧ (forall j, j ∈ p.subtree i -> (q.level j : Int) = p.level j + shift) ∧
      forall j, j ∉ p.subtree i -> q.level j = p.level j := by
  have hwell := h.shiftLevels i shift
  rcases shiftLevels_cases p i shift with ⟨rfl, heq⟩ | ⟨f, heq, _⟩ | ⟨_, _, hrange, heq⟩
  · rw [heq] at hq
    cases hq
    exact ⟨.refl h, fun _ _ => (Int.add_zero _).symm, fun _ _ => rfl⟩
  · rw [heq] at hq
    cases hq
  · rw [heq] at hq hwell
    cases hq
    refine ⟨⟨hwell, order_putLevels p _, strippedHeader_putLevels p _⟩, fun j hj => ?_, fun j hj => ?_⟩
    · have hmade : forall k, k ∈ p.subtree i -> k < p.sections.length ∧
          1 ≤ ((p.level k : Int) + shift).toNat ∧ ((p.level k : Int) + shift).toNat ≤ 6 := by
        intro k hk
        have := hrange k hk
        exact ⟨h.made k (h.subtree_subset hi hk), by omega, by omega⟩
      have hput := level_putLevels_map_of_mem (f := fun k => ((p.level k : Int) + shift).toNat) (h.nodup_subtree i) hmade hj
      have := hrange j hj
      show ((p.putLevels _).level j : Int) = _
      rw [hput]
      omega
    · apply level_putLevels_of_not_mem
      intro x hx hxj
      rcases List.mem_map.mp hx with ⟨k, hk, rfl⟩
      exact hj (hxj ▸ hk)

/-- In the sequence of levels a shift that is done is the shift of one stretch. -/
theorem WellFormed.shifted (h : p.WellFormed) (hi : p.order[a]? = some i) (hreach : Reaches p.levelAt a stop)
    (hq : (p.shiftLevels i shift).toExcept = .ok q) :
    SameButLevels p q ∧ Shifted p.levelAt q.levelAt a stop shift := by
  rcases h.level_shiftLevels (List.mem_of_getElem? hi) hq with ⟨hsame, hin, hout⟩
  have hplace : forall {n j}, p.order[n]? = some j -> q.levelAt n = q.level j := by
    intro n j hj
    rw [← hsame.order_eq] at hj
    exact levelAt_eq hj
  refine ⟨hsame, fun n han hn => ?_, fun n hn => ?_⟩
  · have hpositive : 0 < p.levelAt n := by
      apply Nat.lt_of_lt_of_le _ (hreach.le han hn)
      rw [levelAt_eq hi]
      exact h.one_le_level i
    rcases exists_of_levelAt_pos hpositive with ⟨j, hj⟩
    rw [hplace hj, levelAt_eq hj]
    exact hin j ((h.mem_subtree_iff hi hreach hj).mpr ⟨han, hn⟩)
  · cases hj : p.order[n]? with
    | none =>
        have hle := List.getElem?_eq_none_iff.mp hj
        rw [levelAt_eq_zero hle, levelAt_eq_zero (hsame.order_eq.symm ▸ hle)]
    | some j =>
        rw [hplace hj, levelAt_eq hj]
        apply hout
        rw [h.mem_subtree_iff hi hreach hj]
        omega

end Places

end Page
end WikiEntry
