import WikiEntry.Pattern.Search

/-!
# What a pattern reads

`Reads p s w t` says that the pattern `p` can read the text `w` from the state `s` and come to the state `t`.  The
relation leaves the order of preference aside: its rules follow the constructors of patterns.

# The search is sound

All ends that the search finds are read in this sense, whichever walk finds them.  What holds of every match is
therefore proved by induction over the relation, and not over the search.
-/

namespace WikiEntry

namespace Cursor

/-- The cursor behind the characters of `w`, which come next. -/
def skip : Cursor -> Text -> Cursor
  | k, [] => k
  | k, c :: w => (k.next c k.rest.tail).skip w

@[simp] theorem place_skip (k : Cursor) (w : Text) : (k.skip w).place = k.place + w.length := by
  induction w generalizing k with
  | nil => rfl
  | cons c w ih =>
      rw [skip, ih, List.length_cons]
      show k.place + 1 + w.length = k.place + (w.length + 1)
      omega

theorem rest_skip {k : Cursor} {w r : Text} (h : k.rest = w ++ r) : (k.skip w).rest = r := by
  induction w generalizing k with
  | nil => exact h
  | cons c w ih =>
      refine ih ?_
      show k.rest.tail = w ++ r
      rw [h, List.cons_append, List.tail_cons]

end Cursor

namespace ReadState

/-- The state behind the characters of `w`, which come next. -/
def skip (s : ReadState) (w : Text) : ReadState :=
  { s with cursor := s.cursor.skip w }

end ReadState

namespace Pattern

inductive Reads : Pattern -> ReadState -> Text -> ReadState -> Prop where
  | empty (s : ReadState) : Reads .empty s [] s
  | one {set : CharSet} {s : ReadState} {c : Char} {r : Text} (hrest : s.cursor.rest = c :: r)
      (hc : set.holds c = true) : Reads (.one set) s [c] (s.skip [c])
  | anchor {a : Anchor} {s : ReadState} (ha : a.holds s.cursor = true) : Reads (.anchor a) s [] s
  | seq {p q : Pattern} {s t x : ReadState} {u v : Text} (hp : Reads p s u t) (hq : Reads q t v x) :
      Reads (.seq p q) s (u ++ v) x
  | altLeft {p q : Pattern} {s t : ReadState} {w : Text} (hp : Reads p s w t) : Reads (.alt p q) s w t
  | altRight {p q : Pattern} {s t : ReadState} {w : Text} (hq : Reads q s w t) : Reads (.alt p q) s w t
  | group {i : Nat} {p : Pattern} {s t : ReadState} {w : Text} (hp : Reads p s w t) :
      Reads (.group i p) s w (t.close i s.place)
  | optNone {greedy : Bool} {p : Pattern} (s : ReadState) : Reads (.opt greedy p) s [] s
  | optSome {greedy : Bool} {p : Pattern} {s t : ReadState} {w : Text} (hp : Reads p s w t) :
      Reads (.opt greedy p) s w t
  | run {greedy : Bool} {least : Nat} {most : Option Nat} {set : CharSet} {s : ReadState} {w r : Text}
      (hrest : s.cursor.rest = w ++ r) (hset : forall c, c ∈ w -> set.holds c = true)
      (hleast : least ≤ w.length) (hmost : forall n, most = some n -> w.length ≤ n) :
      Reads (.run greedy least most set) s w (s.skip w)
  | loopNone {greedy : Bool} {p : Pattern} (s : ReadState) : Reads (.loop greedy false p) s [] s
  | loopMore {greedy atLeastOnce : Bool} {p : Pattern} {s t x : ReadState} {u v : Text} (hp : Reads p s u t)
      (hl : Reads (.loop greedy false p) t v x) : Reads (.loop greedy atLeastOnce p) s (u ++ v) x
  | timesNone {greedy : Bool} {least most : Nat} {p : Pattern} {s : ReadState} (hnone : least = 0 ∨ most = 0) :
      Reads (.times greedy least most p) s [] s
  | timesMore {greedy : Bool} {least most : Nat} {p : Pattern} {s t x : ReadState} {u v : Text}
      (hp : Reads p s u t) (ht : Reads (.times greedy (least - 1) most p) t v x) :
      Reads (.times greedy least (most + 1) p) s (u ++ v) x
  | distinct {p : Pattern} {s t : ReadState} {w : Text} (hp : Reads p s w t) : Reads (.distinct p) s w t

/-- The pattern can read something from one state to the other. -/
def Leads (p : Pattern) (s t : ReadState) : Prop :=
  exists w, Reads p s w t

/-!
# Folds that collect
-/

theorem mem_of_mem_foldl {α β γ : Type} (found : β -> List α) {f : β -> γ -> β} {holds : γ -> Prop} {v : α}
    {ys : List γ} (hf : forall b y, y ∈ ys -> v ∈ found (f b y) -> v ∈ found b ∨ holds y) {b : β}
    (hv : v ∈ found (ys.foldl f b)) : v ∈ found b ∨ exists y, y ∈ ys ∧ holds y := by
  induction ys generalizing b with
  | nil => exact Or.inl hv
  | cons y ys ih =>
      rw [List.foldl_cons] at hv
      rcases ih (fun b z hz => hf b z (List.mem_cons_of_mem y hz)) hv with hfound | ⟨z, hz, hholds⟩
      · rcases hf b y List.mem_cons_self hfound with hb | hy
        · exact Or.inl hb
        · exact Or.inr ⟨y, List.mem_cons_self, hy⟩
      · exact Or.inr ⟨z, List.mem_cons_of_mem y hz, hholds⟩

theorem mem_of_mem_foldl_add {α : Type} {place : α -> Nat} {start : Nat} {xs : List α} {r : Reached α} {x : α}
    (hx : x ∈ (xs.foldl (Reached.add place start) r).found) : x ∈ r.found ∨ x ∈ xs := by
  have hadd : forall (r : Reached α) (y : α), y ∈ xs -> x ∈ (r.add place start y).found ->
      x ∈ r.found ∨ x = y := by
    intro r y _ hy
    by_cases hbit : r.bits.testBit (place y - start) = true
    · rw [Reached.add, if_pos hbit] at hy
      exact Or.inl hy
    · rw [Reached.add, if_neg hbit] at hy
      exact (List.mem_cons.mp hy).symm
  rcases mem_of_mem_foldl Reached.found hadd hx with hr | ⟨y, hy, rfl⟩
  · exact Or.inl hr
  · exact Or.inr hy

theorem mem_of_mem_firstAtEachPlace {α : Type} {place : α -> Nat} {start : Nat} {xs : List α} {x : α}
    (hx : x ∈ firstAtEachPlace place start xs) : x ∈ xs := by
  rcases mem_of_mem_foldl_add (List.mem_reverse.mp hx) with h | h
  · cases h
  · exact h

/-!
# Runs of characters
-/

/-- The cursors behind the first characters of the rest, the furthest first. -/
def cursorsBehind (k : Cursor) (rest : Text) (n : Nat) : List Cursor :=
  (List.range (n + 1)).reverse.map fun i => k.skip (rest.take i)

theorem length_cursorsBehind (k : Cursor) (rest : Text) (n : Nat) : (cursorsBehind k rest n).length = n + 1 := by
  rw [cursorsBehind, List.length_map, List.length_reverse, List.length_range]

theorem cursorsBehind_succ {k : Cursor} {c : Char} {r : Text} (hk : k.rest = c :: r) (n : Nat) :
    cursorsBehind k (c :: r) (n + 1) = cursorsBehind (k.next c r) r n ++ [k] := by
  unfold cursorsBehind
  rw [List.range_succ_eq_map (n := n + 1), List.reverse_cons, List.map_append, ← List.map_reverse, List.map_map]
  congr 1
  refine List.map_congr_left fun i _ => ?_
  show (k.next c k.rest.tail).skip (r.take i) = (k.next c r).skip (r.take i)
  rw [hk, List.tail_cons]

theorem runCursors_eq (set : CharSet) {rest : Text} (most : Option Nat) {k : Cursor} (found : List Cursor)
    (hk : k.rest = rest) :
    exists n, n ≤ rest.length ∧ (forall c, c ∈ rest.take n -> set.holds c = true) ∧
      (forall m, most = some m -> n ≤ m) ∧
      runCursors set rest most k found = cursorsBehind k rest n ++ found := by
  induction rest generalizing most k found with
  | nil => exact ⟨0, Nat.le_refl 0, by simp, fun m _ => Nat.zero_le m, rfl⟩
  | cons c r ih =>
      rw [runCursors]
      split
      · rename_i hmore
        rcases ih (most.map (· - 1)) (k := k.next c r) (k :: found) rfl with
          ⟨n, hn, hset, hmost, heq⟩
        refine ⟨n + 1, Nat.succ_le_succ hn, ?_, ?_, ?_⟩
        · intro d hd
          rcases List.mem_cons.mp hd with rfl | hd
          · exact hmore.2
          · exact hset d hd
        · intro m hm
          have hpos : m ≠ 0 := by
            intro h0
            exact hmore.1 (by rw [hm, h0])
          have hle := hmost (m - 1) (by rw [hm, Option.map_some])
          omega
        · rw [heq, cursorsBehind_succ hk, List.append_assoc, List.singleton_append]
      · exact ⟨0, Nat.zero_le _, by simp, fun m _ => Nat.zero_le m, rfl⟩

theorem reads_of_mem_runEnds {greedy : Bool} {least : Nat} {most : Option Nat} {set : CharSet}
    {s t : ReadState} (ht : t ∈ runEnds greedy least most set s) :
    Leads (.run greedy least most set) s t := by
  rcases runCursors_eq set most (k := s.cursor) [] rfl with
    ⟨n, hn, hset, hmost, heq⟩
  have hmem : exists k, k ∈ (cursorsBehind s.cursor s.cursor.rest n).take (n + 1 - least) ∧
      t = { s with cursor := k } := by
    simp only [runEnds, heq, List.append_nil, length_cursorsBehind] at ht
    rcases List.mem_map.mp ht with ⟨k, hk, rfl⟩
    refine ⟨k, ?_, rfl⟩
    split at hk
    · exact hk
    · exact List.mem_reverse.mp hk
  rcases hmem with ⟨k, hk, rfl⟩
  rcases List.mem_iff_getElem.mp hk with ⟨i, hi, hget⟩
  rw [List.length_take, length_cursorsBehind] at hi
  have hword : k = s.cursor.skip (s.cursor.rest.take (n - i)) := by
    rw [← hget, List.getElem_take]
    simp only [cursorsBehind, List.getElem_map, List.getElem_reverse, List.getElem_range, List.length_range]
    rw [Nat.add_sub_cancel]
  have hlength : (s.cursor.rest.take (n - i)).length = n - i := by
    rw [List.length_take]
    omega
  rw [hword]
  refine ⟨s.cursor.rest.take (n - i), Reads.run (List.take_append_drop _ _).symm ?_ ?_ ?_⟩
  · intro c hc
    exact hset c (List.mem_of_mem_take (i := n - i) (by rwa [List.take_take, Nat.min_eq_left (Nat.sub_le n i)]))
  · omega
  · intro m hm
    have := hmost m hm
    omega

/-!
# Repetitions

Each of the three walks keeps what it has found, and adds only what the rounds lead to.  What "lead to" means is
left open: any relation that holds on the spot and is closed under a round in front.
-/

section Walks

variable {greedy : Bool} {step : ReadState -> List ReadState} {leads : ReadState -> ReadState -> Prop}

theorem mem_of_mem_leave {s v : ReadState} {left : List ReadState} (hv : v ∈ leave s left) : v ∈ left ∨ v = s := by
  unfold leave at hv
  split at hv
  · exact Or.inl hv
  · exact (List.mem_cons.mp hv).symm

theorem mem_of_mem_walk (hrefl : forall s, leads s s)
    (hround : forall s t v, t ∈ step s -> leads t v -> leads s v) {depth : Nat} {s v : ReadState}
    {left : List ReadState} (hv : v ∈ walk step greedy depth s left) : v ∈ left ∨ leads s v := by
  have hleave : forall (s : ReadState) (left : List ReadState), v ∈ leave s left -> v ∈ left ∨ leads s v := by
    intro s left h
    rcases mem_of_mem_leave h with h | rfl
    · exact Or.inl h
    · exact Or.inr (hrefl v)
  induction depth generalizing s left with
  | zero => exact hleave s left hv
  | succ depth ih =>
      have honward : forall (left : List ReadState),
          v ∈ (step s).foldl (fun left t => walk step greedy depth t left) left -> v ∈ left ∨ leads s v := by
        intro left h
        rcases mem_of_mem_foldl id (fun b t _ ht => ih ht) h with h | ⟨t, ht, hlead⟩
        · exact Or.inl h
        · exact Or.inr (hround s t v ht hlead)
      simp only [walk] at hv
      split at hv
      · exact Or.inl hv
      · split at hv
        · rcases hleave s _ hv with h | h
          · exact honward left h
          · exact Or.inr h
        · rcases honward _ hv with h | h
          · exact hleave s left h
          · exact Or.inr h

theorem mem_of_mem_loopEnds (hrefl : forall s, leads s s)
    (hround : forall s t v, t ∈ step s -> leads t v -> leads s v) {atLeastOnce : Bool} {s v : ReadState}
    (hv : v ∈ loopEnds step greedy atLeastOnce s) :
    (atLeastOnce = false ∧ leads s v) ∨ exists t, t ∈ step s ∧ leads t v := by
  unfold loopEnds at hv
  split at hv
  · right
    rcases mem_of_mem_foldl id (fun b t _ ht => mem_of_mem_walk hrefl hround ht) (List.mem_reverse.mp hv) with
      h | h
    · cases h
    · exact h
  · rename_i hone
    left
    rcases mem_of_mem_walk hrefl hround (List.mem_reverse.mp hv) with h | h
    · cases h
    · exact ⟨Bool.eq_false_iff.mpr hone, h⟩

end Walks

section CountedRounds

variable {α : Type} {place : α -> Nat} {start free : Nat} {step : Nat -> α -> List α} {out : α -> List α}
  {greedy : Bool} {leads : Nat -> α -> α -> Prop}

theorem mem_of_mem_countedLeave (hout : forall left x v, left ≤ free -> v ∈ out x -> leads left x v) {left : Nat}
    {x v : α} {c : Counted α} (hv : v ∈ (c.leave place start out free left x).ended.found) :
    v ∈ c.ended.found ∨ leads left x v := by
  unfold Counted.leave at hv
  split at hv
  · rename_i hle
    rcases mem_of_mem_foldl_add hv with h | h
    · exact Or.inl h
    · exact Or.inr (hout left x v hle h)
  · exact Or.inl hv

theorem ended_of_enter? {c d : Counted α} {left bit : Nat} (h : c.enter? left bit = some d) : d.ended = c.ended := by
  simp only [Counted.enter?] at h
  split at h
  · cases h
  · cases h
    rfl

theorem mem_of_mem_countedWalk (hout : forall left x v, left ≤ free -> v ∈ out x -> leads left x v)
    (hround : forall left x y v, y ∈ step left x -> leads left y v -> leads (left + 1) x v) {left : Nat} {x v : α}
    {c : Counted α} (hv : v ∈ (Counted.walk place start step out greedy free left x c).ended.found) :
    v ∈ c.ended.found ∨ leads left x v := by
  induction left generalizing x c with
  | zero =>
      cases henter : c.enter? 0 (place x - start) with
      | none => exact Or.inl (by simpa [Counted.walk, henter] using hv)
      | some d =>
          simp only [Counted.walk, henter] at hv
          rw [← ended_of_enter? henter]
          exact mem_of_mem_countedLeave hout hv
  | succ left ih =>
      cases henter : c.enter? (left + 1) (place x - start) with
      | none => exact Or.inl (by simpa [Counted.walk, henter] using hv)
      | some d =>
          let onward (c : Counted α) : Counted α :=
            (step left x).foldl (fun c y => Counted.walk place start step out greedy free left y c) c
          have honward : forall (c : Counted α), v ∈ (onward c).ended.found ->
              v ∈ c.ended.found ∨ leads (left + 1) x v := by
            intro c h
            rcases mem_of_mem_foldl (fun c : Counted α => c.ended.found) (fun b y _ hy => ih hy) h with
              h | ⟨y, hy, hlead⟩
            · exact Or.inl h
            · exact Or.inr (hround left x y v hy hlead)
          simp only [Counted.walk, henter] at hv
          rw [← ended_of_enter? henter]
          split at hv
          · rcases mem_of_mem_countedLeave hout hv with h | h
            · exact honward d h
            · exact Or.inr h
          · rcases honward _ hv with h | h
            · exact mem_of_mem_countedLeave hout h
            · exact Or.inr h

theorem mem_of_mem_countedEnds {least most : Nat} {place : α -> Nat} (leads : Nat -> α -> α -> Prop)
    (hout : forall left x v, left ≤ most - least -> v ∈ out x -> leads left x v)
    (hround : forall left x y v, y ∈ step left x -> leads left y v -> leads (left + 1) x v) {x v : α}
    (hv : v ∈ countedEnds place step out greedy least most x) : leads most x v := by
  rcases mem_of_mem_countedWalk hout hround (List.mem_reverse.mp hv) with h | h
  · cases h
  · exact h

end CountedRounds

section RoundsThatMayReadNothing

variable {js : LoopJunctions} {greedy : Bool} {step : Way -> List Way} {leads : ReadState -> ReadState -> Prop}

@[simp] theorem state_reaching (w : Way) (s : ReadState) : (w.reaching s).state = s := by
  unfold Way.reaching
  split <;> rfl

theorem state_of_mem_pass {j : Junction} {w v : Way} (hv : v ∈ w.pass j) : v.state = w.state := by
  unfold Way.pass at hv
  split at hv
  · cases hv
  · rw [List.mem_singleton.mp hv]

theorem exists_of_mem_meet {start : Nat} {j : Junction} {ws : List Way} {v : Way} (hv : v ∈ Way.meet start j ws) :
    exists w, w ∈ ws ∧ v.state = w.state := by
  rcases List.mem_flatMap.mp hv with ⟨w, hw, hpass⟩
  exact ⟨w, mem_of_mem_firstAtEachPlace hw, state_of_mem_pass hpass⟩

theorem state_of_mem_through {j : Option Junction} {w v : Way} (hv : v ∈ LoopJunctions.through j w) :
    v.state = w.state := by
  cases j with
  | none => rw [List.mem_singleton.mp hv]
  | some j => exact state_of_mem_pass hv

theorem mem_left_of_leave {w v : Way} {s : LoopState} (hv : v ∈ (js.leave w s).left) :
    v ∈ s.left ∨ v.state = w.state := by
  unfold LoopJunctions.leave at hv
  split at hv
  · exact Or.inl hv
  · rcases List.mem_append.mp hv with h | h
    · exact Or.inr (state_of_mem_through h)
    · exact Or.inl h

theorem mem_left_of_endRound (hrefl : forall s, leads s s)
    (hround : forall (w x : Way) t, x ∈ step w -> leads x.state t -> leads w.state t) {depth : Nat} {w v : Way}
    {s : LoopState} (hv : v ∈ (js.endRound greedy step depth w s).left) : v ∈ s.left ∨ leads w.state v.state := by
  induction depth generalizing w s with
  | zero => exact Or.inl hv
  | succ depth ih =>
      have honward : forall (w : Way) (s : LoopState),
          v ∈ (((LoopJunctions.through js.again w).flatMap step).foldl
            (fun s w => js.endRound greedy step depth w s) s).left -> v ∈ s.left ∨ leads w.state v.state := by
        intro w s h
        rcases mem_of_mem_foldl LoopState.left (fun b x _ hx => ih hx) h with h | ⟨x, hx, hlead⟩
        · exact Or.inl h
        · rcases List.mem_flatMap.mp hx with ⟨w', hw', hstep⟩
          rw [← state_of_mem_through hw']
          exact Or.inr (hround w' x v.state hstep hlead)
      simp only [LoopJunctions.endRound] at hv
      split at hv
      · exact Or.inl hv
      · cases hend : LoopJunctions.through js.roundEnd w with
        | nil =>
            rw [hend] at hv
            exact Or.inl hv
        | cons w' ws =>
            have hstate : w'.state = w.state := state_of_mem_through (hend ▸ List.mem_cons_self)
            have hleave : forall (s : LoopState), v ∈ (js.leave w' s).left -> v ∈ s.left ∨ leads w.state v.state := by
              intro s h
              rcases mem_left_of_leave h with h | h
              · exact Or.inl h
              · right
                rw [h, hstate]
                exact hrefl w.state
            rw [hend] at hv
            rw [← hstate]
            rw [← hstate] at hleave
            dsimp only at hv
            split at hv
            · rcases hleave _ hv with h | h
              · exact honward w' ⟨w'.place :: s.ended, s.left⟩ h
              · exact Or.inr h
            · rcases honward w' _ hv with h | h
              · exact hleave ⟨w'.place :: s.ended, s.left⟩ h
              · exact Or.inr h

theorem leads_of_mem_loopWays (hrefl : forall s, leads s s)
    (hround : forall (w x : Way) t, x ∈ step w -> leads x.state t -> leads w.state t)
    {atLeastOnce mayBeEmpty : Bool} {w v : Way} (hv : v ∈ js.ways greedy atLeastOnce mayBeEmpty step w) :
    (atLeastOnce = false ∧ leads w.state v.state) ∨
      exists w' x, w'.state = w.state ∧ x ∈ step w' ∧ leads x.state v.state := by
  have hbegin : forall (s : LoopState),
      v ∈ (((LoopJunctions.through js.again w).flatMap step).foldl
        (fun s x => js.endRound greedy step (w.state.cursor.rest.length + 2) x s) s).left ->
      v ∈ s.left ∨ exists w' x, w'.state = w.state ∧ x ∈ step w' ∧ leads x.state v.state := by
    intro s h
    rcases mem_of_mem_foldl LoopState.left (fun b x _ hx => mem_left_of_endRound hrefl hround hx) h with
      h | ⟨x, hx, hlead⟩
    · exact Or.inl h
    · rcases List.mem_flatMap.mp hx with ⟨w', hw', hstep⟩
      exact Or.inr ⟨w', x, state_of_mem_through hw', hstep, hlead⟩
  have hleave : forall (s : LoopState), v ∈ (js.leave w s).left -> v ∈ s.left ∨ leads w.state v.state := by
    intro s h
    rcases mem_left_of_leave h with h | h
    · exact Or.inl h
    · exact Or.inr (h ▸ hrefl w.state)
  have hnone : forall (x : Way), x ∉ (⟨[], []⟩ : LoopState).left := fun x hx => by cases hx
  have hv := List.mem_reverse.mp hv
  cases atLeastOnce with
  | true => exact Or.inr ((hbegin _ hv).resolve_left (hnone v))
  | false =>
      simp only [Bool.false_eq_true, if_false] at hv
      split at hv
      · rcases mem_left_of_endRound hrefl hround hv with h | h
        · exact absurd h (hnone v)
        · exact Or.inl ⟨rfl, h⟩
      · split at hv
        · rcases hleave _ hv with h | h
          · exact Or.inr ((hbegin _ h).resolve_left (hnone v))
          · exact Or.inl ⟨rfl, h⟩
        · rcases hbegin _ hv with h | h
          · exact Or.inl ⟨rfl, (hleave _ h).resolve_left (hnone v)⟩
          · exact Or.inr h

end RoundsThatMayReadNothing

/-!
# Soundness
-/

theorem leads_of_mem_read {set : CharSet} {s t : ReadState} (ht : t ∈ s.read set) : Leads (.one set) s t := by
  unfold ReadState.read at ht
  split at ht
  · cases ht
  · rename_i c r hrest
    split at ht
    · rename_i hc
      rw [List.mem_singleton.mp ht]
      refine ⟨[c], ?_⟩
      have hskip : s.skip [c] = { s with cursor := s.cursor.next c r } := by
        simp [ReadState.skip, Cursor.skip, hrest]
      rw [← hskip]
      exact Reads.one hrest hc
    · cases ht

theorem Leads.loop {greedy atLeastOnce : Bool} {p : Pattern} {s t v : ReadState} (hp : Leads p s t)
    (hl : Leads (.loop greedy false p) t v) : Leads (.loop greedy atLeastOnce p) s v := by
  rcases hp with ⟨u, hp⟩
  rcases hl with ⟨w, hl⟩
  exact ⟨u ++ w, Reads.loopMore hp hl⟩

theorem Leads.times {greedy : Bool} {least most : Nat} {p : Pattern} {s t v : ReadState} (hp : Leads p s t)
    (ht : Leads (.times greedy (least - 1) most p) t v) : Leads (.times greedy least (most + 1) p) s v := by
  rcases hp with ⟨u, hp⟩
  rcases ht with ⟨w, ht⟩
  exact ⟨u ++ w, Reads.timesMore hp ht⟩

/-- What the rounds that are left of `most` rounds lead to, at least `least` of which count. -/
def LeadsLeft (greedy : Bool) (least most : Nat) (p : Pattern) (left : Nat) (s t : ReadState) : Prop :=
  left ≤ most -> Leads (.times greedy (least - (most - left)) left p) s t

theorem LeadsLeft.stop {greedy : Bool} {least most left : Nat} {p : Pattern} (s : ReadState)
    (hfree : left ≤ most - least) : LeadsLeft greedy least most p left s s := by
  intro _
  exact ⟨[], Reads.timesNone (by omega)⟩

theorem LeadsLeft.round {greedy : Bool} {least most left : Nat} {p : Pattern} {s t v : ReadState}
    (hp : Leads p s t) (ht : LeadsLeft greedy least most p left t v) :
    LeadsLeft greedy least most p (left + 1) s v := by
  intro hle
  refine Leads.times hp ?_
  have heq : least - (most - (left + 1)) - 1 = least - (most - left) := by omega
  rw [heq]
  exact ht (by omega)

theorem LeadsLeft.times {greedy : Bool} {least most : Nat} {p : Pattern} {s t : ReadState}
    (h : LeadsLeft greedy least most p most s t) : Leads (.times greedy least most p) s t := by
  have heq : least - (most - most) = least := by omega
  exact heq ▸ h (Nat.le_refl most)

theorem leads_of_mem_ways {p : Pattern} {j : Junction} {w v : Way} (hv : v ∈ p.ways j w) :
    Leads p w.state v.state := by
  induction p generalizing j w v with
  | empty =>
      rw [List.mem_singleton.mp hv]
      exact ⟨[], Reads.empty w.state⟩
  | one set =>
      rcases List.mem_map.mp hv with ⟨t, ht, rfl⟩
      rw [state_reaching]
      exact leads_of_mem_read ht
  | anchor a =>
      unfold ways at hv
      split at hv
      · rename_i ha
        rw [List.mem_singleton.mp hv]
        exact ⟨[], Reads.anchor ha⟩
      · cases hv
  | seq p q ihp ihq =>
      rcases List.mem_flatMap.mp hv with ⟨x, hx, hv⟩
      rcases ihp hx with ⟨u, hu⟩
      rcases ihq hv with ⟨u', hu'⟩
      exact ⟨u ++ u', Reads.seq hu hu'⟩
  | alt p q ihp ihq =>
      rcases exists_of_mem_meet hv with ⟨x, hx, hstate⟩
      rw [hstate]
      rcases List.mem_append.mp hx with hx | hx
      · exact (ihp hx).imp fun u hu => Reads.altLeft hu
      · exact (ihq hx).imp fun u hu => Reads.altRight hu
  | group i p ih =>
      rcases List.mem_map.mp hv with ⟨x, hx, rfl⟩
      exact (ih hx).imp fun u hu => Reads.group hu
  | opt greedy p ih =>
      rcases exists_of_mem_meet hv with ⟨x, hx, hstate⟩
      have hx : x ∈ ways p (2 :: j) w ∨ x = w := by
        cases greedy with
        | true => simpa using hx
        | false => exact (List.mem_cons.mp hx).symm
      rw [hstate]
      rcases hx with hx | rfl
      · exact (ih hx).imp fun u hu => Reads.optSome hu
      · exact ⟨[], Reads.optNone x.state⟩
  | run greedy least most set =>
      unfold ways at hv
      split at hv
      · cases hv
      · rcases List.mem_flatMap.mp hv with ⟨x, hx, hpass⟩
        rcases List.mem_map.mp hx with ⟨t, ht, rfl⟩
        rw [state_of_mem_pass hpass, state_reaching]
        exact reads_of_mem_runEnds ht
  | loop greedy atLeastOnce p ih =>
      have hrefl : forall s, Leads (.loop greedy false p) s s := fun s => ⟨[], Reads.loopNone s⟩
      have hround : forall (w x : Way) t, x ∈ ways p (2 :: j) w -> Leads (.loop greedy false p) x.state t ->
          Leads (.loop greedy false p) w.state t := fun w x t hx => Leads.loop (ih hx)
      rcases leads_of_mem_loopWays hrefl hround hv with ⟨rfl, h⟩ | ⟨w', x, hstate, hx, hlead⟩
      · exact h
      · rw [← hstate]
        exact Leads.loop (ih hx) hlead
  | times greedy least most p ih =>
      refine LeadsLeft.times (mem_of_mem_countedEnds (fun left x y => LeadsLeft greedy least most p left x.state
        y.state) ?_ ?_ hv)
      · intro left x y hfree hy
        rw [state_of_mem_pass hy]
        exact LeadsLeft.stop x.state hfree
      · intro left x y z hy hz
        exact LeadsLeft.round (ih hy) hz
  | distinct p ih => exact (ih (mem_of_mem_firstAtEachPlace hv)).imp fun u hu => Reads.distinct hu

theorem leads_of_mem_ends {p : Pattern} {s t : ReadState} (ht : t ∈ p.ends s) : Leads p s t := by
  induction p generalizing s t with
  | empty =>
      rw [List.mem_singleton.mp ht]
      exact ⟨[], Reads.empty s⟩
  | one set => exact leads_of_mem_read ht
  | anchor a =>
      unfold ends at ht
      split at ht
      · rename_i ha
        rw [List.mem_singleton.mp ht]
        exact ⟨[], Reads.anchor ha⟩
      · cases ht
  | seq p q ihp ihq =>
      rcases List.mem_flatMap.mp ht with ⟨x, hx, ht⟩
      rcases ihp hx with ⟨u, hu⟩
      rcases ihq ht with ⟨u', hu'⟩
      exact ⟨u ++ u', Reads.seq hu hu'⟩
  | alt p q ihp ihq =>
      rcases List.mem_append.mp ht with ht | ht
      · exact (ihp ht).imp fun u hu => Reads.altLeft hu
      · exact (ihq ht).imp fun u hu => Reads.altRight hu
  | group i p ih =>
      rcases List.mem_map.mp ht with ⟨x, hx, rfl⟩
      exact (ih hx).imp fun u hu => Reads.group hu
  | opt greedy p ih =>
      have ht : t ∈ ends p s ∨ t = s := by
        cases greedy with
        | true => simpa [ends] using ht
        | false => exact (List.mem_cons.mp ht).symm
      rcases ht with ht | rfl
      · exact (ih ht).imp fun u hu => Reads.optSome hu
      · exact ⟨[], Reads.optNone t⟩
  | run greedy least most set => exact reads_of_mem_runEnds ht
  | loop greedy atLeastOnce p ih =>
      unfold ends at ht
      split at ht
      · rcases List.mem_map.mp ht with ⟨v, hv, rfl⟩
        exact leads_of_mem_ways hv
      · have hrefl : forall s, Leads (.loop greedy false p) s s := fun s => ⟨[], Reads.loopNone s⟩
        have hround : forall s t v, t ∈ ends p s -> Leads (.loop greedy false p) t v ->
            Leads (.loop greedy false p) s v := fun s t v ht => Leads.loop (ih ht)
        rcases mem_of_mem_loopEnds hrefl hround ht with ⟨rfl, h⟩ | ⟨x, hx, hlead⟩
        · exact h
        · exact Leads.loop (ih hx) hlead
  | times greedy least most p ih =>
      refine LeadsLeft.times (mem_of_mem_countedEnds (LeadsLeft greedy least most p) ?_ ?_ ht)
      · intro left x y hfree hy
        rw [List.mem_singleton.mp hy]
        exact LeadsLeft.stop x hfree
      · intro left x y z hy hz
        exact LeadsLeft.round (ih hy) hz
  | distinct p ih => exact (ih (mem_of_mem_firstAtEachPlace ht)).imp fun u hu => Reads.distinct hu

end Pattern
end WikiEntry
