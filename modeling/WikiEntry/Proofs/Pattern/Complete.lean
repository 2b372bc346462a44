import WikiEntry.Proofs.Pattern.Matched

/-!
# The search is complete

Whatever a pattern can read from a place, the search finds an end where it is read to.  Groups are left aside, since a
repetition keeps only one way to each place.  The walk over the places of a repetition never goes back on what
it has found: a place that it adds is left only when the places behind it are among those found.  So the places found
are closed under one more round, and by induction hold everything that the rounds lead to.

Rounds that are counted and rounds that may read nothing are walked in other ways, and are not covered here.
-/

namespace WikiEntry

namespace Cursor

theorem skip_append (k : Cursor) (u v : Text) : (k.skip u).skip v = k.skip (u ++ v) := by
  induction u generalizing k with
  | nil => rfl
  | cons c u ih => exact ih _

/-- A place that is come to from `k` by reading on. -/
def Reaches (k k' : Cursor) : Prop :=
  exists u, k.rest = u ++ k'.rest ∧ k' = k.skip u

theorem Reaches.refl (k : Cursor) : Reaches k k :=
  ⟨[], rfl, rfl⟩

theorem Reaches.trans {k k' k'' : Cursor} (h : Reaches k k') (h' : Reaches k' k'') : Reaches k k'' := by
  rcases h with ⟨u, hu, rfl⟩
  rcases h' with ⟨v, hv, rfl⟩
  exact ⟨u ++ v, by rw [hu, hv, List.append_assoc], skip_append k u v⟩

/-- On the way through one text a place belongs to one cursor. -/
theorem Reaches.eq_of_place {k x y : Cursor} (hx : Reaches k x) (hy : Reaches k y) (hplace : x.place = y.place) :
    x = y := by
  rcases hx with ⟨u, hu, rfl⟩
  rcases hy with ⟨v, hv, rfl⟩
  have hlength : u.length = v.length := by
    rw [place_skip, place_skip] at hplace
    exact Nat.add_left_cancel hplace
  rw [(List.append_inj (hu.symm.trans hv) hlength).1]

end Cursor

namespace Pattern

theorem Reads.cursor_eq {p : Pattern} {s t : ReadState} {w : Text} (h : Reads p s w t) :
    t.cursor = s.cursor.skip w := by
  induction h with
  | empty s => rfl
  | one _ _ => rfl
  | anchor _ => rfl
  | seq _ _ ihp ihq => rw [ihq, ihp, Cursor.skip_append]
  | altLeft _ ih => exact ih
  | altRight _ ih => exact ih
  | group _ ih => exact ih
  | optNone s => rfl
  | optSome _ ih => exact ih
  | run _ _ _ _ => rfl
  | loopNone s => rfl
  | loopMore _ _ ihp ihl => rw [ihl, ihp, Cursor.skip_append]
  | timesNone _ => rfl
  | timesMore _ _ ihp iht => rw [iht, ihp, Cursor.skip_append]
  | distinct _ ih => exact ih

theorem Reads.reaches {p : Pattern} {s t : ReadState} {w : Text} (h : Reads p s w t) :
    s.cursor.Reaches t.cursor :=
  ⟨w, h.advances.1, h.cursor_eq⟩

/-!
# Runs of characters
-/

theorem length_lt_runCursors (set : CharSet) (rest : Text) (most : Option Nat) (k : Cursor) (found : List Cursor) :
    found.length < (runCursors set rest most k found).length := by
  induction rest generalizing most k found with
  | nil => exact Nat.lt_succ_self found.length
  | cons c r ih =>
      rw [runCursors]
      split
      · exact Nat.lt_of_succ_lt (ih _ _ (k :: found))
      · exact Nat.lt_succ_self found.length

/-- A run goes on as long as it may. -/
theorem length_lt_runCursors_append {set : CharSet} {w : Text} (r : Text)
    (hset : forall c, c ∈ w -> set.holds c = true) (most : Option Nat) (hmost : forall n, most = some n -> w.length ≤ n)
    (k : Cursor) (found : List Cursor) : found.length + w.length < (runCursors set (w ++ r) most k found).length := by
  induction w generalizing most k found with
  | nil => exact length_lt_runCursors set r most k found
  | cons c w ih =>
      have hmore : most ≠ some 0 ∧ set.holds c = true := by
        constructor
        · intro h0
          cases hmost 0 h0
        · exact hset c List.mem_cons_self
      have hleft : forall n, most.map (· - 1) = some n -> w.length ≤ n := by
        intro n hn
        rcases Option.map_eq_some_iff.mp hn with ⟨m, hm, rfl⟩
        exact Nat.le_sub_one_of_lt (hmost m hm)
      have hlength := ih (fun d hd => hset d (List.mem_cons_of_mem c hd)) _ hleft (k.next c (w ++ r)) (k :: found)
      rw [List.cons_append, runCursors, if_pos hmore]
      rw [List.length_cons] at hlength ⊢
      rwa [Nat.add_right_comm, ← Nat.add_assoc] at *

theorem mem_runEnds {greedy : Bool} {least : Nat} {most : Option Nat} {set : CharSet} {s : ReadState} {w r : Text}
    (hrest : s.cursor.rest = w ++ r) (hset : forall c, c ∈ w -> set.holds c = true) (hleast : least ≤ w.length)
    (hmost : forall n, most = some n -> w.length ≤ n) : s.skip w ∈ runEnds greedy least most set s := by
  rcases runCursors_eq set most (k := s.cursor) [] rfl with ⟨n, _, _, _, heq⟩
  have hle : w.length ≤ n := by
    have hlength := length_lt_runCursors_append r hset most hmost s.cursor []
    rw [← hrest, heq, List.append_nil, length_cursorsBehind, List.length_nil, Nat.zero_add] at hlength
    exact Nat.le_of_lt_succ hlength
  have hindex : n - w.length < ((cursorsBehind s.cursor s.cursor.rest n).take (n + 1 - least)).length := by
    rw [List.length_take, length_cursorsBehind]
    omega
  have hmem : s.cursor.skip w ∈ (cursorsBehind s.cursor s.cursor.rest n).take (n + 1 - least) := by
    apply List.mem_iff_getElem.mpr
    exists n - w.length, hindex
    rw [List.getElem_take]
    simp only [cursorsBehind, List.getElem_map, List.getElem_reverse, List.getElem_range, List.length_range]
    rw [Nat.add_sub_cancel, Nat.sub_sub_self hle, hrest, List.take_left]
  simp only [runEnds, heq, List.append_nil, length_cursorsBehind]
  refine List.mem_map.mpr ⟨_, ?_, rfl⟩
  split
  · exact hmem
  · exact List.mem_reverse.mpr hmem

/-!
# The walk over places
-/

section Walk

variable {step : ReadState -> List ReadState}

def Visited (left : List ReadState) (s : ReadState) : Prop :=
  exists x, x ∈ left ∧ x.place = s.place

/-- What is left later holds what was left before, and each state that was added has its successors visited. -/
structure Extends (step : ReadState -> List ReadState) (left left' : List ReadState) : Prop where
  kept : forall x, x ∈ left -> x ∈ left'
  closed : forall x, x ∈ left' -> x ∈ left ∨ forall y, y ∈ step x -> Visited left' y

theorem Extends.refl (left : List ReadState) : Extends step left left :=
  ⟨fun _ hx => hx, fun _ hx => Or.inl hx⟩

theorem Extends.visited {left left' : List ReadState} (h : Extends step left left') {s : ReadState}
    (hs : Visited left s) : Visited left' s := by
  rcases hs with ⟨x, hx, hplace⟩
  exact ⟨x, h.kept x hx, hplace⟩

theorem Extends.trans {left left' left'' : List ReadState} (h : Extends step left left')
    (h' : Extends step left' left'') : Extends step left left'' := by
  constructor
  · intro x hx
    exact h'.kept x (h.kept x hx)
  · intro x hx
    rcases h'.closed x hx with hx | hclosed
    · rcases h.closed x hx with hx | hclosed
      · exact Or.inl hx
      · exact Or.inr fun y hy => h'.visited (hclosed y hy)
    · exact Or.inr hclosed

theorem visited_iff (left : List ReadState) (s : ReadState) :
    left.any (·.place == s.place) = true <-> Visited left s := by
  simp only [List.any_eq_true, beq_iff_eq, Visited]

theorem visited_leave (s : ReadState) (left : List ReadState) : Visited (leave s left) s := by
  rw [leave]
  split
  · rename_i h
    exact (visited_iff left s).mp h
  · exact ⟨s, List.mem_cons_self, rfl⟩

/-- A state may be left once its successors are visited. -/
theorem extends_leave {s : ReadState} {left : List ReadState} (hclosed : forall y, y ∈ step s -> Visited left y) :
    Extends step left (leave s left) := by
  rw [leave]
  split
  · exact Extends.refl left
  · constructor
    · exact fun x hx => List.mem_cons_of_mem s hx
    · intro x hx
      rcases List.mem_cons.mp hx with rfl | hx
      · right
        intro y hy
        rcases hclosed y hy with ⟨z, hz, hplace⟩
        exact ⟨z, List.mem_cons_of_mem x hz, hplace⟩
      · exact Or.inl hx

/-- Visiting one state after the other visits them all. -/
theorem extends_foldl {visit : List ReadState -> ReadState -> List ReadState} (ys : List ReadState)
    (hvisit : forall y, y ∈ ys -> forall left, Extends step left (visit left y) ∧ Visited (visit left y) y)
    (left : List ReadState) :
    Extends step left (ys.foldl visit left) ∧ forall y, y ∈ ys -> Visited (ys.foldl visit left) y := by
  induction ys generalizing left with
  | nil => exact ⟨Extends.refl left, fun y hy => absurd hy List.not_mem_nil⟩
  | cons y ys ih =>
      rcases hvisit y List.mem_cons_self left with ⟨hfirst, hvisited⟩
      rcases ih (fun z hz => hvisit z (List.mem_cons_of_mem y hz)) (visit left y) with ⟨hrest, hall⟩
      constructor
      · exact hfirst.trans hrest
      · intro z hz
        rcases List.mem_cons.mp hz with rfl | hz
        · exact hrest.visited hvisited
        · exact hall z hz

/-- The walk from a state visits the state, and closes all it adds. -/
theorem extends_walk (greedy : Bool)
    (hstep : forall s t, t ∈ step s -> t.cursor.rest.length < s.cursor.rest.length) {depth : Nat} {s : ReadState}
    (hdepth : s.cursor.rest.length ≤ depth) (left : List ReadState) :
    Extends step left (walk step greedy depth s left) ∧ Visited (walk step greedy depth s left) s := by
  induction depth generalizing s left with
  | zero =>
      have hnone : forall y, y ∈ step s -> Visited left y := by
        intro y hy
        exact absurd (Nat.lt_of_lt_of_le (hstep s y hy) hdepth) (Nat.not_lt_zero _)
      exact ⟨extends_leave hnone, visited_leave s left⟩
  | succ depth ih =>
      have honward : forall left : List ReadState,
          Extends step left ((step s).foldl (fun left t => walk step greedy depth t left) left) ∧
            forall t, t ∈ step s -> Visited ((step s).foldl (fun left t => walk step greedy depth t left) left) t := by
        intro left
        apply extends_foldl (step s)
        intro t ht left
        exact ih (Nat.le_of_lt_succ (Nat.lt_of_lt_of_le (hstep s t ht) hdepth)) left
      simp only [walk]
      split
      · rename_i hvisited
        exact ⟨Extends.refl left, (visited_iff left s).mp hvisited⟩
      · rename_i hnew
        split
        · rcases honward left with ⟨hextends, hall⟩
          exact ⟨hextends.trans (extends_leave hall), visited_leave s _⟩
        · rcases honward (leave s left) with ⟨hextends, hall⟩
          -- A lazy walk leaves the state first, and closes it by what it visits afterwards.
          refine ⟨⟨?_, ?_⟩, hextends.visited (visited_leave s left)⟩
          · intro x hx
            apply hextends.kept
            rw [leave, if_neg hnew]
            exact List.mem_cons_of_mem s hx
          · intro x hx
            rcases hextends.closed x hx with hx | hclosed
            · rcases mem_of_mem_leave hx with hx | rfl
              · exact Or.inl hx
              · exact Or.inr hall
            · exact Or.inr hclosed

theorem Visited.reverse {left : List ReadState} {s : ReadState} (h : Visited left s) : Visited left.reverse s := by
  rcases h with ⟨x, hx, hplace⟩
  exact ⟨x, List.mem_reverse.mpr hx, hplace⟩

/-- States of which each has its successors among them, up to place. -/
def Closed (step : ReadState -> List ReadState) (states : List ReadState) : Prop :=
  forall x, x ∈ states -> forall y, y ∈ step x -> Visited states y

theorem Extends.closed_reverse {left : List ReadState} (h : Extends step [] left) : Closed step left.reverse := by
  intro x hx y hy
  rcases h.closed x (List.mem_reverse.mp hx) with hnil | hall
  · cases hnil
  · exact (hall y hy).reverse

/-- The ends of a repetition are closed under one more round, and begin with the first round or without any. -/
theorem closed_loopEnds (hstep : forall s t, t ∈ step s -> t.cursor.rest.length < s.cursor.rest.length)
    (greedy atLeastOnce : Bool) (s : ReadState) :
    Closed step (loopEnds step greedy atLeastOnce s) ∧
      (atLeastOnce = false -> Visited (loopEnds step greedy atLeastOnce s) s) ∧
      (atLeastOnce = true -> forall y, y ∈ step s -> Visited (loopEnds step greedy atLeastOnce s) y) := by
  cases atLeastOnce with
  | true =>
      have hfold := extends_foldl (step s)
        (fun y hy left => extends_walk greedy hstep (Nat.le_of_lt (hstep s y hy)) left) []
      exact ⟨hfold.1.closed_reverse, nofun, fun _ y hy => (hfold.2 y hy).reverse⟩
  | false =>
      have hwalk := extends_walk greedy hstep (Nat.le_refl s.cursor.rest.length) []
      exact ⟨hwalk.1.closed_reverse, fun _ => hwalk.2.reverse, nofun⟩

end Walk

/-!
# Completeness
-/

/-- Whether all rounds of the pattern read something, and none are counted. -/
def hasPlainRounds : Pattern -> Bool
  | empty => true
  | one _ => true
  | anchor _ => true
  | seq p q => p.hasPlainRounds && q.hasPlainRounds
  | alt p q => p.hasPlainRounds && q.hasPlainRounds
  | group _ p => p.hasPlainRounds
  | opt _ p => p.hasPlainRounds
  | run _ _ _ _ => true
  | loop _ _ p => !p.mayBeEmpty && p.hasPlainRounds
  | times _ _ _ _ => false
  | distinct _ => false

/-- From each state at a place an end is found that is at the other place. -/
def Finds (p : Pattern) (k k' : Cursor) : Prop :=
  forall s, s.cursor = k -> exists t, t ∈ p.ends s ∧ t.cursor = k'

/-- Rounds of a pattern that the search finds lead only to places among the closed ones. -/
theorem exists_mem_of_closed {greedy : Bool} {p : Pattern} {k : Cursor} {states : List ReadState}
    (hclosed : Closed p.ends states) (hway : forall x, x ∈ states -> k.Reaches x.cursor)
    (hfinds : forall s w t, Reads p s w t -> p.Finds s.cursor t.cursor) {s t : ReadState} {w : Text}
    (h : Reads (.loop greedy false p) s w t) (hs : exists x, x ∈ states ∧ x.cursor = s.cursor) :
    exists x, x ∈ states ∧ x.cursor = t.cursor := by
  generalize hq : Pattern.loop greedy false p = q at h
  induction h with
  | loopNone s => exact hs
  | loopMore hp _ _ ih =>
      cases hq
      rcases hs with ⟨x, hx, hcursor⟩
      rcases hfinds _ _ _ hp x hcursor with ⟨y, hy, hcursor'⟩
      rcases hclosed x hx y hy with ⟨z, hz, hplace⟩
      refine ih ⟨z, hz, ?_⟩ rfl
      rw [← hcursor']
      rcases leads_of_mem_ends hy with ⟨u, hu⟩
      exact (hway z hz).eq_of_place ((hway x hx).trans hu.reaches) hplace
  | _ => cases hq

theorem length_rest_lt_of_mem_ends {p : Pattern} (hp : p.mayBeEmpty = false) {s t : ReadState} (ht : t ∈ p.ends s) :
    t.cursor.rest.length < s.cursor.rest.length := by
  rcases leads_of_mem_ends ht with ⟨w, hw⟩
  have hpositive : 0 < w.length := List.length_pos_iff.mpr (hw.ne_nil hp)
  rw [hw.advances.1, List.length_append]
  exact Nat.lt_add_of_pos_left hpositive

theorem finds_loop {greedy atLeastOnce : Bool} {p : Pattern} (hp : p.mayBeEmpty = false)
    (hfinds : forall s w t, Reads p s w t -> p.Finds s.cursor t.cursor) {s t : ReadState} {w : Text}
    (h : Reads (.loop greedy atLeastOnce p) s w t) :
    (Pattern.loop greedy atLeastOnce p).Finds s.cursor t.cursor := by
  intro s' hs'
  rcases closed_loopEnds (fun _ _ => length_rest_lt_of_mem_ends hp) greedy atLeastOnce s' with
    ⟨hclosed, hnone, hone⟩
  have hends : ends (.loop greedy atLeastOnce p) s' = loopEnds p.ends greedy atLeastOnce s' := by
    rw [ends, if_neg (by rw [hp]; exact Bool.false_ne_true)]
  rw [← hends] at hclosed hnone hone
  have hway : forall x, x ∈ ends (.loop greedy atLeastOnce p) s' -> s'.cursor.Reaches x.cursor := by
    intro x hx
    rcases leads_of_mem_ends hx with ⟨u, hu⟩
    exact hu.reaches
  cases atLeastOnce with
  | false =>
      rcases hnone rfl with ⟨x, hx, hplace⟩
      have hcursor : x.cursor = s.cursor := by
        rw [← hs']
        exact (hway x hx).eq_of_place (Cursor.Reaches.refl _) hplace
      exact exists_mem_of_closed hclosed hway hfinds h ⟨x, hx, hcursor⟩
  | true =>
      cases h with
      | loopMore hround hrest =>
          rcases hfinds _ _ _ hround s' hs' with ⟨y, hy, hcursor⟩
          rcases hone rfl y hy with ⟨x, hx, hplace⟩
          rcases leads_of_mem_ends hy with ⟨u, hu⟩
          have hsame : x.cursor = y.cursor := (hway x hx).eq_of_place hu.reaches hplace
          exact exists_mem_of_closed hclosed hway hfinds hrest ⟨x, hx, hsame.trans hcursor⟩

theorem Reads.finds {p : Pattern} (hp : p.hasPlainRounds = true) {s t : ReadState} {w : Text} (h : Reads p s w t) :
    p.Finds s.cursor t.cursor := by
  induction p generalizing s t w with
  | empty =>
      cases h with
      | empty s => exact fun s' hs' => ⟨s', List.mem_singleton_self s', hs'⟩
  | one set =>
      cases h with
      | one hrest hc =>
          rename_i c r
          intro s' hs'
          refine ⟨{ s' with cursor := s'.cursor.next c r }, ?_, ?_⟩
          · rw [ends, ReadState.read, hs', hrest]
            simp [hc]
          · simp [ReadState.skip, Cursor.skip, hs', hrest]
  | anchor a =>
      cases h with
      | anchor ha =>
          intro s' hs'
          refine ⟨s', ?_, hs'⟩
          rw [ends, if_pos (hs' ▸ ha)]
          exact List.mem_singleton_self s'
  | seq p q ihp ihq =>
      rcases Bool.and_eq_true_iff.mp hp with ⟨hp, hq⟩
      cases h with
      | seq hu hv =>
          intro s' hs'
          rcases ihp hp hu s' hs' with ⟨x, hx, hcursor⟩
          rcases ihq hq hv x hcursor with ⟨y, hy, hcursor'⟩
          exact ⟨y, List.mem_flatMap.mpr ⟨x, hx, hy⟩, hcursor'⟩
  | alt p q ihp ihq =>
      rcases Bool.and_eq_true_iff.mp hp with ⟨hp, hq⟩
      intro s' hs'
      cases h with
      | altLeft hu =>
          rcases ihp hp hu s' hs' with ⟨x, hx, hcursor⟩
          exact ⟨x, List.mem_append_left _ hx, hcursor⟩
      | altRight hu =>
          rcases ihq hq hu s' hs' with ⟨x, hx, hcursor⟩
          exact ⟨x, List.mem_append_right _ hx, hcursor⟩
  | group i p ih =>
      rcases h.group_inv with ⟨x, hx, rfl⟩
      intro s' hs'
      rcases ih hp hx s' hs' with ⟨y, hy, hcursor⟩
      exact ⟨y.close i s'.place, List.mem_map.mpr ⟨y, hy, rfl⟩, hcursor⟩
  | opt greedy p ih =>
      intro s' hs'
      cases h with
      | optNone s => exact ⟨s', by cases greedy <;> simp [ends], hs'⟩
      | optSome hu =>
          rcases ih hp hu s' hs' with ⟨x, hx, hcursor⟩
          exact ⟨x, by cases greedy <;> simp [ends, hx], hcursor⟩
  | run greedy least most set =>
      cases h with
      | run hrest hset hleast hmost =>
          intro s' hs'
          rw [← hs'] at hrest
          exact ⟨s'.skip w, mem_runEnds hrest hset hleast hmost, by rw [ReadState.skip, ReadState.skip, hs']⟩
  | loop greedy atLeastOnce p ih =>
      rcases Bool.and_eq_true_iff.mp hp with ⟨hsome, hp⟩
      exact finds_loop (by simpa using hsome) (fun _ _ _ hround => ih hp hround) h
  | times greedy least most p => cases hp
  | distinct p => cases hp

/-- A pattern that can read something from a place matches there. -/
theorem Reads.matchAt?_ne_none {p : Pattern} (hp : p.hasPlainRounds = true) {k : Cursor} {w : Text} {s : ReadState}
    (h : Reads p ⟨k, []⟩ w s) : p.matchAt? k ≠ none := by
  rcases h.finds hp ⟨k, []⟩ rfl with ⟨x, hx, _⟩
  rw [matchAt?]
  cases hends : p.ends ⟨k, []⟩ with
  | nil =>
      rw [hends] at hx
      cases hx
  | cons y ys => exact Option.some_ne_none _

/-- A pattern that can read the beginning of a text is found in it. -/
theorem isSome_find?_of_reads {p : Pattern} (hp : p.hasPlainRounds = true) {t w : Text} {s : ReadState}
    (h : Reads p ⟨.start t, []⟩ w s) : (p.find? t).isSome = true := by
  rcases Option.ne_none_iff_exists'.mp (h.matchAt?_ne_none hp) with ⟨m, hm⟩
  have hsearch : p.search none 0 t = some m := by
    unfold search
    rw [show (⟨none, 0, t⟩ : Cursor) = .start t from rfl, hm]
  rw [find?, hsearch]
  rfl

/-- A pattern that can read the whole text matches it. -/
theorem isSome_find?_whole {p : Pattern} (hp : p.hasPlainRounds = true) {t : Text} {s : ReadState}
    (h : Reads p ⟨.start t, []⟩ t s) : ((whole p).find? t).isSome = true := by
  have hnil : s.cursor.rest = [] := List.append_cancel_left (h.advances.1.symm.trans (List.append_nil t).symm)
  have hwhole : Reads (whole p) ⟨.start t, []⟩ ([] ++ t ++ []) s := by
    refine Reads.seq (Reads.seq (Reads.anchor rfl) h) (Reads.anchor ?_)
    rw [Anchor.holds, hnil]
    rfl
  refine isSome_find?_of_reads ?_ hwhole
  show (true && p.hasPlainRounds && true) = true
  rw [hp]
  rfl

end Pattern
end WikiEntry
