import WikiEntry.Pattern.Basic
import WikiEntry.Pattern.Reached

/-!
# Ways through a repetition whose rounds may read nothing

Where the rounds of a repetition may read nothing, a way through the pattern could go round without end.  It is
kept from that by one rule: without reading a character, a way passes no junction twice.  A junction is
a point of the pattern where ways come together: behind alternatives, before a round, behind the last round.
Ways that meet at one junction and one place go on alike, so that only the preferred one has to be followed.
-/

namespace WikiEntry

/-- A junction is named by the path that leads to it from the whole pattern. -/
abbrev Junction := List Nat

/-- The state that a way has reached, and the junctions passed since it last read a character. -/
structure Way where
  state : ReadState
  passed : List Junction
  deriving DecidableEq, Repr

namespace Way

def place (w : Way) : Nat :=
  w.state.place

/-- The way goes on through a junction, unless it passed it before. -/
def pass (j : Junction) (w : Way) : List Way :=
  if w.passed.contains j then [] else [{ w with passed := j :: w.passed }]

/-- A way that has reached `s` from `w`; reading a character opens all junctions. -/
def reaching (w : Way) (s : ReadState) : Way :=
  if s.place = w.place then { w with state := s } else ⟨s, []⟩

/-- The ways that come together at a junction, all of which began at `start`, go on from there. -/
def meet (start : Nat) (j : Junction) (ws : List Way) : List Way :=
  (firstAtEachPlace place start ws).flatMap (pass j)

end Way

/-- The junctions of a repetition: where a round ends, where the next one begins, and the way out. -/
structure LoopJunctions where
  roundEnd : Option Junction
  again : Option Junction
  out : Option Junction

/-- The places where a round has ended, and the ways that have left a repetition, the latest first. -/
structure LoopState where
  ended : List Nat
  left : List Way

namespace LoopJunctions

def through (j : Option Junction) (w : Way) : List Way :=
  match j with
  | some j => w.pass j
  | none => [w]

def leave (js : LoopJunctions) (w : Way) (s : LoopState) : LoopState :=
  if s.left.any (·.place == w.place) then s else { s with left := through js.out w ++ s.left }

/-- A round has ended: the way goes on into the next one and out of the repetition, in the order of preference.
Each place is left once, so that the length of the rest bounds the depth. -/
def endRound (js : LoopJunctions) (greedy : Bool) (step : Way → List Way) : (depth : Nat) → Way → LoopState →
    LoopState
  | 0, _, s => s
  | depth + 1, w, s =>
      if s.ended.contains w.place then s
      else
        match through js.roundEnd w with
        | [] => s
        | w :: _ =>
            let s := { s with ended := w.place :: s.ended }
            let onward (s : LoopState) : LoopState :=
              ((through js.again w).flatMap step).foldl (fun s w => endRound js greedy step depth w s) s
            if greedy then js.leave w (onward s) else onward (js.leave w s)

/-- The ways through a repetition, from before the first round. -/
def ways (js : LoopJunctions) (greedy atLeastOnce mayBeEmpty : Bool) (step : Way → List Way) (w : Way) :
    List Way :=
  let depth := w.state.cursor.rest.length + 2
  let begin (s : LoopState) : LoopState :=
    ((through js.again w).flatMap step).foldl (fun s w => js.endRound greedy step depth w s) s
  let s : LoopState :=
    if atLeastOnce then begin ⟨[], []⟩
    else if !mayBeEmpty then js.endRound greedy step depth w ⟨[], []⟩
    else if greedy then js.leave w (begin ⟨[], []⟩)
    else begin (js.leave w ⟨[], []⟩)
  s.left.reverse

end LoopJunctions

namespace Pattern

/-- The junctions of a repetition at `j`.  Rounds that read something need one junction at most. -/
def loopJunctions (atLeastOnce mayBeEmpty : Bool) (j : Junction) : LoopJunctions :=
  if mayBeEmpty then ⟨none, some (0 :: j), some (1 :: j)⟩
  else if atLeastOnce then ⟨none, none, none⟩
  else ⟨some (0 :: j), none, none⟩

/-- All ways through a pattern that stands at `j`, in order of preference. -/
def ways : Pattern → (j : Junction) → Way → List Way
  | empty, _, w => [w]
  | one set, _, w => (w.state.read set).map w.reaching
  | anchor a, _, w => if a.holds w.state.cursor then [w] else []
  | seq p q, j, w => (ways p (2 :: j) w).flatMap (ways q (3 :: j))
  | alt p q, j, w => Way.meet w.place (0 :: j) (ways p (2 :: j) w ++ ways q (3 :: j) w)
  | group i p, j, w => (ways p (2 :: j) w).map fun v => { v with state := v.state.close i w.place }
  | opt greedy p, j, w =>
      let inner := ways p (2 :: j) w
      Way.meet w.place (0 :: j) (if greedy then inner ++ [w] else w :: inner)
  | run greedy least most set, j, w =>
      if least = 0 ∧ most = none ∧ w.passed.contains (0 :: j) then []
      else ((runEnds greedy least most set w.state).map w.reaching).flatMap (Way.pass (0 :: j))
  | loop greedy atLeastOnce p, j, w =>
      (loopJunctions atLeastOnce p.mayBeEmpty j).ways greedy atLeastOnce p.mayBeEmpty (ways p (2 :: j)) w
  | times greedy least most p, j, w =>
      countedEnds Way.place (fun left => ways p ((left + 2) :: j)) (Way.pass (0 :: j)) greedy least most w
  | distinct p, j, w => firstAtEachPlace Way.place w.place (ways p (2 :: j) w)

end Pattern
end WikiEntry
