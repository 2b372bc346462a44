import WikiEntry.Pattern.Way

/-!
# The ends of a pattern

`ends p s` is the list of the states that reading `p` from the state `s` can lead to, the preferred one first.

# Ways to repeat

For a pattern whose rounds read something, the ends of a repetition are found by a depth-first walk over the
places that the rounds reach; a place that was left before is not visited again, so that the walk takes at most
one visit per place.  Rounds that may read nothing are left to the ways through the repetition.
-/

namespace WikiEntry
namespace Pattern

/-- Adds a state unless its place was left before. -/
def leave (s : ReadState) (left : List ReadState) : List ReadState :=
  if left.any (·.place == s.place) then left else s :: left

/-- The walk over the places that rounds of `step` reach, adding to the states left so far, the latest
first.  A greedy walk leaves a place after the places behind it, a lazy one before them.  Each round reads a
character, so the length of the rest bounds the depth. -/
def walk (step : ReadState → List ReadState) (greedy : Bool) :
    (depth : Nat) → ReadState → List ReadState → List ReadState
  | 0, s, left => leave s left
  | depth + 1, s, left =>
      if left.any (·.place == s.place) then left
      else
        let onward (left : List ReadState) : List ReadState :=
          (step s).foldl (fun left s' => walk step greedy depth s' left) left
        if greedy then leave s (onward left) else onward (leave s left)

/-- The ends of a repetition of rounds that each read something. -/
def loopEnds (step : ReadState → List ReadState) (greedy atLeastOnce : Bool) (s : ReadState) :
    List ReadState :=
  let depth := s.cursor.rest.length
  if atLeastOnce then ((step s).foldl (fun left s' => walk step greedy depth s' left) []).reverse
  else (walk step greedy depth s []).reverse

/-- All ways to read the pattern from a state, in order of preference. -/
def ends : Pattern → ReadState → List ReadState
  | empty, s => [s]
  | one set, s => s.read set
  | anchor a, s => if a.holds s.cursor then [s] else []
  | seq p q, s => (ends p s).flatMap (ends q)
  | alt p q, s => ends p s ++ ends q s
  | group i p, s => (ends p s).map (·.close i s.place)
  | opt greedy p, s => if greedy then ends p s ++ [s] else s :: ends p s
  | run greedy least most set, s => runEnds greedy least most set s
  | loop greedy atLeastOnce p, s =>
      if p.mayBeEmpty then (ways (loop greedy atLeastOnce p) [] ⟨s, []⟩).map Way.state
      else loopEnds (ends p) greedy atLeastOnce s
  | times greedy least most p, s =>
      countedEnds ReadState.place (fun _ => ends p) (fun s => [s]) greedy least most s
  | distinct p, s => firstAtEachPlace ReadState.place s.place (ends p s)

end Pattern
end WikiEntry
