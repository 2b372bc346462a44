/-!
# Places that are reached once

Of several ways to one place, only the preferred one has to be followed.  The places that were reached are kept
as the bits of a number, counted from the place where reading began.
-/

namespace WikiEntry

/-- The bits of the places reached so far, and what was found there, the latest first. -/
structure Reached (α : Type) where
  bits : Nat
  found : List α

namespace Reached

def none {α : Type} : Reached α :=
  ⟨0, []⟩

/-- Adds what was found, unless its place was reached before. -/
def add {α : Type} (place : α → Nat) (start : Nat) (r : Reached α) (x : α) : Reached α :=
  let bit := place x - start
  if r.bits.testBit bit then r else ⟨r.bits ||| (1 <<< bit), x :: r.found⟩

end Reached

/-- Of the elements at one place the first; no place lies before `start`. -/
def firstAtEachPlace {α : Type} (place : α → Nat) (start : Nat) (xs : List α) : List α :=
  (xs.foldl (Reached.add place start) .none).found.reverse

/-!
# Counted rounds

A way through counted rounds is known by the number of rounds that are left and by its place.
-/

/-- The bits of the places where counted rounds have been, by the number of rounds left, and where they have
ended. -/
structure Counted (α : Type) where
  been : List Nat
  ended : Reached α

namespace Counted

/-- Notes that a way with some rounds left has come to a place, unless there was one before. -/
def enter? {α : Type} (c : Counted α) (left bit : Nat) : Option (Counted α) :=
  let bits := c.been.getD left 0
  if bits.testBit bit then none else some { c with been := c.been.set left (bits ||| (1 <<< bit)) }

/-- With at most `free` rounds left the walk may end. -/
def leave {α : Type} (place : α → Nat) (start : Nat) (out : α → List α) (free left : Nat) (x : α)
    (c : Counted α) : Counted α :=
  if left ≤ free then { c with ended := (out x).foldl (Reached.add place start) c.ended } else c

/-- The walk through counted rounds.  A greedy walk ends after the rounds that are left, a lazy one before them. -/
def walk {α : Type} (place : α → Nat) (start : Nat) (step : Nat → α → List α) (out : α → List α)
    (greedy : Bool) (free : Nat) : (left : Nat) → α → Counted α → Counted α
  | 0, x, c =>
      match c.enter? 0 (place x - start) with
      | none => c
      | some c => c.leave place start out free 0 x
  | left + 1, x, c =>
      match c.enter? (left + 1) (place x - start) with
      | none => c
      | some c =>
          let onward (c : Counted α) : Counted α :=
            (step left x).foldl (fun c y => walk place start step out greedy free left y c) c
          if greedy then (onward c).leave place start out free (left + 1) x
          else onward (c.leave place start out free (left + 1) x)

end Counted

/-- The ends of between `least` and `most` rounds, from `x` on. -/
def countedEnds {α : Type} (place : α → Nat) (step : Nat → α → List α) (out : α → List α) (greedy : Bool)
    (least most : Nat) (x : α) : List α :=
  let walked :=
    Counted.walk place (place x) step out greedy (most - least) most x ⟨List.replicate (most + 1) 0, .none⟩
  walked.ended.found.reverse

end WikiEntry
