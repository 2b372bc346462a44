import WikiEntry.Pattern.CharSet

/-!
# Patterns

A pattern says how to read on from a place in a text.  There may be several ways, which are listed in order of
preference; what a pattern matches is the first of them.  A repeated set of characters is kept apart from a
repeated pattern, because its ends are simply the places along one run.  Rounds that are counted are kept apart
from those that are not.  Of several ways to one place, `distinct` keeps the first.
-/

namespace WikiEntry

/-!
# Tests of a place
-/

/-- A test of whether there are word characters before and after a place. -/
inductive WordTest where
  | edge
  | noEdge
  | start
  | stop
  | noneBefore
  | noneAfter
  deriving DecidableEq, Repr

/-- A test of the characters around a place.  The breaks between lines are newlines, or else carriage returns
and newlines, which count as one break together. -/
inductive Anchor where
  | textStart
  | textEnd
  | lineStart
  | lineEnd
  | breakStart
  | breakEnd
  | word (asciiOnly : Bool) (test : WordTest)
  deriving DecidableEq, Repr

inductive Pattern where
  | empty
  | one (set : CharSet)
  | anchor (a : Anchor)
  | seq (p q : Pattern)
  | alt (p q : Pattern)
  | group (index : Nat) (p : Pattern)
  | opt (greedy : Bool) (p : Pattern)
  | run (greedy : Bool) (least : Nat) (most : Option Nat) (set : CharSet)
  | loop (greedy : Bool) (atLeastOnce : Bool) (p : Pattern)
  | times (greedy : Bool) (least most : Nat) (p : Pattern)
  | distinct (p : Pattern)
  deriving DecidableEq, Repr

/-!
# Places
-/

/-- A place in a text: the character before it, its distance from the beginning, and what follows. -/
structure Cursor where
  before : Option Char
  place : Nat
  rest : Text
  deriving DecidableEq, Repr

structure Span where
  start : Nat
  stop : Nat
  deriving DecidableEq, Repr

namespace Span

def size (s : Span) : Nat :=
  s.stop - s.start

def holds (s : Span) (place : Nat) : Bool :=
  s.start ≤ place && place < s.stop

def shift (s : Span) (n : Nat) : Span :=
  ⟨s.start + n, s.stop + n⟩

end Span

namespace Text

def slice (t : Text) (s : Span) : Text :=
  (t.drop s.start).take s.size

end Text

namespace Cursor

def start (t : Text) : Cursor :=
  ⟨none, 0, t⟩

/-- The cursor behind the next character `c`, with `r` still to come. -/
def next (k : Cursor) (c : Char) (r : Text) : Cursor :=
  ⟨some c, k.place + 1, r⟩

def ofPlace (t : Text) (place : Nat) : Cursor :=
  ⟨if place = 0 then none else t[place - 1]?, place, t.drop place⟩

end Cursor

/-- A place together with the groups read on the way to it, the latest first. -/
structure ReadState where
  cursor : Cursor
  groups : List (Nat × Span)
  deriving DecidableEq, Repr

namespace ReadState

def place (s : ReadState) : Nat :=
  s.cursor.place

def close (s : ReadState) (index start : Nat) : ReadState :=
  { s with groups := (index, ⟨start, s.place⟩) :: s.groups }

/-- The state behind the next character, if it is in the set. -/
def read (s : ReadState) (set : CharSet) : List ReadState :=
  match s.cursor.rest with
  | [] => []
  | c :: r => if set.holds c then [{ s with cursor := s.cursor.next c r }] else []

end ReadState

namespace WordTest

def holds (before after : Bool) : WordTest → Bool
  | edge => before != after
  | noEdge => before == after
  | start => !before && after
  | stop => before && !after
  | noneBefore => !before
  | noneAfter => !after

end WordTest

namespace Anchor

def isWord (asciiOnly : Bool) (c : Char) : Bool :=
  Chars.isWord c && !(asciiOnly && 128 ≤ c.toNat)

def holds : Anchor → Cursor → Bool
  | textStart, c => c.place == 0
  | textEnd, c => c.rest.isEmpty
  | lineStart, c => c.before.isNone || c.before == some '\n'
  | lineEnd, c => c.rest.isEmpty || c.rest.head? == some '\n'
  | breakStart, c =>
      c.before.isNone || c.before == some '\n' || (c.before == some '\r' && c.rest.head? != some '\n')
  | breakEnd, c =>
      c.rest.isEmpty || c.rest.head? == some '\r' || (c.rest.head? == some '\n' && c.before != some '\r')
  | word asciiOnly test, c => test.holds (c.before.any (isWord asciiOnly)) (c.rest.head?.any (isWord asciiOnly))

end Anchor

namespace Pattern

/-!
# What a pattern can read
-/

/-- Whether a pattern may read nothing. -/
def mayBeEmpty : Pattern → Bool
  | empty => true
  | one _ => false
  | anchor _ => true
  | seq p q => p.mayBeEmpty && q.mayBeEmpty
  | alt p q => p.mayBeEmpty || q.mayBeEmpty
  | group _ p => p.mayBeEmpty
  | opt _ _ => true
  | run _ least _ _ => least == 0
  | loop _ atLeastOnce p => !atLeastOnce || p.mayBeEmpty
  | times _ least most p => least == 0 || most == 0 || p.mayBeEmpty
  | distinct p => p.mayBeEmpty

/-- Whether a pattern reads nothing, however it is read. -/
def isEmptyOnly : Pattern → Bool
  | empty => true
  | one _ => false
  | anchor _ => true
  | seq p q => p.isEmptyOnly && q.isEmptyOnly
  | alt p q => p.isEmptyOnly && q.isEmptyOnly
  | group _ p => p.isEmptyOnly
  | opt _ p => p.isEmptyOnly
  | run _ _ most _ => most == some 0
  | loop _ _ p => p.isEmptyOnly
  | times _ _ _ p => p.isEmptyOnly
  | distinct p => p.isEmptyOnly

/-!
# Runs of characters
-/

/-- The cursors after at most `most` more characters of `set`, the furthest first, in front of `found`. -/
def runCursors (set : CharSet) : (rest : Text) → (most : Option Nat) → Cursor → List Cursor → List Cursor
  | [], _, k, found => k :: found
  | c :: r, most, k, found =>
      if most ≠ some 0 ∧ set.holds c then
        runCursors set r (most.map (· - 1)) (k.next c r) (k :: found)
      else k :: found

/-- The ends of a run of at least `least` and at most `most` characters of `set`. -/
def runEnds (greedy : Bool) (least : Nat) (most : Option Nat) (set : CharSet) (s : ReadState) :
    List ReadState :=
  let cursors := runCursors set s.cursor.rest most s.cursor []
  let cursors := cursors.take (cursors.length - least)
  (if greedy then cursors else cursors.reverse).map fun c => { s with cursor := c }

end Pattern
end WikiEntry
