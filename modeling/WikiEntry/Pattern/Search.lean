import WikiEntry.Pattern.Ends

/-!
# Matches of a pattern in a text

A match is the preferred way to read the pattern from a place.  A search takes the leftmost place that has
one.  The matches of a text are found one after the other: each begins at or after the end of the one
before it, and an empty match directly at that end does not count.
-/

namespace WikiEntry

structure Match where
  span : Span
  groups : List (Nat × Span)
  deriving DecidableEq, Repr

namespace Match

def start (m : Match) : Nat :=
  m.span.start

def stop (m : Match) : Nat :=
  m.span.stop

/-- The span of a group; group 0 is the whole match. -/
def group? (m : Match) (i : Nat) : Option Span :=
  if i = 0 then some m.span else m.groups.lookup i

/-- What a group read in `t`, if it took part in the match. -/
def text? (m : Match) (t : Text) (i : Nat) : Option Text :=
  (m.group? i).map t.slice

/-- What a group read in `t`, and the empty text if it took no part. -/
def text (m : Match) (t : Text) (i : Nat) : Text :=
  (m.text? t i).getD []

end Match

namespace Pattern

def matchAt? (p : Pattern) (k : Cursor) : Option Match :=
  match p.ends ⟨k, []⟩ with
  | [] => none
  | s :: _ => some ⟨⟨k.place, s.place⟩, s.groups⟩

/-- The leftmost match, tried at every place of `rest` in turn. -/
def search (p : Pattern) (before : Option Char) (place : Nat) (rest : Text) : Option Match :=
  match p.matchAt? ⟨before, place, rest⟩ with
  | some m => some m
  | none =>
      match rest with
      | [] => none
      | c :: r => search p (some c) (place + 1) r

/-- The leftmost match in `t` that begins at or after `start`. -/
def findFrom? (p : Pattern) (t : Text) (start : Nat) : Option Match :=
  let k := Cursor.ofPlace t start
  p.search k.before k.place k.rest

def find? (p : Pattern) (t : Text) : Option Match :=
  p.search none 0 t

def matchesIn (p : Pattern) (t : Text) : Bool :=
  (p.find? t).isSome

/-- The matches that begin at or after `next`, with `last` the end of the match before them. -/
def matchesFrom (p : Pattern) (before : Option Char) (place next : Nat) (last : Option Nat) (rest : Text) :
    List Match :=
  let found :=
    if place < next then none
    else (p.matchAt? ⟨before, place, rest⟩).filter fun m => !(m.span.size == 0 && last == some place)
  let next := (found.map Match.stop).getD next
  let last := if found.isSome then some next else last
  let later := match rest with
    | [] => []
    | c :: r => matchesFrom p (some c) (place + 1) next last r
  found.toList ++ later

def matchList (p : Pattern) (t : Text) : List Match :=
  p.matchesFrom none 0 0 none t

def spans (p : Pattern) (t : Text) : List Span :=
  (p.matchList t).map Match.span

end Pattern
end WikiEntry
