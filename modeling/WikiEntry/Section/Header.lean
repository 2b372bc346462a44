import WikiEntry.Region.Replacement
import WikiEntry.Error

/-!
# Header lines

A header line is a header between equally many equals signs on either side, with comments around it.  The
number of signs is the level of the header; of several readings the deepest counts.
-/

namespace WikiEntry

/-- The blanks between the signs and the header. -/
inductive HeaderFormat where
  | padded (lead trail : Nat)
  | blank
  deriving DecidableEq, Repr

namespace HeaderFormat

def spaced : HeaderFormat :=
  padded 1 1

def tight : HeaderFormat :=
  padded 0 0

/-- The format of what stands between the signs; only spaces count. -/
def ofRaw (raw : Text) : HeaderFormat :=
  if raw.isBlank then blank
  else padded (raw.takeWhile (· == ' ')).length (raw.reverse.takeWhile (· == ' ')).length

def render (header : Text) : HeaderFormat → Text
  | padded lead trail => List.replicate lead ' ' ++ header ++ List.replicate trail ' '
  | blank => " "

end HeaderFormat

structure HeaderLine where
  level : Nat
  header : Text
  format : HeaderFormat
  before : Text
  after : Text
  deriving DecidableEq, Repr

namespace HeaderLine

def comment : Pattern :=
  "<!--" ++ .few .inLine ++ "-->"

def signs (level : Nat) : Pattern :=
  .lit (List.replicate level '=')

/-- A line with a header of the level: comments, signs, the header, signs, comments and blanks. -/
def pattern (level : Nat) : Pattern :=
  .whole (.group 1 (.rounds comment) ++ signs level ++ .group 2 (.some1 .inLine) ++ signs level
    ++ .group 3 (.rounds (.alt comment (.some1 .blank))))

def ofLevel? (line : Text) (level : Nat) : Option HeaderLine :=
  ((pattern level).find? line).map fun m =>
    let raw := m.text line 2
    ⟨level, raw.trim, .ofRaw raw, m.text line 1, m.text line 3⟩

/-- The levels from the deepest to the top. -/
def levels : List Nat :=
  [6, 5, 4, 3, 2, 1]

def read (line : Text) : Except EntryError HeaderLine :=
  match levels.findSome? (ofLevel? line) with
  | some h => .ok h
  | none => .error (.structural (.notAHeader line))

def render (h : HeaderLine) : Text :=
  let signs := List.replicate h.level '='
  h.before ++ signs ++ h.format.render h.header ++ signs ++ h.after

end HeaderLine
end WikiEntry
