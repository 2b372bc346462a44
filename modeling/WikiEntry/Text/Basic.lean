/-!
# Texts

A text is the list of its characters, and a place in it is the number of characters before it.  With lists
every place is the boundary of a character, cutting is `take` and `drop`, and the lemmas about lists apply.
This module holds the searching, cutting and joining that the rules of the library are phrased in.
-/

namespace WikiEntry

abbrev Text := List Char

instance : Coe String Text := ⟨String.toList⟩

namespace Text

def listOf (ts : List String) : List Text :=
  ts.map String.toList

/-- The table of a list of values with literals as keys. -/
def keyed {α : Type} (ts : List (String × α)) : List (Text × α) :=
  ts.map fun p => (p.1.toList, p.2)

/-- The pairs of texts of a list of pairs of literals. -/
def pairs (ts : List (String × String)) : List (Text × Text) :=
  ts.map fun p => (p.1.toList, p.2.toList)

/-!
# Beginnings and ends
-/

def startsWith (t p : Text) : Bool :=
  p.isPrefixOf t

def endsWith (t p : Text) : Bool :=
  p.isSuffixOf t

/-- What follows `p` at the beginning of `t`. -/
def after? : (p t : Text) → Option Text
  | [], t => some t
  | _ :: _, [] => none
  | a :: p, c :: t => if a = c then after? p t else none

/-- What precedes `p` at the end of `t`. -/
def before? (p t : Text) : Option Text :=
  (after? p.reverse t.reverse).map List.reverse

theorem after?_eq_some_iff {p t r : Text} : after? p t = some r ↔ t = p ++ r := by
  induction p generalizing t with
  | nil => simp [after?, eq_comm]
  | cons a p ih =>
      cases t with
      | nil => simp [after?]
      | cons c t =>
          by_cases h : a = c
          · simp [after?, h, ih]
          · simp [after?, h, Ne.symm h]

theorem before?_eq_some_iff {p t r : Text} : before? p t = some r ↔ t = r ++ p := by
  simp only [before?, Option.map_eq_some_iff, after?_eq_some_iff]
  constructor
  · rintro ⟨u, hu, rfl⟩
    simpa using congrArg List.reverse hu
  · rintro rfl
    exact ⟨r.reverse, by simp, by simp⟩

/-!
# Searching
-/

def find? (t p : Text) : Option Nat :=
  if t.startsWith p then some 0
  else
    match t with
    | [] => none
    | _ :: r => (find? r p).map (· + 1)

/-- The place of the first occurrence of `p` at or after `start`. -/
def findFrom? (t p : Text) (start : Nat) : Option Nat :=
  if start ≤ t.length then (find? (t.drop start) p).map (· + start) else none

def hasInfix (t p : Text) : Bool :=
  (find? t p).isSome

def findLast? (t p : Text) : Option Nat :=
  (find? t.reverse p.reverse).map fun n => t.length - n - p.length

/-- Cuts at every occurrence of `p`, from the left, each occurrence after the end of the one before it;
`skip` characters still belong to the last occurrence and `piece` is the current piece backwards. -/
def splitAtEach (p : Text) : (t : Text) → (skip : Nat) → (piece : Text) → List Text
  | [], _, piece => [piece.reverse]
  | _ :: r, skip + 1, piece => splitAtEach p r skip piece
  | c :: r, 0, piece =>
      if p.isPrefixOf (c :: r) then piece.reverse :: splitAtEach p r (p.length - 1) []
      else splitAtEach p r 0 (c :: piece)

/-- The pieces between the occurrences of a non-empty text. -/
def splitOn (t p : Text) : List Text :=
  splitAtEach p t 0 []

/-- How often `p` occurs without overlaps; the empty text is never counted. -/
def occurrences (t p : Text) : Nat :=
  if p.isEmpty then 0 else (t.splitOn p).length - 1

def joinWith (sep : Text) : List Text → Text
  | [] => []
  | [t] => t
  | t :: ts => t ++ sep ++ joinWith sep ts

/-- Puts `new` in the place of each occurrence of the non-empty text `old`. -/
def replace (t old new : Text) : Text :=
  joinWith new (t.splitOn old)

/-- The text before and after the first occurrence of `p`. -/
def splitOnce? (t p : Text) : Option (Text × Text) :=
  (t.find? p).map fun n => (t.take n, t.drop (n + p.length))

/-!
# Lines
-/

/-- The line before a newline, without a carriage return at its end. -/
def dropReturn (l : Text) : Text :=
  if l.getLast? = some '\r' then l.dropLast else l

/-- The lines of a text without their ends; a final line end starts no further line. -/
def lines (t : Text) : List Text :=
  let pieces := t.splitOn ['\n']
  pieces.dropLast.map dropReturn ++ (pieces.getLast?.filter (!·.isEmpty)).toList

/-- Gives every line the place at which it begins, with a newline between two lines. -/
def placesFrom (place : Nat) : List Text → List (Nat × Text)
  | [] => []
  | l :: ls => (place, l) :: placesFrom (place + l.length + 1) ls

def placedLines (t : Text) : List (Nat × Text) :=
  placesFrom 0 (t.splitOn ['\n'])

/-!
# Trimming
-/

def trimLeftBy (t : Text) (p : Char → Bool) : Text :=
  t.dropWhile p

def trimRightBy (t : Text) (p : Char → Bool) : Text :=
  (t.reverse.dropWhile p).reverse

def trimBy (t : Text) (p : Char → Bool) : Text :=
  trimRightBy (trimLeftBy t p) p

end Text
end WikiEntry
