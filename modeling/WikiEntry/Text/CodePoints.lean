import WikiEntry.Text.Basic

/-!
# Lists of code points

Large tables of characters are written as property tables are: code points in hexadecimal, single or two with
a hyphen between for a range, separated by blanks.
-/

namespace WikiEntry
namespace Text

def hexDigit? (c : Char) : Option Nat :=
  if c.isDigit then some (c.toNat - '0'.toNat)
  else if 'a' ≤ c ∧ c ≤ 'f' then some (c.toNat - 'a'.toNat + 10)
  else if 'A' ≤ c ∧ c ≤ 'F' then some (c.toNat - 'A'.toNat + 10)
  else none

/-- The value of a text of hexadecimal digits, of which there is at least one. -/
def hexValue? (t : Text) : Option Nat :=
  if t.isEmpty then none
  else t.foldl (fun value c => value.bind fun n => (hexDigit? c).map (16 * n + ·)) (some 0)

/-- The pieces of a text between its spaces and newlines. -/
def words (t : Text) : List Text :=
  let pieces : List Text :=
    t.foldr
      (fun c pieces =>
        if c = ' ' || c = '\n' then [] :: pieces
        else
          match pieces with
          | piece :: rest => (c :: piece) :: rest
          | [] => [[c]])
      []
  pieces.filter (!·.isEmpty)

end Text

namespace Chars

/-- The range that a word of a table writes. -/
def readRange? (word : Text) : Option (Nat × Nat) :=
  match Text.splitOnce? word ['-'] with
  | some (low, high) => do return (← Text.hexValue? low, ← Text.hexValue? high)
  | none => (Text.hexValue? word).map fun n => (n, n)

def readRanges (table : String) : List (Nat × Nat) :=
  (Text.words table.toList).filterMap readRange?

end Chars
end WikiEntry
