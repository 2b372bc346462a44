import WikiEntry.Text.Basic
import WikiEntry.Text.Classes

/-!
# Blanks and numbers in texts

Trimming by white space, and reading a number that is written in decimal digits.
-/

namespace WikiEntry
namespace Text

def trim (t : Text) : Text :=
  t.trimBy Chars.isBlank

def trimLeft (t : Text) : Text :=
  t.trimLeftBy Chars.isBlank

def trimRight (t : Text) : Text :=
  t.trimRightBy Chars.isBlank

def isBlank (t : Text) : Bool :=
  t.all Chars.isBlank

/-!
# Numbers
-/

/-- The value of a text of ASCII digits, the empty text included. -/
def digitsValue? (t : Text) : Option Nat :=
  t.foldl
    (fun value c => value.bind fun n => if c.isDigit then some (10 * n + (c.toNat - '0'.toNat)) else none)
    (some 0)

/-- Numbers above this bound are not read. -/
def numberBound : Nat :=
  1 <<< 64

/-- A number is written with at least one digit, leading zeros allowed, after an optional plus sign, and
lies below `numberBound`. -/
def readNumber? (t : Text) : Option Nat :=
  let digits := match t with
    | '+' :: r => r
    | _ => t
  if digits.isEmpty then none
  else (digitsValue? digits).filter (· < numberBound)

/-- Reads a number that is written in digits alone. -/
def readDigits? (t : Text) : Option Nat :=
  if t.all Char.isDigit then readNumber? t else none

def ofNumber (n : Nat) : Text :=
  Nat.toDigits 10 n

end Text
end WikiEntry
