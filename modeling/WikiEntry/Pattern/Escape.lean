import WikiEntry.Pattern.Flags
import WikiEntry.Pattern.Named
import WikiEntry.Text.CodePoints

/-!
# Escapes of the notation

What a backslash and the characters behind it stand for: a character, a set of characters or an anchor.
-/

namespace WikiEntry
namespace Pattern

inductive Escape where
  | char (c : Char)
  | set (s : CharSet)
  | anchor (a : Anchor)
  deriving DecidableEq, Repr

namespace Escape

/-!
# Characters by their code points
-/

def readDigits (f : Flags) : (count : Nat) → Text → Option (Text × Text)
  | 0, t => some ([], t)
  | count + 1, t =>
      match f.skip t with
      | [] => none
      | c :: r => (readDigits f count r).map fun (digits, r) => (c :: digits, r)

def charOf? (digits : Text) : Option Char :=
  (Text.hexValue? digits).bind fun n => if n.isValidChar then some (Char.ofNat n) else none

/-- A character given by its code point, either in braces or with a fixed number of digits.  Two digits stand
for a byte, which is a character of its own only in ASCII. -/
def readHex (f : Flags) (count : Nat) (t : Text) : Option (Escape × Text) :=
  match f.skip t with
  | '\x7b' :: r => do
      let (digits, r) ← f.readBraced false r
      return (.char (← charOf? digits), r)
  | r => do
      let (digits, r) ← readDigits f count r
      let c ← charOf? digits
      if f.asciiOnly && count = 2 && 128 ≤ c.toNat then none else return (.char c, r)

/-!
# Sets by their names
-/

/-- The set that is named in braces: by a name alone, or by a property and its value.  However the two are
joined, the set is that of the characters with the value; only a capital letter in front asks for the others. -/
def propertyOf? (name : Text) : Option CharSet :=
  match (name.splitOnce? "!=").or ((name.splitOnce? ":").or (name.splitOnce? "=")) with
  | some (name, value) => CharSet.ofValue? name value
  | none => CharSet.ofName? name

def readProperty (f : Flags) (isComplement : Bool) (t : Text) : Option (Escape × Text) := do
  let (name, r) ← match f.skip t with
    | [] => none
    | '\x7b' :: r => f.readBraced false r
    | c :: r => if c = '\\' then none else some ([c], r)
  let named ← propertyOf? name
  if f.asciiOnly then none else return (.set (← f.close? isComplement named), r)

/-- The classes of decimal digits, blanks and word characters. -/
def class? (f : Flags) : Char → Option CharSet
  | 'd' => some (if f.asciiOnly then .range '0' '9' else .digit)
  | 's' => some (if f.asciiOnly then .anyOf [.range '\t' '\r', .char ' '] else .blank)
  | 'w' =>
      some
        (if f.asciiOnly then .anyOf [.range '0' '9', .range 'A' 'Z', .char '_', .range 'a' 'z'] else .word)
  | 'D' => f.complement? .digit
  | 'S' => f.complement? .blank
  | 'W' => f.complement? .word
  | _ => none

/-!
# Anchors
-/

def wordTest? (name : Text) : Option WordTest :=
  match String.ofList name with
  | "start" => some .start
  | "end" => some .stop
  | "start-half" => some .noneBefore
  | "end-half" => some .noneAfter
  | _ => none

/-- What stands behind the letter of a word test: a name in braces, unless the braces hold a number. -/
def readWordTest (f : Flags) (t : Text) : Option (Escape × Text) :=
  let plain : Option (Escape × Text) := some (.anchor (.word f.asciiOnly .edge), t)
  match t with
  | '\x7b' :: r =>
      match f.skip r with
      | [] => none
      | c :: _ =>
          if c.isAlpha || c = '-' then do
            let (name, r) ← f.readBraced false r
            return (.anchor (.word f.asciiOnly (← wordTest? name)), r)
          else plain
  | _ => plain

/-!
# Reading
-/

def control? : Char → Option Char
  | 'n' => some '\n'
  | 't' => some '\t'
  | 'r' => some '\r'
  | 'a' => some '\x07'
  | 'f' => some '\x0c'
  | 'v' => some '\x0b'
  | _ => none

def read (f : Flags) : Text → Option (Escape × Text)
  | [] => none
  | 'x' :: r => readHex f 2 r
  | 'u' :: r => readHex f 4 r
  | 'U' :: r => readHex f 8 r
  | 'p' :: r => readProperty f false r
  | 'P' :: r => readProperty f true r
  | 'A' :: r => some (.anchor .textStart, r)
  | 'z' :: r => some (.anchor .textEnd, r)
  | 'b' :: r => readWordTest f r
  | 'B' :: r => some (.anchor (.word f.asciiOnly .noEdge), r)
  | '<' :: r => some (.anchor (.word f.asciiOnly .start), r)
  | '>' :: r => some (.anchor (.word f.asciiOnly .stop), r)
  | c :: r =>
      match control? c with
      | some control => some (.char control, r)
      | none =>
          if c.isAlphanum then (class? f c).map (.set ·, r)
          else if c.toNat < 128 then some (.char c, r)
          else none

end Escape
end Pattern
end WikiEntry
