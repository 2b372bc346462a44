import WikiEntry.Pattern.Build

/-!
# Flags of the notation

The flags are `i` (ignore case), `m` (anchors at lines), `s` (the dot reads line ends too), `R` (carriage returns
end lines too), `U` (swap greedy and lazy), `u` (classes beyond ASCII, on by default) and `x` (blanks and
comments between the parts are skipped).
-/

namespace WikiEntry
namespace Pattern

structure Flags where
  anyCase : Bool := false
  byLine : Bool := false
  dotAll : Bool := false
  breaks : Bool := false
  swapGreed : Bool := false
  asciiOnly : Bool := false
  spaced : Bool := false

namespace Flags

def set (f : Flags) (on : Bool) : Char → Option Flags
  | 'i' => some { f with anyCase := on }
  | 'm' => some { f with byLine := on }
  | 's' => some { f with dotAll := on }
  | 'R' => some { f with breaks := on }
  | 'U' => some { f with swapGreed := on }
  | 'u' => some { f with asciiOnly := !on }
  | 'x' => some { f with spaced := on }
  | _ => none

/-- Sets the flags that a word names, those behind a hyphen off.  No flag is named twice, and a hyphen is
followed by a flag. -/
def named? (f : Flags) (word : Text) : Option Flags :=
  let (on, rest) := word.span (· ≠ '-')
  let off := rest.drop 1
  if (!rest.isEmpty && off.isEmpty) || !decide (on ++ off).Nodup then none
  else do
    let f ← on.foldlM (fun (f : Flags) c => f.set true c) f
    off.foldlM (fun (f : Flags) c => f.set false c) f

/-!
# Blanks and comments
-/

def skipBlanks : (inComment : Bool) → Text → Text
  | _, [] => []
  | true, c :: r => skipBlanks (c ≠ '\n') r
  | false, c :: r =>
      if Chars.isBlank c then skipBlanks false r else if c = '#' then skipBlanks true r else c :: r

/-- The rest of the notation from the next character that counts. -/
def skip (f : Flags) (t : Text) : Text :=
  if f.spaced then skipBlanks false t else t

/-- The next character that counts; a comment is only looked through up to its first character. -/
def peek (f : Flags) (t : Text) : Option Char :=
  if f.spaced then
    match t.dropWhile Chars.isBlank with
    | '#' :: r => (r.dropWhile Chars.isBlank).head?
    | r => r.head?
  else t.head?

/-- What stands before a closing brace, without what is skipped, and the rest behind the brace. -/
def readBraced (f : Flags) : (inComment : Bool) → Text → Option (Text × Text)
  | _, [] => none
  | true, c :: r => readBraced f (c ≠ '\n') r
  | false, c :: r =>
      if f.spaced && Chars.isBlank c then readBraced f false r
      else if f.spaced && c = '#' then readBraced f true r
      else if c = '\x7d' then some ([], r)
      else (readBraced f false r).map fun (inner, r) => (c :: inner, r)

/-!
# Sets under flags
-/

/-- The set with all variants of its characters, if case is ignored. -/
def fold (f : Flags) (s : CharSet) : CharSet :=
  if !f.anyCase then s else if f.asciiOnly then .anyAsciiCase s else .anyCase s

/-- The complement of a set.  A set of ASCII characters has no complement. -/
def complement? (f : Flags) (s : CharSet) : Option CharSet :=
  if f.asciiOnly then none else some (.complement s)

/-- The set, or its complement, with case ignored if it is to be. -/
def close? (f : Flags) (isComplement : Bool) (s : CharSet) : Option CharSet :=
  if isComplement then f.complement? (f.fold s) else some (f.fold s)

def literal (f : Flags) (c : Char) : Pattern :=
  one (if Chars.variants c = [c] then .char c else f.fold (.char c))

end Flags
end Pattern
end WikiEntry
