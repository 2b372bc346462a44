import WikiEntry.Text.Basic
import WikiEntry.Text.Classes
import WikiEntry.Text.CaseTable

/-!
# Lower and upper case

The full case mappings of texts, the variants of a character under simple case folding, and the comparison
that ignores the case of ASCII letters only.
-/

namespace WikiEntry
namespace Chars

def lower (c : Char) : Text :=
  if c.toNat < 128 then [c.toLower]
  else
    match lowerSpecial.lookup c.toNat with
    | some image => image.map Char.ofNat
    | none => [Char.ofNat (mapRuns lowerRuns c.toNat)]

def upper (c : Char) : Text :=
  if c.toNat < 128 then [c.toUpper]
  else
    match upperSpecial.lookup c.toNat with
    | some image => image.map Char.ofNat
    | none => [Char.ofNat (mapRuns upperRuns c.toNat)]

/-- The character that stands for all variants of `c`. -/
def fold (c : Char) : Char :=
  if c.toNat < 128 then c.toLower else Char.ofNat (mapRuns foldRuns c.toNat)

/-- The code points that a run maps to `n`. -/
def CaseRun.preimage (r : CaseRun) (n : Nat) : List Nat :=
  let m := (n - r.shift).toNat
  if r.holds m && r.image m == n then [m] else []

/-- The characters outside ASCII that fold to an ASCII letter: the Kelvin sign and the long s. -/
def asciiVariants : Char → List Char
  | 'k' => ['\u212a']
  | 's' => ['ſ']
  | _ => []

/-- All characters that fold to the same character as `c`. -/
def variants (c : Char) : List Char :=
  if c.toNat < 128 then
    if c.isAlpha then c.toLower :: c.toUpper :: asciiVariants c.toLower else [c]
  else
    let f := fold c
    if f.toNat < 128 then f :: f.toUpper :: asciiVariants f
    else f :: (foldRuns.flatMap (·.preimage f.toNat)).map Char.ofNat

/-- The nearest character that case mapping does not look through is a cased one. -/
def nearestIsCased (t : Text) : Bool :=
  match List.find? (fun c => !inRanges caseIgnorableRanges c) t with
  | some c => inRanges casedRanges c
  | none => false

end Chars

namespace Text

/-- A capital sigma at the end of a word has a lower case of its own; `before` is the text before the
rest, backwards. -/
def lowerAfter (before : Text) : Text → Text
  | [] => []
  | c :: r =>
      let image :=
        if c = 'Σ' then
          if Chars.nearestIsCased before && !Chars.nearestIsCased r then ['ς'] else ['σ']
        else Chars.lower c
      image ++ lowerAfter (c :: before) r

def lower (t : Text) : Text :=
  lowerAfter [] t

def upper (t : Text) : Text :=
  t.flatMap Chars.upper

/-- The text with its first character in upper case. -/
def capitalize : Text → Text
  | [] => []
  | c :: r => Chars.upper c ++ r

/-- Equal up to the case of ASCII letters. -/
def sameIgnoringCase (s t : Text) : Bool :=
  s.map Char.toLower == t.map Char.toLower

end Text
end WikiEntry
