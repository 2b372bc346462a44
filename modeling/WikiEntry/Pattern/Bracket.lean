import WikiEntry.Pattern.Escape

/-!
# Bracketed classes

A class in brackets lists characters, ranges, named classes and further classes in brackets.  Lists may be
joined by the operators for intersection, difference and symmetric difference, which bind from the left.
-/

namespace WikiEntry
namespace Pattern

/-- A set that was read, and how deeply its notation is nested. -/
structure ClassItem where
  set : CharSet
  depth : Nat

inductive SetOperator where
  | inter
  | difference
  | symmetricDifference

namespace SetOperator

def apply : SetOperator → CharSet → CharSet → CharSet
  | inter, a, b => .inter a b
  | difference, a, b => .difference a b
  | symmetricDifference, a, b => .symmetricDifference a b

end SetOperator

namespace ClassItem

def ofChar (c : Char) : ClassItem :=
  ⟨.char c, 0⟩

def ofList : List ClassItem → ClassItem
  | [] => ⟨.empty, 0⟩
  | [item] => item
  | items => ⟨.anyOf (items.reverse.map ClassItem.set), (items.map ClassItem.depth).foldl max 0 + 1⟩

/-- What is on the left of an operator. -/
abbrev Pending := Option (ClassItem × SetOperator)

/-- The list read last, together with what is on its left. -/
def finish (f : Flags) (pending : Pending) (items : List ClassItem) : ClassItem :=
  let right := ofList items
  match pending with
  | none => right
  | some (left, op) => ⟨op.apply (f.fold left.set) (f.fold right.set), max left.depth right.depth + 1⟩

/-!
# Named classes
-/

def namedClass? (name : Text) : Option CharSet :=
  match String.ofList name with
  | "alnum" => some (.anyOf [.range '0' '9', .range 'A' 'Z', .range 'a' 'z'])
  | "alpha" => some (.anyOf [.range 'A' 'Z', .range 'a' 'z'])
  | "ascii" => some (.range '\x00' '\x7f')
  | "blank" => some (.anyOf [.char '\t', .char ' '])
  | "cntrl" => some (.anyOf [.range '\x00' '\x1f', .char '\x7f'])
  | "digit" => some (.range '0' '9')
  | "graph" => some (.range '!' '~')
  | "lower" => some (.range 'a' 'z')
  | "print" => some (.range ' ' '~')
  | "punct" => some (.anyOf [.range '!' '/', .range ':' '@', .range '[' '\x60', .range '\x7b' '~'])
  | "space" => some (.anyOf [.range '\t' '\r', .char ' '])
  | "upper" => some (.range 'A' 'Z')
  | "word" => some (.anyOf [.range '0' '9', .range 'A' 'Z', .char '_', .range 'a' 'z'])
  | "xdigit" => some (.anyOf [.range '0' '9', .range 'A' 'F', .range 'a' 'f'])
  | _ => none

/-- A named class after its bracket: the set, whether it is denied, and the rest.  What is no named class is
read as a class in brackets. -/
def readNamed? (t : Text) : Option (CharSet × Bool × Text) :=
  match t with
  | ':' :: r =>
      let (isDenied, r) := match r with
        | '^' :: r => (true, r)
        | _ => (false, r)
      match r.span (· ≠ ':') with
      | (name, ':' :: ']' :: r) => (namedClass? name).map (·, isDenied, r)
      | _ => none
  | _ => none

/-!
# Items
-/

/-- One end of a range, or an item that cannot be one. -/
def readPart (f : Flags) : Text → Option (Escape × Text)
  | [] => none
  | '\\' :: r => Escape.read f r
  | c :: r => some (.char c, r)

def char? (f : Flags) (c : Char) : Option CharSet :=
  if f.asciiOnly && 128 ≤ c.toNat then none else some (.char c)

def readItem (f : Flags) (t : Text) : Option (ClassItem × Text) := do
  let (low, r) ← readPart f t
  let isRange := match f.skip r with
    | '-' :: r => f.peek r != some ']' && f.peek r != some '-'
    | _ => false
  if isRange then
    let (high, r) ← readPart f (f.skip ((f.skip r).drop 1))
    match low, high with
    | .char a, .char b =>
        if a.toNat ≤ b.toNat then
          let _ ← char? f b
          return (⟨.range a b, 0⟩, r)
        else none
    | _, _ => none
  else
    match low with
    | .char c => return (⟨← char? f c, 0⟩, r)
    | .set s => return (⟨s, 0⟩, r)
    | .anchor _ => none

/-!
# Classes
-/

/-- Hyphens at the beginning of a class stand for themselves. -/
def readHyphens (f : Flags) : (length : Nat) → List ClassItem → Text → List ClassItem × Text
  | 0, items, t => (items, t)
  | length + 1, items, t =>
      match t with
      | '-' :: r => readHyphens f length (ofChar '-' :: items) (f.skip r)
      | _ => (items, t)

/-- What stands at the beginning of a class: the sign for the complement, and characters that have a meaning of
their own further on. -/
def readOpening (f : Flags) (t : Text) : Bool × List ClassItem × Text :=
  let (isComplement, r) := match f.skip t with
    | '^' :: r => (true, f.skip r)
    | r => (false, r)
  match readHyphens f r.length [] r with
  | ([], ']' :: r) => (isComplement, [ofChar ']'], r)
  | (items, r) => (isComplement, items, r)

def close? (f : Flags) (isComplement : Bool) (item : ClassItem) : Option ClassItem :=
  (f.close? isComplement item.set).map (⟨·, item.depth + 1⟩)

/-- Reads items up to the closing bracket; `items` are those so far, the last one first.  Each step reads a
character, so the length of the text bounds their number. -/
def readItems (f : Flags) : (length : Nat) → Pending → List ClassItem → Text → Option (ClassItem × Text)
  | 0, _, _, _ => none
  | length + 1, pending, items, t =>
      let operator (op : SetOperator) (r : Text) : Option (ClassItem × Text) :=
        readItems f length (some (finish f pending items, op)) [] r
      match f.skip t with
      | [] => none
      | ']' :: r => some (finish f pending items, r)
      | '&' :: '&' :: r => operator .inter r
      | '-' :: '-' :: r => operator .difference r
      | '~' :: '~' :: r => operator .symmetricDifference r
      | '[' :: r =>
          match readNamed? r with
          | some (set, isDenied, r) => do
              readItems f length pending (⟨← f.close? isDenied set, 0⟩ :: items) r
          | none => do
              let (isComplement, inner, r) := readOpening f r
              let (item, r) ← readItems f length none inner r
              readItems f length pending ((← close? f isComplement item) :: items) r
      | c :: r => do
          let (item, r) ← readItem f (c :: r)
          readItems f length pending (item :: items) r

def read (f : Flags) (t : Text) : Option (ClassItem × Text) := do
  let (isComplement, items, r) := readOpening f t
  let (item, r) ← readItems f (t.length + 1) none items r
  return (← close? f isComplement item, r)

end ClassItem
end Pattern
end WikiEntry
