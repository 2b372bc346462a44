import WikiEntry.Pattern.Bracket
import WikiEntry.Pattern.Combine

/-!
# Reading patterns

The notation in which patterns are written in configuration files: literals, escapes, character classes, groups,
alternatives, greedy and lazy repetitions, anchors and flags.  A text that is not in the notation, is nested too
deeply or writes too large a pattern is read as `none`.
-/

namespace WikiEntry
namespace Pattern

/-!
# Parts

A part remembers how deeply its notation is nested.  Flags are parts as well, which cannot be repeated.
-/

structure Part where
  pattern : Pattern
  depth : Nat
  isFlags : Bool := false

namespace Part

/-- Nothing is nested more deeply. -/
def depthLimit : Nat :=
  250

def flags : Part :=
  ⟨empty, 0, true⟩

/-- One part around some others, unless there is only one. -/
def around (combine : List Pattern → Pattern) (parts : List Part) : Part :=
  match parts with
  | [part] => ⟨combine [part.pattern], part.depth, false⟩
  | _ =>
      ⟨combine (parts.map Part.pattern),
        if parts.isEmpty then 0 else (parts.map Part.depth).foldl max 0 + 1, false⟩

end Part

/-!
# Single parts
-/

/-- A part that is neither a group nor an operator. -/
def readPart (f : Flags) : Text → Option (Part × Text)
  | [] => none
  | '.' :: r =>
      if f.asciiOnly then none
      else
        some (⟨one (if f.dotAll then .all else if f.breaks then .noneOf ['\r', '\n'] else .inLine), 0, false⟩, r)
  | '^' :: r =>
      some (⟨anchor (if !f.byLine then .textStart else if f.breaks then .breakStart else .lineStart), 0, false⟩, r)
  | '$' :: r =>
      some (⟨anchor (if !f.byLine then .textEnd else if f.breaks then .breakEnd else .lineEnd), 0, false⟩, r)
  | '[' :: r => (ClassItem.read f r).map fun (item, r) => (⟨one item.set, item.depth, false⟩, r)
  | '\\' :: r =>
      (Escape.read f r).map fun (escape, r) =>
        match escape with
        | .char c => (⟨f.literal c, 0, false⟩, r)
        | .set s => (⟨one s, 0, false⟩, r)
        | .anchor a => (⟨anchor a, 0, false⟩, r)
  | c :: r => some (⟨f.literal c, 0, false⟩, r)

/-!
# Repetition operators
-/

/-- The counts of repetitions are below this bound. -/
def countBound : Nat :=
  1 <<< 32

def readCount? (t : Text) : Option Nat :=
  (Text.readDigits? t.trim).filter (· < countBound)

/-- The least and the most number of rounds, from what stands between braces. -/
def readBounds? (t : Text) : Option (Nat × Option Nat) :=
  match t.splitOnce? "," with
  | none => (readCount? t).map fun n => (n, some n)
  | some (low, high) => do
      let n ← readCount? low
      if high.isEmpty then return (n, none)
      else
        let m ← readCount? high
        if n ≤ m then return (n, some m) else none

/-- Reads a repetition operator: the least and the most number of rounds, whether it is greedy, and the rest. -/
def readOperator (f : Flags) (t : Text) : Option (Nat × Option Nat × Bool × Text) :=
  let withGreed (least : Nat) (most : Option Nat) (r : Text) : Option (Nat × Option Nat × Bool × Text) :=
    match r with
    | '?' :: r => some (least, most, f.swapGreed, r)
    | _ => some (least, most, !f.swapGreed, r)
  match t with
  | '*' :: r => withGreed 0 none r
  | '+' :: r => withGreed 1 none r
  | '?' :: r => withGreed 0 (some 1) r
  | '\x7b' :: r => do
      let (inner, r) ← f.readBraced false r
      let (least, most) ← readBounds? inner
      withGreed least most (f.skip r)
  | _ => none

def isOperator (c : Char) : Bool :=
  c = '*' || c = '+' || c = '?' || c = '\x7b'

def Part.repeated? (part : Part) (greedy : Bool) (least : Nat) (most : Option Nat) : Option Part :=
  if part.isFlags || sizeLimit < layoutCount least most * part.pattern.layoutSize then none
  else some ⟨Pattern.repeated greedy least most part.pattern, part.depth + 1, false⟩

/-!
# Groups
-/

inductive GroupHead where
  | plain (f : Flags)
  | capturing (name : Option Text)
  | flagsOnly (f : Flags)

def isGroupName (name : Text) : Bool :=
  match name with
  | [] => false
  | c :: r =>
      (c = '_' || Chars.isAlphabetic c)
        && r.all fun c => c = '_' || c = '.' || c = '[' || c = ']' || Chars.isAlphanumeric c

def readGroupHead (f : Flags) (t : Text) : Option (GroupHead × Text) :=
  let named (r : Text) : Option (GroupHead × Text) :=
    match r.span (· ≠ '>') with
    | (name, _ :: r) => if isGroupName name then some (.capturing (some name), r) else none
    | (_, []) => none
  match f.skip t with
  | '?' :: 'P' :: '<' :: r => named r
  | '?' :: '<' :: r => named r
  | '?' :: r => do
      let (word, r) := r.span fun c => c ≠ ':' && c ≠ ')'
      let g ← f.named? word
      match r with
      | ':' :: r => return (.plain g, r)
      | _ :: r => if word.isEmpty then none else return (.flagsOnly g, r)
      | [] => none
  | r => some (.capturing none, r)

/-- The groups opened so far: how many, and the names among them. -/
structure Groups where
  count : Nat
  names : List Text

namespace Groups

/-- Opens a group; no name is used twice. -/
def open? (g : Groups) : GroupHead → Option Groups
  | .capturing none => some { g with count := g.count + 1 }
  | .capturing (some name) => if g.names.contains name then none else some ⟨g.count + 1, name :: g.names⟩
  | _ => some g

end Groups

/-!
# Alternatives
-/

/-- The parts read so far on one level, the last one first, and the alternatives before them. -/
structure Level where
  finished : List Part
  parts : List Part

namespace Level

def push (l : Level) (part : Part) : Level :=
  { l with parts := part :: l.parts }

def branches (l : Level) : List Part :=
  .around sequence l.parts.reverse :: l.finished

def part (l : Level) : Part :=
  .around alternatives l.branches.reverse

end Level

/-- Reads alternatives up to a closing parenthesis or the end.  Each step reads a character, so the length of the
text bounds their number. -/
def readLevel : (length : Nat) → Flags → Groups → Level → Text → Option (Part × Groups × Text)
  | 0, _, _, _, _ => none
  | length + 1, f, groups, level, t =>
      match f.skip t with
      | [] => some (level.part, groups, [])
      | ')' :: r => some (level.part, groups, ')' :: r)
      | '|' :: r => readLevel length f groups ⟨level.branches, []⟩ r
      | '(' :: r => do
          let (head, r) ← readGroupHead f r
          match head with
          | .flagsOnly g => readLevel length g groups (level.push .flags) r
          | _ =>
              let opened ← groups.open? head
              let (inner, close) := match head with
                | .plain g => (g, id)
                | _ => (f, group opened.count)
              let (part, groups, r) ← readLevel length inner opened ⟨[], []⟩ r
              match r with
              | ')' :: r => readLevel length f groups (level.push ⟨close part.pattern, part.depth + 1, false⟩) r
              | _ => none
      | c :: r =>
          if isOperator c then
            match level.parts with
            | [] => none
            | part :: parts => do
                let (least, most, greedy, r) ← readOperator f (c :: r)
                readLevel length f groups { level with parts := (← part.repeated? greedy least most) :: parts } r
          else do
            let (part, r) ← readPart f (c :: r)
            readLevel length f groups (level.push part) r

def read? (t : Text) : Option Pattern :=
  match readLevel (t.length + 1) {} ⟨0, []⟩ ⟨[], []⟩ t with
  | some (part, _, []) =>
      if part.depth ≤ Part.depthLimit ∧ part.pattern.layoutSize ≤ sizeLimit then some part.pattern else none
  | _ => none

end Pattern
end WikiEntry
