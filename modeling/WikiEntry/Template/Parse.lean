import WikiEntry.Template.Basic
import WikiEntry.Region.Union

/-!
# Reading templates

The body of a template is split at the bars and equals signs that stand at its top level, which means
outside comments and unparsed text and outside nested templates and links.
-/

namespace WikiEntry
namespace Template

/-- Marks the characters of a body that stand at the top level.  Braces and square brackets share one
`depth`, and the next `skip` characters belong to a pair of brackets that was read already. -/
def markFrom (hidden : List Span) (place depth skip : Nat) : Text → List (Char × Bool)
  | [] => []
  | c :: r =>
      match skip with
      | skip + 1 => (c, false) :: markFrom hidden (place + 1) depth skip r
      | 0 =>
          if Region.covers hidden place then (c, false) :: markFrom hidden (place + 1) depth 0 r
          else if (c = '\x7b' ∧ r.head? = some '\x7b') ∨ (c = '[' ∧ r.head? = some '[') then
            (c, false) :: markFrom hidden (place + 1) (depth + 1) 1 r
          else if 0 < depth ∧ ((c = '\x7d' ∧ r.head? = some '\x7d') ∨ (c = ']' ∧ r.head? = some ']')) then
            (c, false) :: markFrom hidden (place + 1) (depth - 1) 1 r
          else (c, depth == 0) :: markFrom hidden (place + 1) depth 0 r

def mark (body : Text) : List (Char × Bool) :=
  markFrom (Region.hidden body) 0 0 0 body

def splitBars : List (Char × Bool) → List (List (Char × Bool))
  | [] => [[]]
  | m :: r =>
      match splitBars r with
      | [] => [[m]]
      | piece :: pieces => if m = ('|', true) then [] :: piece :: pieces else (m :: piece) :: pieces

def unmark (marked : List (Char × Bool)) : Text :=
  marked.map Prod.fst

/-- A piece with a top-level equals sign is a named parameter. -/
def paramsOf (index : Nat) : List (List (Char × Bool)) → List Param
  | [] => []
  | piece :: pieces =>
      match piece.span (· ≠ ('=', true)) with
      | (key, _ :: value) => .named (unmark key) (unmark value) :: paramsOf index pieces
      | (value, []) => .positional index (unmark value) :: paramsOf (index + 1) pieces

def ofBody (body : Text) : Template :=
  match splitBars (mark body) with
  | [] => ofName []
  | name :: pieces => ⟨unmark name, paramsOf 1 pieces⟩

/-- A template reaches from an opening to the closing that balances it at the very end. -/
def parse? (t : Text) : Option Template :=
  if t.startsWith "\x7b\x7b" && t.endsWith "\x7d\x7d"
      && (Region.templates t).head? == some ⟨0, t.length⟩ then
    some (ofBody (t.slice ⟨2, t.length - 2⟩))
  else none

end Template
end WikiEntry
