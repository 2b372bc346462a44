import WikiEntry.Region.Union

/-!
# Template depth

Templates are taken out of a text one at a time, always the one whose opening comes last together with the
first closing behind it, and what was taken out is masked so that places stay valid.  The order in which
they come out shows how deep they are nested.
-/

namespace WikiEntry
namespace TemplateDepth

/-- The place of the last opening, moved one back where a third brace stands before it. -/
def lastOpening? (t : Text) : Option Nat :=
  (t.findLast? ['\x7b', '\x7b']).map fun last =>
    if 0 < last ∧ t[last - 1]? = some '\x7b' then last - 1 else last

/-- The last opening with the first closing behind at least one more character. -/
def innermost? (t : Text) : Option Span :=
  (lastOpening? t).bind fun start =>
    (t.findFrom? ['\x7d', '\x7d'] (start + 3)).map fun close => ⟨start, close + 2⟩

def mask (t : Text) (s : Span) : Text :=
  t.take s.start ++ List.replicate s.size '-' ++ t.drop s.stop

/-- The templates in the order in which they come out; each round masks an opening. -/
def peel : (rounds : Nat) → Text → List Span
  | 0, _ => []
  | rounds + 1, t =>
      match innermost? t with
      | none => []
      | some s => s :: peel rounds (mask t s)

def spans (t : Text) : List Span :=
  peel t.length t

/-- The longest chain of spans in which each encloses the one before it; `length` is the length of the
chain that ends in `last`. -/
def longestChain (last : Span) (length : Nat) : List Span → Nat
  | [] => length
  | s :: rest =>
      if s.start ≤ last.start ∧ last.stop ≤ s.stop then longestChain s (length + 1) rest
      else max length (longestChain s 1 rest)

/-- How deep templates are nested.  Of several templates inside one, only the last one counts. -/
def depth (t : Text) : Nat :=
  match spans t with
  | [] => 0
  | s :: rest => longestChain s 1 rest

/-!
# Unpaired delimiters
-/

def unpaired (t opening closing : Text) : Bool :=
  t.occurrences opening != t.occurrences closing

end TemplateDepth
end WikiEntry
