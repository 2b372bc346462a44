import WikiEntry.Template.Parse
import WikiEntry.Region.Replacement

/-!
# Templates in a text

The templates of a text, nested ones included, in the order in which they begin, and the replacement of
templates by new text.
-/

namespace WikiEntry
namespace Template

/-- The templates of `t`, which begins at `offset` of a text with the given hidden regions.  A reference to
a parameter in triple braces is no template.  Each level of nesting is shorter by its braces. -/
def spansFrom (hidden : List Span) : (levels : Nat) → (offset : Nat) → Text → List Span
  | 0, _, _ => []
  | levels + 1, offset, t =>
      (Region.templates t).flatMap fun s =>
        if Region.covers hidden (offset + s.start) then []
        else if Text.startsWith (t.drop s.start) "\x7b\x7b\x7b"
            && Text.startsWith (t.drop s.stop) "\x7d" then []
        else
          s.shift offset
            :: spansFrom hidden levels (offset + s.start + 2) (t.slice ⟨s.start + 2, s.stop - 2⟩)

/-- The templates outside comments and unparsed text, by their beginning. -/
def spans (t : Text) : List Span :=
  spansFrom (Region.hidden t) (t.length + 1) 0 t

def located (t : Text) : List (Span × Template) :=
  (spans t).filterMap fun s => (parse? (t.slice s)).map (s, ·)

def locatedNamed (t : Text) (name : Text) : List (Span × Template) :=
  (located t).filter fun x => x.2.isNamed name

/-!
# Replacement
-/

/-- The edits of a replacer with a state that sees the templates that begin at or after `next`. -/
def editsWith {σ : Type} (replacer : σ → Template → Option Text × σ) :
    (state : σ) → (next : Nat) → List (Span × Template) → List Edit × σ
  | state, _, [] => ([], state)
  | state, next, (s, u) :: rest =>
      if s.start < next then editsWith replacer state next rest
      else
        match replacer state u with
        | (some text, state) =>
            let (edits, state) := editsWith replacer state s.stop rest
            (⟨s, text⟩ :: edits, state)
        | (none, state) => editsWith replacer state next rest

/-- Replaces templates, from the left, by what the replacer answers; templates inside a replaced one are
not looked at.  The last state is returned too. -/
def replaceWith {σ : Type} (t : Text) (replacer : σ → Template → Option Text × σ) (state : σ) : Text × σ :=
  let (edits, state) := editsWith replacer state 0 (located t)
  (Edit.applyAll t edits, state)

def replace (t : Text) (replacer : Template → Option Text) : Text :=
  (replaceWith t (fun _ u => (replacer u, ())) ()).1

def replaceNamed (t : Text) (name : Text) (replacer : Template → Option Text) : Text :=
  replace t fun u => if u.isNamed name then replacer u else none

end Template
end WikiEntry
