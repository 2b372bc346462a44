import WikiEntry.Pattern.Build

/-!
# Regions between delimiters

Three ways to find the regions that a pair of delimiters encloses: with nesting, where only the outermost
region counts; without nesting, where the first closing delimiter ends a region; and by the opening and
closing tags of an element.
-/

namespace WikiEntry
namespace Region

/-!
# Nested delimiters
-/

/-- Scans on from `place`, inside `depth` open delimiters, the outermost of which began at `start`; the next
`skip` characters belong to a delimiter that was read already. -/
def nestedFrom (opening closing : Text) (place depth start skip : Nat) : Text → List Span
  | [] => []
  | c :: r =>
      match skip with
      | skip + 1 => nestedFrom opening closing (place + 1) depth start skip r
      | 0 =>
          if opening.isPrefixOf (c :: r) then
            nestedFrom opening closing (place + 1) (depth + 1) (if depth = 0 then place else start)
              (opening.length - 1) r
          else if 0 < depth ∧ closing.isPrefixOf (c :: r) then
            if depth = 1 ∨ closing.isEmpty then
              ⟨start, place + closing.length⟩
                :: nestedFrom opening closing (place + 1) 0 start (closing.length - 1) r
            else nestedFrom opening closing (place + 1) (depth - 1) start (closing.length - 1) r
          else nestedFrom opening closing (place + 1) depth start 0 r

/-- The outermost balanced regions; one that is still open at the end is dropped.  An empty closing
delimiter stands before every character that does not open a region, and closes all that are open. -/
def nested (opening closing t : Text) : List Span :=
  nestedFrom opening closing 0 0 0 0 t

/-!
# Delimiters that do not nest
-/

/-- Scans on in the rest of the text, which begins at `place`.  Every round reads a delimiter. -/
def flatFrom (opening closing : Text) (toEnd : Bool) : (rounds : Nat) → (place : Nat) → Text → List Span
  | 0, _, _ => []
  | rounds + 1, place, rest =>
      match rest.splitOnce? opening with
      | none => []
      | some (before, inside) =>
          let start := place + before.length
          match inside.splitOnce? closing with
          | some (body, after) =>
              let stop := start + opening.length + body.length + closing.length
              ⟨start, stop⟩ :: flatFrom opening closing toEnd rounds stop after
          | none => if toEnd then [⟨start, place + rest.length⟩] else []

/-- The regions from an opening delimiter to the first closing one.  With `toEnd`, a region that is never
closed reaches to the end of the text. -/
def flat (opening closing : Text) (toEnd : Bool) (t : Text) : List Span :=
  flatFrom opening closing toEnd (t.length + 1) 0 t

def comments (t : Text) : List Span :=
  flat "<!--" "-->" true t

/-!
# Elements
-/

structure TagPattern where
  opening : Pattern
  closing : Pattern

namespace TagPattern

/-- The tags of the element `name`, in any case, attributes allowed in the opening one. -/
def ofName (name : Text) : TagPattern where
  opening :=
    ("<" ++ Pattern.lit name ++ Pattern.atWordEdge ++ .many (.noneOf ['>']) ++ ">" : Pattern).ignoringCase
  closing := ("</" ++ Pattern.lit name ++ .blanks ++ ">" : Pattern).ignoringCase

def nowiki : TagPattern :=
  ofName "nowiki"

def pre : TagPattern :=
  ofName "pre"

def code : TagPattern :=
  ofName "code"

def ref : TagPattern :=
  ofName "ref"

end TagPattern

/-- An opening tag that also closes its element. -/
def isSelfClosing (tag : Text) : Bool :=
  ((tag.trimRightBy (· == '>')).trimRight).endsWith "/"

/-- The elements that begin at or after `start`.  Every round goes on behind a tag that is not empty. -/
def elementsFrom (tag : TagPattern) (t : Text) : (rounds : Nat) → (start : Nat) → List Span
  | 0, _ => []
  | rounds + 1, start =>
      match tag.opening.findFrom? t start with
      | none => []
      | some opening =>
          if isSelfClosing (t.slice opening.span) then elementsFrom tag t rounds opening.stop
          else
            match tag.closing.findFrom? t opening.stop with
            | none => []
            | some closing =>
                ⟨opening.start, closing.stop⟩ :: elementsFrom tag t rounds closing.stop

/-- The elements of one kind, from an opening tag to the first closing one.  The first element that is
never closed ends the search. -/
def elements (tag : TagPattern) (t : Text) : List Span :=
  elementsFrom tag t (t.length + 1) 0

end Region
end WikiEntry
