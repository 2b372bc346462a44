import WikiEntry.Region.Union

/-!
# Replacing outside regions

Nearly every rule of the library replaces the matches of a pattern that lie outside some regions.  That has
two halves: the edits that are decided on, each a span with its new text, and their application to the
text, which copies everything else as it is.
-/

namespace WikiEntry

/-- The text that takes the place of a span. -/
structure Edit where
  span : Span
  text : Text
  deriving DecidableEq, Repr

namespace Edit

/-- Applies edits in order to `rest`, which begins at `place`. -/
def applyFrom (place : Nat) (rest : Text) : List Edit → Text
  | [] => rest
  | e :: edits =>
      rest.take (e.span.start - place) ++ e.text
        ++ applyFrom e.span.stop (rest.drop (e.span.stop - place)) edits

def applyAll (t : Text) (edits : List Edit) : Text :=
  applyFrom 0 t edits

end Edit

/-- Puts `new` in the place of every match, wherever it lies. -/
def Pattern.replaceAll (p : Pattern) (t new : Text) : Text :=
  Edit.applyAll t ((p.spans t).map (⟨·, new⟩))

namespace Region

/-!
# Deciding on edits
-/

/-- The edits of a replacer that carries a state from match to match. -/
def editsWith {σ : Type} (replacer : σ → Match → Option Text × σ) : σ → List Match → List Edit × σ
  | state, [] => ([], state)
  | state, m :: ms =>
      let (answer, state) := replacer state m
      let (edits, state) := editsWith replacer state ms
      match answer with
      | some text => (⟨m.span, text⟩ :: edits, state)
      | none => (edits, state)

def matchesOutside (p : Pattern) (regions : List Span) (position : Match → Nat) (t : Text) : List Match :=
  (p.matchList t).filter fun m => !covers regions (position m)

/-- Revises a text by a replacer with a state, and returns the last state too. -/
def reviseWith {σ : Type} (t : Text) (p : Pattern) (regions : List Span) (position : Match → Nat)
    (replacer : σ → Match → Option Text × σ) (state : σ) : Text × σ :=
  let (edits, state) := editsWith replacer state (matchesOutside p regions position t)
  (Edit.applyAll t edits, state)

def reviseAt (t : Text) (p : Pattern) (regions : List Span) (position : Match → Nat)
    (replacer : Match → Option Text) : Text :=
  (reviseWith t p regions position (fun _ m => (replacer m, ())) ()).1

/-- Replaces the matches that begin outside the regions by what the replacer answers. -/
def revise (t : Text) (p : Pattern) (regions : List Span) (replacer : Match → Option Text) : Text :=
  reviseAt t p regions Match.start replacer

def reviseOutside (t : Text) (p : Pattern) (replacer : Match → Option Text) : Text :=
  revise t p (ignored t) replacer

def replaceOutside (t : Text) (p : Pattern) (new : Text) : Text :=
  reviseOutside t p fun _ => some new

/-!
# Replacement texts with group references
-/

def isGroupLetter (c : Char) : Bool :=
  c.isAlphanum || c == '_'

/-- What a reference stands for; groups that are named otherwise than by a number are empty. -/
def groupText (t : Text) (m : Match) (name : Text) : Text :=
  match Text.readNumber? name with
  | some i => m.text t i
  | none => []

/-- Expands the references in a replacement text: a dollar sign before letters, digits and underscores or
before a name in braces is a reference, and two dollar signs are one. -/
def expand (t : Text) (m : Match) : (rounds : Nat) → Text → Text
  | 0, r => r
  | _, [] => []
  | rounds + 1, '$' :: '$' :: r => '$' :: expand t m rounds r
  | rounds + 1, '$' :: '\x7b' :: r =>
      match r.span (· ≠ '\x7d') with
      | (name, _ :: r) => groupText t m name ++ expand t m rounds r
      | (_, []) => '$' :: expand t m rounds ('\x7b' :: r)
  | rounds + 1, '$' :: r =>
      let (name, r') := r.span isGroupLetter
      if name.isEmpty then '$' :: expand t m rounds r else groupText t m name ++ expand t m rounds r'
  | rounds + 1, c :: r => c :: expand t m rounds r

/-- Replaces all matches outside the ignored regions by an expanded replacement text. -/
def expandOutside (t : Text) (p : Pattern) (replacement : Text) : Text :=
  reviseOutside t p fun m => some (expand t m (replacement.length + 1) replacement)

/-- Replaces the first match, wherever it lies, by an expanded replacement text. -/
def expandFirst (t : Text) (p : Pattern) (replacement : Text) : Text :=
  match p.find? t with
  | some m => Edit.applyAll t [⟨m.span, expand t m (replacement.length + 1) replacement⟩]
  | none => t

/-!
# White space
-/

/-- Tabs become spaces, runs of spaces become one, and spaces before a line end disappear. -/
def sanitizeBlanks (t : Text) : Text :=
  let t := replaceOutside t "\t" " "
  let t := replaceOutside t (.run true 2 none (.char ' ')) " "
  replaceOutside t " \n" "\n"

end Region
end WikiEntry
