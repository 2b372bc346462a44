import WikiEntry.Rule.Marks

/-!
# Footnotes

A footnote is an element with a content, or a closed element that refers by its name to a footnote elsewhere.
Footnotes with the same content are written once, under a name by which all others refer to it; a name that
stands for several contents is removed.
-/

namespace WikiEntry

structure Footnote where
  span : Span
  attributes : Text
  content : Option Text
  deriving DecidableEq, Repr

/-- What a rule decides about a footnote: its name, and its content, if it is not to be a reference. -/
structure FootnoteForm where
  name : Option Text
  content : Option Text
  deriving DecidableEq, Repr

namespace Footnote

/-!
# Attributes
-/

def element : Pattern :=
  ("<ref" ++ .atWordEdge ++ .group 1 (.few (.noneOf ['>']))
    ++ .alt ("/" ++ .blanks ++ ">")
        (">" ++ .group 2 (.few .all) ++ "</ref" ++ .blanks ++ ">") : Pattern).ignoringCase

/-- An attribute with its key and, in one of three notations, its value. -/
def assignment : Pattern :=
  let plain : CharSet := .complement (.anyOf [.blank, .char '"', .char '\'', .char '/', .char '>'])
  (.blanks ++ .atWordEdge ++ .group 1 (.alt "name" "group") ++ .blanks ++ "=" ++ .blanks
    ++ .anyOf
        ["\"" ++ .group 2 (.many (.noneOf ['"'])) ++ "\"",
         "'" ++ .group 3 (.many (.noneOf ['\''])) ++ "'",
         .group 4 (.some1 plain)] : Pattern).ignoringCase

def attributesNamed (f : Footnote) (key : Text) : List Match :=
  (assignment.matchList f.attributes).filter fun m => (m.text f.attributes 1).sameIgnoringCase key

def value (f : Footnote) (m : Match) : Text :=
  (([2, 3, 4] : List Nat).findSome? (m.text? f.attributes)).getD []

def name? (f : Footnote) : Option Text :=
  (f.attributesNamed "name").head?.map f.value

def hasGroup (f : Footnote) : Bool :=
  !(f.attributesNamed "group").isEmpty

def otherAttributes (f : Footnote) : Text :=
  (Edit.applyAll f.attributes ((f.attributesNamed "name").map fun m => ⟨m.span, []⟩)).trimRight

/-!
# Contents
-/

def isReference (f : Footnote) : Bool :=
  f.content.isNone

/-- The content, trimmed; a reference has none. -/
def body (f : Footnote) : Text :=
  (f.content.getD []).trim

def form (f : Footnote) : FootnoteForm :=
  ⟨f.name?, f.content⟩

def formNamed (f : Footnote) (name : Option Text) : FootnoteForm :=
  ⟨name, f.content⟩

def referenceTo (name : Text) : FootnoteForm :=
  ⟨some name, none⟩

def opening (f : Footnote) : Option Text → Text
  | some name => "<ref name=\"" ++ name ++ "\"" ++ f.otherAttributes
  | none => "<ref" ++ f.otherAttributes

/-- The footnote in another form; its other attributes are kept. -/
def render (f : Footnote) (x : FootnoteForm) : Text :=
  match x.content with
  | some content => f.opening x.name ++ ">" ++ content ++ "</ref>"
  | none => f.opening x.name ++ " />"

/-!
# The footnotes of a text
-/

def ofMatch (t : Text) (m : Match) : Footnote :=
  ⟨m.span, m.text t 1, m.text? t 2⟩

/-- The footnotes outside the ignored regions. -/
def all (t : Text) : List Footnote :=
  (Region.matchesOutside element (Region.ignored t) Match.start t).map (ofMatch t)

def listOpening : Pattern :=
  ("<references" ++ .atWordEdge : Pattern).ignoringCase

/-- With several lists of footnotes a name may stand for a footnote in each of them. -/
def hasSeveralLists (t : Text) : Bool :=
  let elements := Region.matchesOutside listOpening (Region.ignored t) Match.start t
  1 < elements.length + (Template.locatedNamed t "título referencias").length

/-- Adds a number to the group of its key. -/
def addTo (key : Text) (i : Nat) : List (Text × List Nat) → List (Text × List Nat)
  | [] => [(key, [i])]
  | (k, members) :: rest =>
      if k = key then (k, members ++ [i]) :: rest else (k, members) :: addTo key i rest

/-- The numbers by their keys, in the order in which the keys come up first. -/
def groupBy (items : List (Text × Nat)) : List (Text × List Nat) :=
  items.foldl (fun groups (key, i) => addTo key i groups) []

def nth (notes : List Footnote) (i : Nat) : Footnote :=
  notes.getD i ⟨⟨0, 0⟩, [], none⟩

/-- The form of a footnote when some have new forms, given by their numbers. -/
def formOf (notes : List Footnote) (forms : List (Nat × FootnoteForm)) (i : Nat) : FootnoteForm :=
  (forms.lookup i).getD (nth notes i).form

def revise (t : Text) (forms : List (Nat × FootnoteForm)) : Text :=
  Edit.applyAll t ((all t).zipIdx.filterMap fun (f, i) => (forms.lookup i).map fun x => ⟨f.span, f.render x⟩)

/-!
# Ambiguous names
-/

/-- The names outside groups, with the numbers of the footnotes that bear them. -/
def named (notes : List Footnote) : List (Text × List Nat) :=
  groupBy (notes.zipIdx.filterMap fun (f, i) => if f.hasGroup then none else f.name?.map (·, i))

/-- The footnotes of one name that have a content of their own, if all have one and the contents differ. -/
def deviating (notes : List Footnote) (members : List Nat) : List Nat :=
  let bodies := members.map fun i => ((nth notes i).body, i)
  if members.length < 2 || bodies.any fun x => x.1.isEmpty then []
  else
    let contents := groupBy bodies
    if contents.length < 2 then []
    else contents.flatMap fun x => if x.2.length = 1 then x.2 else []

/-- Footnotes that give up their names. -/
def unnamed (notes : List Footnote) : List (Nat × FootnoteForm) :=
  ((named notes).flatMap fun x => deviating notes x.2).map fun i => (i, (nth notes i).formNamed none)

/-!
# Repeated contents
-/

/-- The state while contents are brought together: the new forms of footnotes, the latest first, the names that are
taken, and the number for the next new name. -/
structure Naming where
  forms : List (Nat × FootnoteForm)
  taken : List Text
  next : Nat

def automatic (n : Nat) : Text :=
  "auto_ref_id_" ++ Text.ofNumber n

namespace Naming

def ofNotes (notes : List Footnote) : Naming :=
  ⟨[], notes.filterMap Footnote.name?, 1⟩

def name? (notes : List Footnote) (s : Naming) (i : Nat) : Option Text :=
  (formOf notes s.forms i).name

def fresh (s : Naming) : Text × Naming :=
  let numbers := List.range' s.next (s.taken.length + 1)
  let n := (numbers.find? fun n => !s.taken.contains (automatic n)).getD s.next
  (automatic n, { s with next := n + 1 })

/-- The footnotes of a name that are not among the members. -/
def others (notes : List Footnote) (s : Naming) (members : List Nat) (name : Text) : List Nat :=
  (List.range notes.length).filter fun i => !members.contains i && s.name? notes i == some name

def put (s : Naming) (i : Nat) (x : FootnoteForm) : Naming :=
  { s with forms := (i, x) :: s.forms }

def refer (s : Naming) (ids : List Nat) (name : Text) : Naming :=
  ids.foldl (fun s i => s.put i (referenceTo name)) s

def take (s : Naming) (name : Text) : Naming :=
  { s with taken := s.taken ++ [name] }

end Naming

def full (notes : List Footnote) (ids : List Nat) : List Nat :=
  ids.filter fun i => !(nth notes i).isReference

/-- A name for footnotes with the same content: the first that one of them has, or a new one if another
content has it too.  Without a name it cannot be told to which content a reference belongs. -/
def chooseName (notes : List Footnote) (s : Naming) (members : List Nat) : Option Text × Naming :=
  match (members.filterMap (s.name? notes)).find? (!·.isEmpty) with
  | none =>
      let (name, s) := s.fresh
      (some name, s)
  | some candidate =>
      let others := s.others notes members candidate
      let full := full notes others
      if full.isEmpty then (some candidate, s)
      else if full.length < others.length then (none, s)
      else
        let (name, s) := s.fresh
        (some name, s)

/-- The references to the names that members give up for `name`; `none` if one of these names stands for
another content too. -/
def followers? (notes : List Footnote) (s : Naming) (members : List Nat) (name : Text) : Option (List Nat) :=
  let old := (members.filterMap (s.name? notes)).filter (· ≠ name)
  let groups := old.map (s.others notes members)
  if groups.any fun ids => 0 < (full notes ids).length && (full notes ids).length < ids.length then none
  else some (groups.flatMap fun ids => if (full notes ids).isEmpty then ids else [])

/-- Gives members a common name: the first one keeps its content, and all others refer to it. -/
def rewrite (notes : List Footnote) (s : Naming) (members followers : List Nat) (name : Text) : Naming :=
  let s := s.refer followers name
  let s := match members with
    | [] => s
    | first :: rest => (s.put first ((nth notes first).formNamed name)).refer rest name
  s.take name

/-- Brings the members together, unless it could not be told what a reference stands for. -/
def unite (notes : List Footnote) (s : Naming) (members : List Nat) : Naming :=
  match chooseName notes s members with
  | (none, s) => s
  | (some name, s) =>
      match followers? notes s members name with
      | none => s
      | some followers => rewrite notes s members followers name

/-- The contents outside groups, with the numbers of the footnotes that have them. -/
def byContent (notes : List Footnote) : List (Text × List Nat) :=
  groupBy (notes.zipIdx.filterMap fun (f, i) =>
    if f.isReference || f.hasGroup || f.body.isEmpty then none else some (f.body, i))

def repeated (notes : List Footnote) : List (List Nat) :=
  ((byContent notes).map Prod.snd).filter fun members => 1 < members.length

/-- New forms for the footnotes whose content is repeated and for the references to them. -/
def united (notes : List Footnote) : List (Nat × FootnoteForm) :=
  ((repeated notes).foldl (unite notes) (.ofNotes notes)).forms

/-!
# The new forms of a text
-/

/-- With several lists nothing is decided. -/
def formsIn (t : Text) (forms : List Footnote → List (Nat × FootnoteForm)) : List (Nat × FootnoteForm) :=
  if hasSeveralLists t then [] else forms (all t)

end Footnote

namespace Rule

open Footnote in
def ambiguousFootnotes : Rule where
  name := "sanitize_references"
  run _ t := .ok (Outcome.of? t (revise t (formsIn t unnamed)) (some "corrigiendo referencias"))

open Footnote in
def repeatedFootnotes : Rule where
  name := "group_references"
  run _ t := .ok (Outcome.of? t (revise t (formsIn t united)) (some "agrupando referencias"))

end Rule
end WikiEntry
