import WikiEntry.Section.Basic
import WikiEntry.Page.Outline

/-!
# Pages

A page holds its sections in the order in which they were made, and a section is known by its number in that
list.  The document order lists the sections that are part of the text; the outline is derived from it and
from the levels whenever the order or a level has changed.  Sections that were taken out stay in the list.
-/

namespace WikiEntry

structure Page where
  title : Text
  body : Body := {}
  /-- What follows the last section. -/
  trailingContent : Text := []
  sections : List Section := []
  order : List Nat := []
  outline : Outline := .nil
  deriving DecidableEq, Repr

namespace Page

def empty (title : Text) : Page where
  title := title.trim

def intro (p : Page) : Text :=
  p.body.text

def get (p : Page) (i : Nat) : Section :=
  p.sections.getD i default

def level (p : Page) (i : Nat) : Nat :=
  (p.get i).level

def header (p : Page) (i : Nat) : Text :=
  (p.get i).header

/-- Changes a section in a way that keeps its level. -/
def modify (p : Page) (i : Nat) (f : Section → Section) : Page :=
  { p with sections := p.sections.modify i f }

/-- Derives the outline from the order and the levels. -/
def link (p : Page) : Page :=
  { p with outline := .ofList (p.order.map fun i => (i, p.level i)) }

def setOrder (p : Page) (order : List Nat) : Page :=
  link { p with order := order }

/-- Adds a section that is not part of the document yet, and gives its number. -/
def create (p : Page) (s : Section) : Page × Nat :=
  ({ p with sections := p.sections ++ [s] }, p.sections.length)

/-- Adds a section at the end of the document. -/
def append (p : Page) (s : Section) : Page × Nat :=
  let (p, i) := p.create s
  (p.setOrder (p.order ++ [i]), i)

/-!
# Places in the outline
-/

def isAttached (p : Page) (i : Nat) : Bool :=
  p.order.contains i

/-- 1 for the sections on top, and 0 for sections that are not part of the document. -/
def depth (p : Page) (i : Nat) : Nat :=
  p.outline.depth i

def parent? (p : Page) (i : Nat) : Option Nat :=
  p.outline.parent? i

def below (p : Page) (i : Nat) : Outline :=
  (p.outline.children? i).getD .nil

def children (p : Page) (i : Nat) : List Nat :=
  (p.below i).roots

def descendants (p : Page) (i : Nat) : List Nat :=
  (p.below i).toList

def subtree (p : Page) (i : Nat) : List Nat :=
  i :: p.descendants i

def topLevel (p : Page) : List Nat :=
  p.order.filter fun i => p.depth i == 1

/-- The sections with the same parent, the section itself included. -/
def siblings (p : Page) (i : Nat) : List Nat :=
  match p.parent? i with
  | some parent => p.children parent
  | none => p.topLevel

def position? (p : Page) (i : Nat) : Option Nat :=
  p.order.idxOf? i

def next? (p : Page) (i : Nat) : Option Nat :=
  (p.position? i).bind fun n => p.order[n + 1]?

def previous? (p : Page) (i : Nat) : Option Nat :=
  (p.position? i).bind fun n => if n = 0 then none else p.order[n - 1]?

/-!
# Looking sections up
-/

def strippedHeader (p : Page) (i : Nat) : Text :=
  (p.get i).strippedHeader

def headerMatches (p : Page) (pattern : Pattern) (i : Nat) : Bool :=
  pattern.matchesIn (p.strippedHeader i)

/-- The sections of the document whose stripped header matches. -/
def findSections (p : Page) (pattern : Pattern) : List Nat :=
  p.order.filter (p.headerMatches pattern)

def findBelow (p : Page) (i : Nat) (pattern : Pattern) : List Nat :=
  (p.descendants i).filter (p.headerMatches pattern)

def hasBelow (p : Page) (i : Nat) (pattern : Pattern) : Bool :=
  !(p.findBelow i pattern).isEmpty

def isLanguage (p : Page) (i : Nat) : Bool :=
  (p.get i).isLanguage

def languages (p : Page) : List Nat :=
  p.order.filter p.isLanguage

def languagesWithCodes (p : Page) : List (Nat × Text) :=
  p.languages.filterMap fun i => (p.get i).languageCode?.map (i, ·)

def language? (p : Page) (code : Text) : Option Nat :=
  p.languages.find? fun i => (p.get i).language?.any (·.hasCode code)

/-- The nearest language section above a section, itself included; `bound` limits the way up. -/
def languageAbove? (p : Page) : (bound : Nat) → Nat → Option Nat
  | 0, _ => none
  | bound + 1, i =>
      if p.isLanguage i then some i
      else
        match p.parent? i with
        | some parent => languageAbove? p bound parent
        | none => none

def languageOf? (p : Page) (i : Nat) : Option Nat :=
  p.languageAbove? (p.sections.length + 1) i

/-- The last section, if its header is that of the references. -/
def references? (p : Page) : Option Nat :=
  p.order.getLast?.filter fun i => (p.header i).startsWith "Referencias"

end Page
end WikiEntry
