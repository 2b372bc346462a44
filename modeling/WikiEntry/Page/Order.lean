import WikiEntry.Page.Basic
import WikiEntry.Text.Collation

/-!
# The order of sections

Languages are sorted with Spanish first, transliterations last, and by their names in between.  Within a
language the standard sections have their places at the beginning and at the end, and all others keep
their order.
-/

namespace WikiEntry

/-!
# Comparing sections
-/

namespace Section

def compareBool : Bool → Bool → Ordering
  | false, true => .lt
  | true, false => .gt
  | _, _ => .eq

def isSpanish (code : Text) : Bool :=
  code.sameIgnoringCase "es"

/-- Spanish first, then languages before transliterations and named before unnamed ones, then by name and
by code.  Sections that are no language come after all languages.  How names are compared is given. -/
def compareLanguagesBy (collate : Text → Text → Ordering) (a b : Section) : Ordering :=
  match a.language?, b.language? with
  | some x, some y =>
      (compareBool (isSpanish y.code) (isSpanish x.code)).then <|
        (compareBool x.isTransliteration y.isTransliteration).then <|
          (compareBool x.name.isEmpty y.name.isEmpty).then <|
            (collate x.name y.name).then (x.code.lower.compareChars y.code.lower)
  | _, _ => compareBool b.isLanguage a.isLanguage

/-- The comparison with names in the order of a Spanish dictionary. -/
def compareLanguages : Section → Section → Ordering :=
  compareLanguagesBy Text.collate

/-- The group of a header, 0 for the first sections and 2 for the last ones, and its place in it. -/
def rank (c : Config) (header : Text) : Nat × Nat :=
  match c.settings.headSections.idxOf? header, c.settings.bottomSections.idxOf? header with
  | some n, _ => (0, n)
  | none, some n => (2, n)
  | none, none => (1, 0)

def compareRanks (a b : Nat × Nat) : Ordering :=
  (compare a.1 b.1).then (compare a.2 b.2)

def compareByRank (c : Config) (a b : Section) : Ordering :=
  compareRanks (rank c a.strippedHeader) (rank c b.strippedHeader)

def compareByHeader (a b : Section) : Ordering :=
  a.header.compareChars b.header

end Section

/-!
# Sorting
-/

namespace Page

def inOrder (p : Page) (cmp : Section → Section → Ordering) (i j : Nat) : Bool :=
  cmp (p.get i) (p.get j) != .gt

/-- Sorts sections; equal ones keep their order. -/
def sortBy (p : Page) (cmp : Section → Section → Ordering) (ids : List Nat) : List Nat :=
  ids.mergeSort (p.inOrder cmp)

/-- Puts the children of a parent, or the sections on top, into a new order, each with what is below it. -/
def reorder (p : Page) (parent? : Option Nat) (ids : List Nat) : Page :=
  let block := (ids.flatMap p.subtree).eraseDups
  match parent? with
  | some parent =>
      match p.position? parent with
      | none => p
      | some n =>
          p.setOrder
            (p.order.take (n + 1) ++ block ++ p.order.drop (n + 1 + (p.descendants parent).length))
  | none => p.setOrder (block ++ p.order.filter fun i => !block.contains i)

/-- Sorts the children of a parent, or the sections on top. -/
def sortChildren (p : Page) (parent? : Option Nat) (cmp : Section → Section → Ordering) : Page :=
  let children := match parent? with
    | some parent => p.children parent
    | none => p.topLevel
  let sorted := p.sortBy cmp children
  if sorted = children then p else p.reorder parent? sorted

/-- Sorts the languages, each with what is below it; sections outside all languages go to the end. -/
def sortLanguagesBy (collate : Text → Text → Ordering) (p : Page) : Page :=
  let sorted := (p.sortBy (Section.compareLanguagesBy collate) p.languages).flatMap p.subtree
  let outside := p.order.filter fun i => !sorted.contains i && (p.languageOf? i).isNone
  let order := sorted ++ outside
  if order = p.order then p else p.setOrder order

def sortLanguages (p : Page) : Page :=
  p.sortLanguagesBy Text.collate

/-- Whether a standard header occurs twice among the children. -/
def hasTwinChildren (c : Config) (p : Page) (parent : Nat) : Bool :=
  let headers := ((p.children parent).map p.strippedHeader).filter c.isStandardHeader
  headers.eraseDups.length != headers.length

/-- Sorts the children by the places of their headers, unless a standard header occurs twice. -/
def sortByRank (c : Config) (p : Page) (parent : Nat) : Page :=
  if p.hasTwinChildren c parent then p else p.sortChildren (some parent) (Section.compareByRank c)

def etymology : Pattern :=
  .atStart ++ "Etimología" ++ .restOfLine

/-- Sorts what lies below a language; with several etymologies, what lies below each of them. -/
def sortLanguage (c : Config) (p : Page) (i : Nat) : Page :=
  match p.findBelow i etymology with
  | first :: second :: rest =>
      if (p.children i).isEmpty then p else (first :: second :: rest).foldl (sortByRank c) p
  | _ => p.sortByRank c i

end Page
end WikiEntry
