import WikiEntry.Page.Basic

/-!
# Reading pages

The text is cut in front of every header line outside the ignored regions.  What stands in front of the
first header is the text of the page itself, and links to sister projects at the end of the last section
are the trailing content of the page.
-/

namespace WikiEntry
namespace Page

/-!
# Cutting
-/

/-- A line with a header; the group begins with its first equals sign. -/
def headerLine : Pattern :=
  let signs := .run true 1 (some 6) (.char '=')
  .whole (.rounds HeaderLine.comment ++ .group 1 (signs ++ .few1 .inLine ++ signs) ++ .blanks
    ++ .maybe (.rounds1 HeaderLine.comment ++ .blanks))

/-- Whether a line that begins at `place` is a header line outside the ignored regions. -/
def beginsSection (ignored : List Span) (place : Nat) (line : Text) : Bool :=
  ((headerLine.find? line).bind (·.group? 1)).any fun s => !Region.covers ignored (place + s.start)

/-- The places at which header lines begin. -/
def headerPlaces (t : Text) : List Nat :=
  let ignored := Region.ignored t
  (t.placedLines.filter fun (place, line) => beginsSection ignored place line).map Prod.fst

def cutAt (t : Text) (place : Nat) : List Nat → List Text
  | [] => [t.drop place]
  | next :: places => t.slice ⟨place, next⟩ :: cutAt t next places

/-- The text in front of the first header, and the text of each section. -/
def chunks (t : Text) : Text × List Text :=
  match cutAt t 0 (headerPlaces t) with
  | [] => (t, [])
  | front :: sections => (front, sections)

def dropNewline (t : Text) : Text :=
  (Text.before? "\n" t).getD t

/-- The newline that ends a section is kept only in the last one. -/
def dropNewlines : List Text → List Text
  | [] => []
  | [t] => [t]
  | t :: ts => dropNewline t :: dropNewlines ts

/-!
# Trailing links
-/

/-- The body that is left of the last section when its text ends before the links; the newlines in front
of the links end it. -/
def bodyBeforeLinks (b : Body) (t : Text) : Body :=
  if t.isEmpty then (b.setText []).setTrailing b.leading
  else
    let kept := t.trimRightBy (· == '\n')
    (b.setText kept).setTrailing (t.length - kept.length)

def splitTrailing (c : Config) (p : Page) : Page :=
  match p.order.getLast? with
  | none => p
  | some last =>
      let text : Text := '\n' :: (p.get last).intro
      match c.closingLinks.find? text with
      | none => p
      | some m =>
          let before := text.slice ⟨1, m.start⟩
          let p := p.modify last fun s => { s with body := bodyBeforeLinks s.body before }
          { p with trailingContent := (text.slice m.span).drop 1 }

/-!
# The whole page
-/

/-- The page of the text in front of the first header and of the sections, in this order. -/
def assemble (title front : Text) (sections : List Section) : Page :=
  link
    { empty title with
      body := if front.isEmpty then {} else Body.ofText (dropNewline front)
      sections := sections
      order := List.range sections.length }

def read (c : Config) (title t : Text) : Except EntryError Page :=
  if t.isEmpty then .ok (empty title)
  else do
    let cut := chunks (Region.sanitizeBlanks t)
    let sections ← (dropNewlines cut.2).mapM (Section.read c)
    return splitTrailing c (assemble title cut.1 sections)

end Page
end WikiEntry
