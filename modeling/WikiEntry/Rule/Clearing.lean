import WikiEntry.Rule.Marks

/-!
# Clear elements

A table or a numbered etymology begins below the images that float beside the text in front of it.  A single
clear template at the end of the section before it sees to that.  Line breaks that were written for the
same purpose are removed, and so are clear templates elsewhere.
-/

namespace WikiEntry
namespace Clearing

/-!
# Line breaks
-/

/-- A line break with its attributes as group. -/
def lineBreak : Pattern :=
  ("<br" ++ .atWordEdge ++ .group 1 (.few (.noneOf ['>'])) ++ ">" : Pattern).ignoringCase

def clearAttribute : Pattern :=
  ("clear" ++ .spaces ++ "=" ++ .spaces ++ .anyText (Text.listOf ["\"all\"", "'all'", "all"])
    : Pattern).ignoringCase

def clearStyle : Pattern :=
  ("style" ++ .spaces ++ "=" ++ .few (.noneOf ['=']) ++ .atWordEdge ++ "clear" ++ .spaces ++ ":"
    ++ .some1 .inLine : Pattern).ignoringCase

def hasClear (attributes : Text) : Bool :=
  clearAttribute.matchesIn attributes || clearStyle.matchesIn attributes

/-- A line without its first line break that clears, or with a blank line in its place between two texts;
a line on which nothing else stands is dropped. -/
def tidyLine? (ignored : List Span) (place : Nat) (line : Text) : Option Text :=
  let clears (m : Match) : Bool := !Region.covers ignored (place + m.start) && hasClear (m.text line 1)
  match (lineBreak.matchList line).find? clears with
  | none => some line
  | some m =>
      let before := line.take m.start
      let after := (line.drop m.stop).dropWhile (· = ' ')
      if Text.isBlank before && Text.isBlank after then none
      else if Text.isBlank before || Text.isBlank after then some (before ++ after)
      else some (before ++ "\n\n" ++ after)

def removeLineBreaks (t : Text) : Text :=
  let ignored := Region.ignored t
  Text.joinWith "\n" (t.placedLines.filterMap fun (place, line) => tidyLine? ignored place line)

/-!
# Templates
-/

def clearTemplate : Pattern :=
  .maybeOne (.char '\n') ++ "\x7b\x7b" ++ .spaces ++ "clear" ++ .spaces ++ "\x7d\x7d"
    ++ .maybeOne (.char '\n')

def boxes : List Text :=
  ["arriba", "trad-arriba", "rel-arriba", "derivados"]

def beginsWithBox (t : Text) : Bool :=
  boxes.any fun name => (Template.locatedNamed t name).any fun x => x.1.start == 0

/-- Whether a section begins below everything that floats in front of it. -/
def needsClear (p : Page) (i : Nat) : Bool :=
  let header := p.strippedHeader i
  beginsWithBox (Region.stripHidden (p.get i).intro)
    || (Marks.numberedEtymologyHeader.matchesIn header && header != "Etimología 1")

def removeTemplates (t : Text) : Text :=
  Region.replaceOutside t clearTemplate "\n\n"

/-- The new text of a section, according to whether the next one needs to be cleared. -/
def place? (needed : Bool) (t : Text) : Option Text :=
  let count := (Template.locatedNamed t "clear").length
  if needed then
    if count = 1 && (Region.stripHidden t).trimRight.endsWith "\x7b\x7bclear\x7d\x7d" then none
    else some ((if 0 < count then removeTemplates t else t).trimRight ++ "\n\n\x7b\x7bclear\x7d\x7d")
  else if 0 < count then some (removeTemplates t)
  else none

def placeTemplates (p : Page) : Page :=
  p.order.foldl
    (fun p i =>
      match p.next? i with
      | none => p
      | some next =>
          match place? (needsClear p next) (p.get i).intro with
          | some t => p.modify i (·.setIntro t)
          | none => p)
    p

end Clearing

namespace Rule

open Clearing in
def clearElements : Rule where
  name := "manage_clear_elements"
  run x t :=
    x.onCurrentPage t fun p => do
      if p.languages.isEmpty then return none
      let p ← x.read (removeLineBreaks t)
      return Outcome.ofPage? t (placeTemplates p) "elementos \"clear\""

end Rule
end WikiEntry
