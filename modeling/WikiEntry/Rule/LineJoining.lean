import WikiEntry.Rule.Marks

/-!
# Joining lines

Prose that is wrapped over several lines is joined with spaces, and a definition that is wrapped at its
colon is put on one line.
-/

namespace WikiEntry
namespace LineJoining

/-!
# Links that stand on lines of their own
-/

/-- Elements whose content keeps its lines. -/
def blockElements : List Region.TagPattern :=
  (Text.listOf
    ["div", "span", "small", "big", "sup", "sub", "center", "blockquote", "gallery", "math", "poem",
     "references", "table", "timeline", "score"]).map .ofName

def specialNames : List Text :=
  ["file", "image", "archivo", "imagen", "category", "categoría"]

/-- The name in front of the colon of a link to an image, a category or a sister project. -/
def isSpecial (c : Config) (name : Text) : Bool :=
  let name := name.trim.lower
  specialNames.contains name || c.interwiki.any (·.sameIgnoringCase name)

def startsWithSpecialLink (c : Config) (line : Text) : Bool :=
  (Text.after? "[[" line).any fun rest => (rest.splitOnce? ":").any fun x => isSpecial c x.1

def endsWithSpecialLink (c : Config) (line : Text) : Bool :=
  let line := line.trimRight
  line.endsWith "]]"
    && (line.findLast? "[[").any fun n =>
      (Text.splitOnce? (line.drop (n + 2)) ":").any fun x => isSpecial c x.1

/-!
# Deciding on a line end
-/

/-- Whether the newline between two lines is one of running text. -/
def canJoin (c : Config) (inFootnote : Bool) (prev next : Text) : Bool :=
  let marked (t : Text) : Bool :=
    match t with
    | [] => false
    | x :: _ => (":;*#" : Text).contains x || (x = ' ' && !inFootnote)
  let startsFootnote := next.startsWith "<ref " || next.startsWith "<ref>"
  match prev.getLast? with
  | none => false
  | some last =>
      last ≠ '>' && last ≠ '='
        && !(Text.listOf ["__", "----", "\x7d\x7d", "|\x7d"]).any prev.endsWith
        && !endsWithSpecialLink c prev && !marked (Region.stripHidden prev)
        && (startsFootnote ||
          match next with
          | [] => false
          | first :: _ =>
              !("\n<:;#*\x7b\x7d|=!" : Text).contains first && !(first = ' ' && !inFootnote)
                && !startsWithSpecialLink c next)

/-- Regions whose newlines stay, outside footnotes. -/
def blocked (t : Text) : List Span :=
  Region.combine (blockElements.map (Region.elements · t) ++ [Region.templates t, Region.tables t])

/-- The edits for lines that begin at `place`.  In a footnote the spaces that begin the next line go too. -/
def joinEdits (c : Config) (ignored footnotes blocked : List Span) (place : Nat) : List Text → List Edit
  | prev :: next :: lines =>
      let newline := place + prev.length
      let inFootnote := Region.covers footnotes newline
      let later := joinEdits c ignored footnotes blocked (newline + 1) (next :: lines)
      if !Region.covers ignored newline && (inFootnote || !Region.covers blocked newline)
          && canJoin c inFootnote prev next then
        let spaces := if inFootnote then (next.takeWhile (· = ' ')).length else 0
        ⟨⟨newline, newline + 1 + spaces⟩, [' ']⟩ :: later
      else later
  | _ => []

def joinProse (c : Config) (t : Text) : Text :=
  Edit.applyAll t
    (joinEdits c (Region.ignored t) (Region.elements .ref t) (blocked t) 0 (t.splitOn "\n"))

/-!
# Definitions wrapped at their colon
-/

/-- Marks a definition whose text is on the next line. -/
def pendingMark : Char :=
  '\ue000'

def pendingColons : Pattern :=
  .one (.char pendingMark) ++ "\n" ++ .some1 (.char ':')

def joinDefinition (t : Text) (m : Match) : Option Text :=
  match m.group? 3, m.group? 4 with
  | some colon, some meaning =>
      let whole := t.slice m.span
      let joined :=
        if (t.slice colon).contains '\n' then
          t.slice ⟨m.start, colon.start⟩ ++ ":" ++ t.slice ⟨colon.stop, m.stop⟩
        else whole
      let pending := meaning.size == 0 && Text.startsWith (t.drop m.stop) "\n:"
      let joined := if pending then joined ++ [pendingMark] else joined
      if joined == whole then none else some joined
  | _, _ => none

def joinDefinitions (t : Text) : Text :=
  let marked := Region.reviseOutside t Marks.definition (joinDefinition t)
  (pendingColons.replaceAll marked []).filter (· ≠ pendingMark)

end LineJoining

namespace Rule

open LineJoining in
def lineJoining : Rule where
  name := "join_lines"
  run x t :=
    .ok (Outcome.of? t (joinDefinitions (joinProse x.config t)) (some "uniendo líneas"))

end Rule
end WikiEntry
