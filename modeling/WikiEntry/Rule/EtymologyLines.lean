import WikiEntry.Rule.Marks

/-!
# Etymology lines

The etymology of a word is a line that begins with a template.  Such lines are moved between sections, and
lines that say nothing but that the word is a form of another one are removed.
-/

namespace WikiEntry
namespace EtymologyLines

def isEtymology (u : Template) : Bool :=
  u.isNamed "etimología" || u.isNamed "etimología2"

def hasEtymology (t : Text) : Bool :=
  Marks.hasTemplate t "etimología" || Marks.hasTemplate t "etimología2"

def isMarker (c : Char) : Bool :=
  c = ':' || c = ';' || c = '*' || c = '#'

/-!
# Taking lines out
-/

/-- Whether `close` follows the last occurrence of `opening`. -/
def isClosed (t opening close : Text) : Bool :=
  match t.findLast? opening with
  | some n => Text.hasInfix (t.drop n) close
  | none => true

def closedFootnote : Pattern :=
  "<ref " ++ .few (.noneOf ['>']) ++ "/" ++ .maybeOne (.char ' ') ++ ">"

/-- Whether the rest of a line closes what it opens, so that the line can be moved. -/
def isMovable (rest : Text) : Bool :=
  isClosed rest "<!--" "-->" &&
    let shown := closedFootnote.replaceAll (Region.stripHidden rest) []
    isClosed shown "\x7b\x7b" "\x7d\x7d" && isClosed shown "\x7b|" "|\x7d" && isClosed shown "[" "]"
      && isClosed shown "<ref" "</ref"

/-- The line from an etymology template on, and the region to remove for it: with the markers in front of it
back to `last`, and with the newline after it if nothing else stood on the line. -/
def takeLine? (t : Text) (last : Nat) (s : Span) : Option (Text × Span) :=
  let rest := (t.drop s.stop).takeWhile (· ≠ '\n')
  if !rest.isEmpty && !isMovable rest then none
  else
    let before := ((t.take s.start).reverse.takeWhile (· ≠ '\n')).length
    let bound := max (s.start - before) last
    let markers := ((t.slice ⟨bound, s.start⟩).reverse.takeWhile isMarker).length
    let start := s.start - markers
    let stop := s.stop + rest.length
    let wholeLine := start = s.start - before && stop < t.length
    some (t.slice ⟨s.start, stop⟩, ⟨start, if wholeLine then stop + 1 else stop⟩)

/-- The etymology lines among the templates that begin at or after `next`, with the regions to remove; the
last region ended at `last`. -/
def takeLines (t : Text) (ignored : List Span) : (last next : Nat) → List Span → List (Text × Span)
  | _, _, [] => []
  | last, next, s :: rest =>
      if s.start < next then takeLines t ignored last next rest
      else
        let isTaken := !Region.covers ignored s.start && (Template.parse? (t.slice s)).any isEtymology
        match if isTaken then takeLine? t last s else none with
        | some (line, removed) =>
            (line, removed) :: takeLines t ignored removed.stop (max s.stop removed.stop) rest
        | none => takeLines t ignored last s.stop rest

/-- The text without its etymology lines, and these lines without their markers. -/
def take (t : Text) : Text × List Text :=
  let taken := takeLines t (Region.ignored t) 0 0 (Template.spans t)
  (Edit.applyAll t (taken.map fun x => ⟨x.2, []⟩), taken.map Prod.fst)

/-- Moves the etymology lines of a section to the end of another one. -/
def move (source target : Section) : Section × Section :=
  let (rest, lines) := take source.intro
  if lines.isEmpty then (source, target)
  else (source.setIntro rest, target.setIntro (target.intro ++ "\n" ++ Text.joinWith "\n\n" lines))

/-!
# Redundant lines
-/

/-- A link to the word of which another one is a form. -/
def pointer : Pattern :=
  let code : CharSet := .anyOf [.word, .char '-']
  let link : Pattern :=
    .alt ("[[" ++ .some1 (.noneOf [']']) ++ "]]")
      ("\x7b\x7bl|" ++ .some1 code ++ "|" ++ .some1 (.noneOf ['|', '\x7d']) ++ "\x7d\x7d")
  let start : Pattern :=
    .anyOf
      [.one (.oneOf ['D', 'd']) ++ "e", .one (.oneOf ['V', 'v']) ++ "éase",
       .one (.oneOf ['D', 'd']) ++ "el verbo", .one (.oneOf ['F', 'f']) ++ "lexión de"]
  let suffix : Pattern := " y " ++ .maybe "de " ++ "[[" ++ .alt "-ed" "-ing" ++ "]]"
  .whole (start ++ " " ++ .anyOf ["''" ++ link ++ "''", "\"" ++ link ++ "\"", link] ++ .maybe suffix)

/-- Whether a template only says that the word is a form. -/
def isRedundant (u : Template) : Bool :=
  (u.params.filter fun q => !q.answersTo "leng" && !q.value.isBlank).isEmpty
    || ((u.get? "1").filter (!·.isEmpty)).any fun first =>
      if u.isNamed "etimología" then (Text.listOf ["plural", "femenino", "sufijo"]).contains first
      else pointer.matchesIn first

/-- The etymology template of a line on which nothing else stands but markers and a full stop. -/
def sole? (line : Text) : Option Template :=
  let line : Text := line.dropWhile isMarker
  match Template.spans line with
  | [] => none
  | s :: _ =>
      let rest := line.drop s.stop
      if s.start = 0 && (rest.isEmpty || rest == ".") then
        (Template.parse? (Text.slice line s)).filter isEtymology
      else none

def removeRedundant (t : Text) : Text :=
  let ignored := Region.ignored t
  let kept := t.placedLines.filter fun (place, line) =>
    Region.covers ignored place || !(sole? line).any isRedundant
  Text.joinWith "\n" (kept.map Prod.snd)

/-- The sections where etymology lines stand without an etymology section: languages without one, and
numbered etymologies. -/
def places (p : Page) : List Nat :=
  (p.languages.filter fun i => !(p.children i).isEmpty && !p.hasBelow i Marks.etymologyHeader)
    ++ p.languages.flatMap (p.findBelow · Marks.numberedEtymologyHeader)

def tidySection (s : Section) : Section :=
  if hasEtymology s.intro then
    let new := removeRedundant s.intro
    if new = s.intro then s else s.setIntro new
  else s

end EtymologyLines

namespace Rule

open EtymologyLines in
/-- Etymologies are expected neither for titles of several words nor for forms and pointers. -/
def redundantEtymologies : Rule where
  name := "remove_etymology_templates"
  run x t :=
    x.onCurrentPage t fun p => do
      if p.languages.isEmpty then return none
      let unexpected (p : Page) (i : Nat) : Bool :=
        x.title.contains ' ' || Marks.hasOnlyForms x.config p i || Marks.isReduced x.config p i
      let p := (places p).foldl (fun p i => if unexpected p i then p.modify i tidySection else p) p
      return Outcome.ofPage? t p "eliminando plantillas de etimología"

end Rule
end WikiEntry
