import WikiEntry.Rule.Marks

/-!
# Definitions

Definitions are numbered lines.  Lists in the notation of numbered lists are turned into such lines, the
numbers run through all sections of a language or etymology, and a line that only repeats the title above
the definitions is removed.
-/

namespace WikiEntry
namespace Definitions

/-!
# Lists
-/

def listItem : Pattern :=
  .atLineStart ++ "#" ++ .group 1 (.alt (.one (.noneOf [':', ';', '#', '*', '\n'])) .atLineEnd)

/-- Turns the items of a list into definitions, numbered from 1. -/
def numberItems (t : Text) : Text :=
  (Region.reviseWith t listItem (Region.ignored t) Match.start
    (fun n m => (some (";" ++ Text.ofNumber n ++ ":" ++ m.text t 1), n + 1)) 1).1

def hasDefinitions (t : Text) : Bool :=
  Marks.definition.matchesIn (Region.stripHidden t)

/-- The sections of words that have a list instead of definitions. -/
def listSections (c : Config) (p : Page) : List Nat :=
  p.order.filter fun i =>
    let t := (p.get i).intro
    !p.isLanguage i && (p.languageOf? i).isSome && Marks.hasNumberedLines t && !hasDefinitions t
      && Marks.isTermHeader c (p.strippedHeader i)

/-- A list with nested lists stays as it is. -/
def convertLists (p : Page) (ids : List Nat) : Page :=
  ids.foldl
    (fun p i =>
      let new := numberItems (p.get i).intro
      if Marks.hasNumberedLines new then p else p.modify i (·.setIntro new))
    p

/-!
# Numbering
-/

def isNumberedEtymology (header : Text) : Bool :=
  (Text.after? "Etimología " header).any fun n => !n.isEmpty && n.all Char.isDigit

/-- The sections under which numbers run on: the numbered etymologies if there are several, and else the
language. -/
def roots (p : Page) (language : Nat) : List Nat :=
  let etymologies := (p.descendants language).filter fun i => isNumberedEtymology (p.strippedHeader i)
  if 1 < etymologies.length then etymologies else [language]

def bracketedWord : Pattern :=
  let word := .some1 .word
  .alt ("[" ++ word ++ "]") ("(" ++ word ++ ")")

def looseNumber : Pattern :=
  .atLineStart ++ ";" ++ .spaces ++ .some1 .digit

/-- Templates that refer to definitions by their numbers. -/
def senseTemplates : List Text :=
  ["t+", "trad", "trad2", "trad-arriba"]

/-- Whether a template has a digit in one of its values. -/
def mentionsNumber (u : Template) : Bool :=
  u.params.any fun q => q.value.any Chars.isDigit

/-- Whether nothing below a section could refer to the present numbers. -/
def isSafe (p : Page) (root : Nat) : Bool :=
  let printed := p.renderSection root
  let shown := Region.stripHidden printed
  !Marks.hasNumberedLines printed
    && !((Marks.image.spans shown).any fun s => bracketedWord.matchesIn (shown.slice s))
    && !looseNumber.matchesIn (Marks.definition.replaceAll shown [])
    && !senseTemplates.any fun name => (Template.locatedNamed printed name).any fun x => mentionsNumber x.2

/-- Each place is one more than the one before it. -/
def isConsecutive : List Nat → Bool
  | a :: b :: rest => b == a + 1 && isConsecutive (b :: rest)
  | _ => true

/-- The sections with definitions directly below a section, if they follow one another. -/
def successive (c : Config) (p : Page) (root : Nat) : List Nat :=
  let below := p.descendants root
  let places := (List.range below.length).filter fun n =>
    let i := below.getD n 0
    p.level i == p.level root + 1 && !c.isStandardHeader (p.strippedHeader i)
      && hasDefinitions (p.get i).intro
  if isConsecutive places then places.map (below.getD · 0) else []

/-- Numbers the definitions of a text from `n` on, and gives the next number. -/
def numberFrom (t : Text) (n : Nat) : Text × Nat :=
  Region.reviseWith t Marks.definition (Region.ignored t) Match.start
    (fun n m =>
      let new := (m.group? 1).bind fun digits =>
        if Text.readNumber? (t.slice digits).trim = some n then none
        else some (t.slice ⟨m.start, digits.start⟩ ++ Text.ofNumber n ++ t.slice ⟨digits.stop, m.stop⟩)
      (new, n + 1))
    n

def numberSections (p : Page) (ids : List Nat) : Page :=
  (ids.foldl
    (fun (p, n) i =>
      let t := (p.get i).intro
      let (new, next) := numberFrom t n
      (if new = t then p else p.modify i (·.setIntro new), next))
    (p, 1)).1

def groups (c : Config) (p : Page) : List (List Nat) :=
  ((p.languages.flatMap (roots p)).filter (isSafe p)).map (successive c p)

/-!
# Repeated titles
-/

/-- A line with the title in bold, possibly as an English infinitive. -/
def titleLine (title : Text) : Pattern :=
  .atLineStart ++ "'''" ++ .maybe "to " ++ .lit title ++ "'''" ++ .atLineEnd

def removeTitles (x : Context) (p : Page) : Page :=
  (p.order.filter fun i => Marks.isTermHeader x.config (p.strippedHeader i)).foldl
    (fun p i =>
      let t := (p.get i).intro
      let new := Region.replaceOutside t (titleLine x.title) []
      if new = t then p else p.modify i (·.setIntro new))
    p

end Definitions

namespace Rule

open Definitions in
def definitionLists : Rule where
  name := "convert_hashed_definitions"
  run x t :=
    x.onCurrentPage t fun p =>
      let p := convertLists p (listSections x.config p)
      .ok (Outcome.ofPage? t p "convirtiendo # a numeración continua")

open Definitions in
def definitionNumbers : Rule where
  name := "fix_definition_numbering"
  run x t :=
    x.onCurrentPage t fun p =>
      .ok (Outcome.ofPage? t ((groups x.config p).foldl numberSections p)
        "corrigiendo numeración de definiciones")

open Definitions in
def repeatedTitles : Rule where
  name := "remove_definition_headers"
  run x t :=
    x.onCurrentPage t fun p =>
      .ok (Outcome.ofPage? t (removeTitles x p) "eliminando encabezamientos de definiciones")

end Rule
end WikiEntry
