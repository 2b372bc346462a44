import WikiEntry.Rule.Marks

/-!
# White space

The last two rules tidy white space.  The strong one removes superfluous blank lines and spaces; the weak one
only sees to the usual layout, and its changes are not worth a summary.
-/

namespace WikiEntry
namespace WhiteSpace

/-!
# Patterns
-/

def trailingSpaces : Pattern :=
  .rounds1 (.alt " " "&nbsp;") ++ "\n"

def blankLines : Pattern :=
  .run true 3 none (.char '\n')

def spacedFootnote : Pattern :=
  .group 1 (.anyText (Text.listOf [".", "]]", "\x7d\x7d", ")"])) ++ " <ref" ++ .group 2 (.alt ">" " ")

def disambiguation : Pattern :=
  "\x7b\x7b" ++ .one (.oneOf ['D', 'd']) ++ "esambiguación" ++ .many (.char '|') ++ "\x7d\x7d" ++ .atEnd

def clearTemplate : Pattern :=
  .group 1 (.one (.noneOf ['\n'])) ++ .maybeOne (.char '\n') ++ "\x7b\x7bclear\x7d\x7d"

/-- A text in front of the sections that needs no blank line behind it. -/
def isBare (t : Text) : Bool :=
  let t := (Region.stripHidden t).trim
  t.isEmpty || disambiguation.matchesIn t

/-- The sections whose definitions are spaced: not languages, references or standard sections. -/
def definitionSections (c : Config) (p : Page) : List Nat :=
  p.order.filter fun i =>
    p.references? != some i && !p.isLanguage i && !c.isStandardHeader (p.strippedHeader i)

def reviseDefinitions (p : Page) (f : Text → Match → Option Text) (ids : List Nat) : Page :=
  ids.foldl
    (fun p i =>
      let t := (p.get i).intro
      let new := Region.reviseOutside t Marks.definition (f t)
      if new = t then p else p.modify i (·.setIntro new))
    p

/-!
# The strong rule
-/

def tidySpaces (t : Text) : Text :=
  let t := Region.replaceOutside t trailingSpaces "\n"
  let t := Region.replaceOutside t " &nbsp;" " "
  Region.replaceOutside t "&nbsp; " " "

def limitFront (p : Page) : Page :=
  let p := if 1 < p.body.leading then { p with body := p.body.setLeading 0 } else p
  let p := if 1 < p.body.trailing then { p with body := p.body.setTrailing 1 } else p
  if p.body.trailing = 1 && !p.intro.isEmpty && isBare p.intro then { p with body := p.body.setTrailing 0 }
  else p

def limitSection (s : Section) : Section :=
  let s := if 1 < s.body.leading then s.setLeading 1 else s
  if 1 < s.body.trailing then s.setTrailing 1 else s

/-- Puts a space in front of a label that follows the number directly. -/
def spaceLabel (t : Text) (m : Match) : Option Text :=
  (m.group? 2).bind fun label =>
    if (t.slice label).startsWith " " then none
    else some (t.slice ⟨m.start, label.start⟩ ++ ' ' :: t.slice ⟨label.start, m.stop⟩)

def modifyAll (p : Page) (f : Section → Section) : Page :=
  p.order.foldl (fun p i => p.modify i f) p

def tidyPrinted (t : Text) : Text :=
  let t := Region.replaceOutside t blankLines "\n\n"
  let t := Region.replaceOutside t "\n\n<!--" "\n<!--"
  Region.expandOutside t spacedFootnote "$1<ref$2"

/-!
# The weak rule
-/

def layOutFront (p : Page) : Page :=
  let p := if p.body.leading = 1 then { p with body := p.body.setLeading 0 } else p
  let p :=
    if p.intro.isEmpty && p.body.trailing = 1 then { p with body := p.body.setTrailing 0 } else p
  if !p.intro.isEmpty && p.body.trailing = 0 && !isBare p.intro then { p with body := p.body.setTrailing 1 }
  else p

def layOutSection (s : Section) : Section :=
  let closed := !s.intro.isEmpty && !s.intro.endsWith "<br clear=\"all\">"
  let s := if closed || (s.intro.isEmpty && s.body.trailing = 0) then s.setTrailing 1 else s
  let s := s.setFormat (if s.header.isEmpty then .blank else .spaced)
  if s.body.leading = 1 then s.setLeading 0 else s

/-- The number follows its semicolon directly, and one space stands between the colons and the text. -/
def spaceMeaning (t : Text) (m : Match) : Option Text :=
  match m.group? 1, m.group? 3, m.group? 4 with
  | some number, some colons, some meaning =>
      let numberText := t.slice number
      let colonText := t.slice colons
      let meaningText := t.slice meaning
      if meaningText.isBlank then none
      else if !numberText.startsWith " " && !colonText.startsWith " " && meaningText.startsWith " " then none
      else
        some (t.slice ⟨m.start, number.start⟩ ++ numberText.trim ++ t.slice ⟨number.stop, colons.start⟩
          ++ colonText.trim ++ ' ' :: meaningText.trim)
  | _, _, _ => none

end WhiteSpace

namespace Rule

open WhiteSpace in
def strongWhiteSpace : Rule where
  name := "strong_whitespaces"
  run x t := do
    let p ← x.read (tidySpaces t)
    let p := modifyAll (limitFront p) limitSection
    let p := reviseDefinitions p spaceLabel (definitionSections x.config p)
    return Outcome.of? t (tidyPrinted p.render) (some "espacios en blanco")

open WhiteSpace in
def weakWhiteSpace : Rule where
  name := "weak_whitespaces"
  run x t := do
    let p ← x.read t
    let p := modifyAll (layOutFront p) layOutSection
    let p := reviseDefinitions p spaceMeaning (definitionSections x.config p)
    return Outcome.of? t (Region.expandOutside p.render clearTemplate "$1\n\n\x7b\x7bclear\x7d\x7d") none

end Rule
end WikiEntry
