import WikiEntry.Rule.EtymologyLines
import WikiEntry.Rule.Headers
import WikiEntry.Rule.Levels

/-!
# The legacy layout

Pages used to have a template instead of a header for each language, with everything else on the level of
the languages.  Such a page gets a header for each language, and below it one section for each etymology.
Pages that cannot be arranged without doubt are marked for somebody to look at.
-/

namespace WikiEntry
namespace LegacyLayout

/-!
# Language templates
-/

def currentNames : List Text :=
  ["lengua", "translit"]

/-- Whether a name is that of a language template, of the present or of the legacy layout. -/
def isLanguageTemplate (name : Text) : Bool :=
  (Text.listOf ["ES", "TRANS", "TRANSLIT"]).contains name || currentNames.contains name
    || (Text.before? "-ES" name).any fun language =>
      !language.isEmpty && language.all fun c => Chars.isAlphanumeric c || c = '_' || c = '-'

/-- The legacy names are in capitals; other names with that ending mean something else. -/
def isLegacyName (name : Text) : Bool :=
  name == "Chono-ES" || name == name.upper

def codeOf (name : Text) : Text :=
  if name = "TRANS" then "trans" else (name.replace "-ES" []).lower

def unparsedTag : Pattern :=
  ("<" ++ .maybeOne (.char '/') ++ "nowiki" ++ .spaces ++ ">" : Pattern).ignoringCase

def plainApostrophes (t : Text) : Text :=
  t.map fun c => if c = 'ʼ' then '\'' else c

/-- Whether a spelling given for a word says more than the title. -/
def isSpelling (title spelling : Text) : Bool :=
  !spelling.isEmpty && spelling != "\x7b\x7bPAGENAME\x7d\x7d"
    && plainApostrophes spelling != plainApostrophes title && unparsedTag.replaceAll spelling [] != title

/-- The spelling that a legacy template gives, or the empty text. -/
def spellingOf (title : Text) (u : Template) : Text :=
  ((u.get? "1").filter (isSpelling title)).getD []

/-- The header template for a legacy template, with its named parameters but for the number. -/
def languageTemplate (code spelling : Text) (u : Template) : Template :=
  let keep (v : Template) : Param → Template
    | .named key value =>
        if key.trim = "num" ∨ key.trim = "núm" then v else v.set key.trim value.trim
    | .positional _ _ => v
  let v := u.params.foldl keep ((Template.ofName "lengua").setPositional 1 code)
  if spelling.isEmpty then v else v.set "alt" spelling

/-- The mark by which a header opens a further etymology of a language. -/
def groupMark : Text :=
  "ETYM "

def isComment (t : Text) : Bool :=
  t.startsWith "<!--" && t.endsWith "-->" && 7 < t.length

/-- A line with a header in the place of a legacy template; other text goes to lines of its own. -/
def headerLine (before header after : Text) : Text :=
  let front : Text := if before.all EtymologyLines.isMarker then [] else before ++ "\n"
  let back : Text := if after.isEmpty || isComment after then [] else '\n' :: after
  front ++ "=" ++ header ++ "=" ++ back

/-- The first language template on a line, out of those of the text. -/
def languageTemplateOn? (templates : List (Span × Template)) (place : Nat) (line : Text) :
    Option (Span × Template) :=
  templates.find? fun (s, u) =>
    place ≤ s.start && s.stop ≤ place + line.length && isLanguageTemplate u.trimmedName

/-- Replaces the legacy template of a line by a header.  A template for the `language` that is open
already opens a further etymology of it.  The language that is open after the line is returned too. -/
def headLine (title : Text) (templates : List (Span × Template)) (place : Nat) (line language : Text) :
    Text × Text :=
  match languageTemplateOn? templates place line with
  | none => (line, language)
  | some (s, u) =>
      let name := u.trimmedName
      if currentNames.contains name then (line, ((u.get? "1").map Text.lower).getD language)
      else if !isLegacyName name then (line, language)
      else
        let code := codeOf name
        let spelling := spellingOf title u
        let header :=
          if language = code then groupMark ++ "alt-" ++ spelling
          else (languageTemplate code spelling u).render
        let after := Text.trimLeftBy (line.drop (s.stop - place)) (· == ' ')
        (headerLine (line.take (s.start - place)) header after, code)

def headLines (title : Text) (templates : List (Span × Template)) :
    (language : Text) → List (Nat × Text) → List Text
  | _, [] => []
  | language, (place, line) :: lines =>
      let (line, language) := headLine title templates place line language
      line :: headLines title templates language lines

/-- Replaces the legacy templates of a text by headers of level 1. -/
def insertHeaders (title t : Text) : Text :=
  let ignored := Region.ignored t
  let templates := (Template.located t).filter fun x => !Region.covers ignored x.1.start
  Text.joinWith "\n" (headLines title templates [] t.placedLines)

/-!
# Levels
-/

def referencesHeader : Pattern :=
  .whole (.maybe ("<small" ++ .spaces ++ ">") ++ .spaces ++ .one (.oneOf ['R', 'r']) ++ "eferencias"
    ++ .restOfLine)

/-- Takes the references out, as sections of level 2. -/
def takeReferences (c : Config) (p : Page) : Except EntryError (Page × List Section) := do
  let ids := p.findSections referencesHeader
  let references ← ids.mapM fun i => ((p.get i).setHeader c Marks.referencesAndNotes).setLevel 2
  return (ids.foldl Page.detachAlone p, references)

/-- Puts everything outside languages one level down, as far as that is possible. -/
def lower (p : Page) : Page :=
  p.putLevels ((p.order.filter fun i => (p.languageOf? i).isNone && p.level i < 6).map fun i =>
    (i, p.level i + 1))

/-!
# Spellings
-/

/-- The header of a further etymology, with the spelling as group. -/
def groupHeader : Pattern :=
  .whole (.lit (groupMark ++ "alt-") ++ .group 1 .restOfLine)

def isGroup (p : Page) (i : Nat) : Bool :=
  (p.header i).startsWith groupMark

/-- The spelling that the header of a section gives. -/
def spellingOfHeader? (s : Section) : Option Text :=
  let spelling : Option Text := match s.language? with
    | some h => h.param? "alt"
    | none => (groupHeader.find? s.header).map fun m => Text.trim (m.text s.header 1)
  spelling.filter (!·.isEmpty)

/-- Writes a spelling into the text of a section: into its only table of pronunciations, or on a line of its
own, or into a comment if there is such a line. -/
def writeSpelling (s : Section) (spelling : Text) : Section :=
  let t := s.intro
  match Template.locatedNamed t "pron.la" with
  | [(place, u)] =>
      if u.has "alt" then s
      else s.setIntro (Edit.applyAll t [⟨place, (u.set "alt" spelling).render⟩])
  | _ =>
      if !Marks.hasTemplate t "diacrítico" && !t.hasInfix "Diacrítico:" then
        s.setIntro (t ++ "\n\x7b\x7bdiacrítico|" ++ spelling ++ "\x7d\x7d.")
      else s.setIntro ("<!-- NO EDITAR: alt=" ++ spelling ++ " -->\n" ++ t)

def moveSpelling (s : Section) : Section :=
  match spellingOfHeader? s with
  | some spelling => (writeSpelling s spelling).removeLanguageParam "alt"
  | none => s

/-!
# Etymologies
-/

def firstEtymologyHeader : Pattern :=
  .whole (.one (.oneOf ['E', 'e']) ++ "timolog" ++ .one (.oneOf ['í', 'i']) ++ "a" ++ .maybe " 1")

def pronunciationHeader : Pattern :=
  .atStart ++ .one (.oneOf ['P', 'p']) ++ "ronunciaci" ++ .one (.oneOf ['ó', 'o']) ++ "n"

/-- Two texts, one below the other, with the etymology lines at the end. -/
def mergeIntros (above below : Text) : Text :=
  let merged := (above ++ "\n" ++ below).trim
  if merged.lines.length < 2 then merged
  else
    let (rest, lines) := EtymologyLines.take merged
    if lines.isEmpty then merged else rest.trim ++ "\n" ++ Text.joinWith "\n\n" lines

/-- Gives an etymology the text above it; a language keeps none. -/
def mergeInto (p : Page) (i : Nat) (etymology : Section) : Page × Section :=
  let merged := etymology.setIntro (mergeIntros (p.get i).intro etymology.intro)
  (if p.isLanguage i then p.modify i fun s => (s.setIntro []).setTrailing 1 else p, merged)

/-- The code of the language to which a section belongs: that of the nearest language before it. -/
def codeBefore? (p : Page) (i : Nat) : Option Text :=
  (p.position? i).bind fun n => (p.order.take (n + 1)).reverse.findSome? fun j => (p.get j).languageCode?

/-- Languages that get no etymology, unless they have the template of one. -/
def isExempt (x : Context) (p : Page) (i : Nat) : Bool :=
  !EtymologyLines.hasEtymology (p.get i).intro
    && (x.title.contains ' ' || (p.get i).languageCode?.any Marks.reconstructedLanguages.contains
      || Marks.isReduced x.config p i)

/-- Whether the etymologies below a section are further ones, besides that of its own text. -/
def hasFurther (p : Page) (i first : Nat) : Bool :=
  (p.next? i).any fun next =>
    first != next && !firstEtymologyHeader.matchesIn (p.strippedHeader first)
      && !pronunciationHeader.matchesIn (p.header next)

def nextSibling? (p : Page) (i : Nat) : Option Nat :=
  ((p.siblings i).dropWhile (· != i))[1]?

def dropGroup (p : Page) (i : Nat) : Page :=
  if p.isLanguage i then p else p.detachAlone i

/-- Puts a new etymology below a section.  In a language with a single etymology it gets the etymology lines,
and otherwise the whole text. -/
def addEtymology (p : Page) (i : Nat) (linesOnly : Bool) : Except EntryError Page := do
  let new := (← Section.ofHeader "Etimología" 3).setTrailing 1
  let (p, etymology) :=
    if linesOnly then
      let (s, etymology) := EtymologyLines.move (p.get i) new
      (p.modify i fun _ => s, etymology)
    else mergeInto p i new
  let etymology :=
    if etymology.intro.isEmpty then
      etymology.setIntro ("\x7b\x7betimología|leng=" ++ (codeBefore? p i).getD "es" ++ "\x7d\x7d.")
    else etymology
  let (p, j) := p.create etymology
  (p.prependChildren i [j]).toExcept

/-- Gives the first etymology below a group the text of the group. -/
def mergeGroup (p : Page) (i first : Nat) : Except EntryError Page := do
  let p ← (p.setLevel first 3).toExcept
  let (p, merged) := mergeInto p i (p.get first)
  return p.modify first (·.setIntro merged.intro)

/-- Arranges a language or a group around its etymologies; `none` if it is not clear which etymology the
text of a language belongs to. -/
def arrange? (x : Context) (p : Page) (i : Nat) : Except EntryError (Option Page) := do
  let isLanguage := p.isLanguage i
  let etymologies := p.findBelow i Marks.anyEtymologyHeader
  let groupFollows := (nextSibling? p i).any (isGroup p)
  if !p.isAttached i then return p
  if etymologies.isEmpty && isLanguage && isExempt x p i then return p
  if (p.get i).intro.isEmpty && (p.children i).isEmpty then
    return if isLanguage then p else p.detach i
  if isLanguage && p.hasBelow i Marks.inflectionHeader && !groupFollows then return p
  match etymologies with
  | [] => return dropGroup (← addEtymology p i (isLanguage && !groupFollows)) i
  | first :: _ =>
      if hasFurther p i first then return dropGroup (← addEtymology p i false) i
      else if isLanguage then
        return if firstEtymologyHeader.matchesIn (p.strippedHeader first) then some p else none
      else return (← mergeGroup p i first).detachAlone i

def arrangeAll? (x : Context) : Page → List Nat → Except EntryError (Option Page)
  | p, [] => .ok p
  | p, i :: ids => do
      match ← arrange? x p i with
      | some p => arrangeAll? x p ids
      | none => return none

/-!
# The new layout
-/

def dropEmptyLanguages (p : Page) : Page :=
  p.languages.foldl
    (fun p i => if (p.get i).intro.isEmpty && (p.children i).isEmpty then p.detach i else p) p

/-- Settles the levels around the etymologies of a language, and heads these. -/
def settleLanguage (c : Config) (p : Page) (i : Nat) : Except EntryError Page := do
  let etymologies := p.findBelow i Marks.anyEtymologyHeader
  let p ← match etymologies with
    | [] => pure p
    | [etymology] => Levels.shiftAll p (p.children etymology) (-1)
    | several => Levels.shiftAll p ((p.children i).filter fun j => !several.contains j) 1
  return (etymologies.zip (Headers.etymologyHeaders etymologies.length)).foldl
    (fun p (j, header) => p.modify j (·.setHeader c header)) p

/-- Marks a page for somebody to look at, once. -/
def flag (x : Context) (t : Text) : Verdict := do
  if Marks.hasTemplate t "estructura" then return none
  let p ← x.read t
  let mark : Text := "\x7b\x7bestructura\x7d\x7d"
  let intro := if p.intro.isEmpty then mark else p.intro ++ "\n" ++ mark
  return Outcome.ofPage? t { p with body := p.body.setText intro } mark

/-- Templates of pages that are not converted. -/
def manual : List Text :=
  ["TRANSLIT", "TAXO", "carácter oriental"]

def convert (x : Context) (t : Text) : Verdict := do
  let p ← x.read (insertHeaders x.title t)
  let (p, references) ← takeReferences x.config p
  let p ← x.read (lower p).render
  let p := p.order.foldl (fun p i => p.modify i moveSpelling) p
  let targets := p.order.filter fun i => p.isLanguage i || isGroup p i
  match ← arrangeAll? x p targets with
  | none => flag x t
  | some p =>
      let p := (dropEmptyLanguages p).normalizeLevels
      let p ← p.languages.foldlM (settleLanguage x.config) p
      let p := references.foldl (fun p s => (p.append s).1) p
      return Outcome.ofPage? t p "conversión a la nueva estructura"

end LegacyLayout

namespace Rule

open LegacyLayout in
def legacyLayout : Rule where
  name := "transform_to_new_structure"
  run x t :=
    if x.legacy && !manual.any (Marks.hasTemplate (Region.stripHidden t)) then convert x t else .ok none

end Rule
end WikiEntry
