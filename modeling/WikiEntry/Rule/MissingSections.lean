import WikiEntry.Rule.EtymologyLines
import WikiEntry.Rule.References

/-!
# Missing sections

A complete entry has an etymology for each word, translations of each Spanish word, and references.  The
sections that are missing are added with what they usually begin with.
-/

namespace WikiEntry
namespace MissingSections

/-!
# Etymologies
-/

/-- Whether a language has a word that lacks an etymology. -/
def lacksEtymology (c : Config) (p : Page) (i : Nat) : Bool :=
  let children := p.children i
  !children.isEmpty && !p.hasBelow i Marks.etymologyHeader && !p.hasBelow i Marks.inflectionHeader
    && !(p.get i).languageCode?.any Marks.reconstructedLanguages.contains
    && !Marks.isReduced c p i && !children.all fun j => c.isStandardHeader (p.strippedHeader j)

/-- The template of an etymology that is not known. -/
def unknownEtymology (code : Option Text) : Text :=
  match code.filter fun code => !code.sameIgnoringCase "es" with
  | some code => "\x7b\x7betimología|leng=" ++ code ++ "\x7d\x7d."
  | none => "\x7b\x7betimología\x7d\x7d."

/-- Adds an etymology with the etymology lines of its language. -/
def addEtymology (p : Page) (i : Nat) : Except EntryError Page := do
  let new ← Section.ofHeader "Etimología" 3
  let (language, etymology) := EtymologyLines.move (p.get i) (new.setTrailing 1)
  let etymology :=
    if EtymologyLines.hasEtymology etymology.intro then etymology
    else etymology.setIntro (unknownEtymology language.languageCode?)
  let (p, j) := (p.modify i fun _ => language).create etymology
  (p.prependChildren i [j]).toExcept

/-!
# Translations
-/

def translationsHeader : Pattern :=
  .whole "Traducciones"

/-- Whether a section may get translations on account of an etymology. -/
def lacksTranslations (p : Page) (etymology i : Nat) : Bool :=
  p.level etymology == 3 && !p.hasBelow i translationsHeader && !p.hasBelow i Marks.inflectionHeader

/-- The sections that lack translations, with the level of these: the language if it has one etymology, and
else its etymologies. -/
def untranslated (p : Page) (language : Nat) : List (Nat × Nat) :=
  match p.findBelow language Marks.etymologyHeader with
  | [only] => if lacksTranslations p only language then [(language, 3)] else []
  | several => (several.filter fun i => lacksTranslations p i i).map (·, 4)

/-- The Spanish section, if translations are expected in it; surnames and pointers have none. -/
def translatable? (c : Config) (p : Page) : Option Nat :=
  (p.language? "es").filter fun i =>
    !Marks.hasTemplate (p.renderSection i) "apellido" && !Marks.isReduced c p i

def addTranslations (p : Page) (target : Nat × Nat) : Except EntryError Page := do
  let new ← Section.ofHeader "Traducciones" target.2
  let (p, j) := p.create ((new.setIntro Marks.translationsFrame).setTrailing 1)
  (p.appendChildren target.1 [j]).toExcept

/-!
# The whole page
-/

def lacksReferences (p : Page) : Bool :=
  (p.findSections Marks.referencesAndNotesHeader).isEmpty && p.references?.isNone

def complete (x : Context) (p : Page) : Except EntryError (Page × List Text) := do
  let mut added : List Text := []
  let mut p := p
  if !x.title.contains ' ' then
    for i in p.languages do
      if lacksEtymology x.config p i then
        p ← addEtymology p i
        added := addOnce added "Etimología"
  if let some spanish := translatable? x.config p then
    for target in untranslated p spanish do
      p ← addTranslations p target
      added := addOnce added "Traducciones"
  if lacksReferences p then
    p ← References.close p []
    added := addOnce added Marks.referencesAndNotes
  return (p, added)

/-!
# The form of translations
-/

/-- Whether a section of translations holds none, and says nothing of the form to give them in. -/
def isBare (t : Text) : Bool :=
  !t.hasInfix "\x7b\x7bt+|" && !t.hasInfix "trad-véase" && Marks.hasTemplate t "trad-arriba"
    && !Marks.hasTemplate t "t+"

def addComment (t : Text) : Text :=
  Template.replaceNamed t "trad-arriba" fun u => some (u.render ++ "\n" ++ Marks.translationsComment)

end MissingSections

namespace Rule

open MissingSections in
def missingSections : Rule where
  name := "add_missing_sections"
  run x t :=
    x.onCurrentPage t fun p => do
      if p.order.isEmpty then return none
      let (p, added) ← complete x p
      return if added.isEmpty then none
        else Outcome.ofPage? t p ("añadiendo secciones: " ++ Text.joinWith ", " added)

open MissingSections in
def translationsForm : Rule where
  name := "add_translations_example_comment"
  run x t := do
    let p ← x.read t
    let bare := (p.findSections translationsHeader).filter fun i => isBare (p.get i).intro
    let p := bare.foldl (fun p i => p.modify i fun s => s.setIntro (addComment s.intro)) p
    return Outcome.of? t p.render none

end Rule
end WikiEntry
