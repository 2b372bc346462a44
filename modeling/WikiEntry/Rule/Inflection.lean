import WikiEntry.Rule.SectionTemplates

/-!
# Inflected forms

A section that only points at the forms of a word is headed as a form, has no table of inflections, and does
not stand beside the entry of a word of its own.
-/

namespace WikiEntry
namespace Inflection

/-!
# Tables
-/

def isParticiple (t : Text) : Bool :=
  Marks.hasTemplate t "participio"
    || (Template.locatedNamed t "forma").any fun x =>
      (x.2.get? "2").any fun form => form.lower.hasInfix "participio"

/-- Removes the tables of inflections, which only participles keep. -/
def removeTables (s : Section) : Section :=
  let t := s.intro
  if t.hasInfix "\x7b\x7binflect." && !isParticiple t then
    let new := Template.replace t fun u => if u.trimmedName.startsWith "inflect." then some [] else none
    if new = t then s else s.setIntro new
  else s

/-!
# Headers
-/

/-- Whether a text has definitions, and all of them point at an inflected form. -/
def hasOnlyForms (c : Config) (t : Text) : Bool :=
  let t := Region.stripHidden t
  let meanings := (Marks.definition.matchList t).map (·.text t 4)
  !meanings.isEmpty
    && meanings.all fun meaning => c.settings.inflectedFormTemplates.any (Marks.hasTemplate meaning)

def soleTemplate? (header : Text) : Option Template :=
  if Template.spans header = [⟨0, header.length⟩] then Template.parse? header else none

/-- The header of the forms of what a section template stands for. -/
def formHeader? (c : Config) (header : Text) : Option Text := do
  let u ← soleTemplate? header
  let name := Template.nameForm u.trimmedName
  if c.isSectionTemplate name || (c.compound? name).isSome then
    let k ← SectionTemplates.category? c name u
    let adjectives := (k.first :: k.second.toList).map (·.adjectiveForm .feminine false)
    return "Forma " ++ Text.joinWith " " adjectives
  else none

/-- The sections of words that hold nothing but forms. -/
def formSections (c : Config) (p : Page) : List Nat :=
  p.order.filter fun i =>
    let t := (p.get i).intro
    !p.isLanguage i && (p.languageOf? i).isSome && (p.children i).isEmpty
      && !(p.header i).lower.hasInfix "forma" && !Marks.hasNumberedLines t
      && Marks.isTermHeader c (p.strippedHeader i) && hasOnlyForms c t

/-- Heads a section as a form, unless its language has a section with that header. -/
def convertHeader (c : Config) (p : Page) (i : Nat) : Page :=
  if p.header i = p.strippedHeader i then
    match formHeader? c (p.header i), p.languageOf? i with
    | some header, some language =>
        if (p.descendants language).any fun j => p.header j == header then p
        else p.modify i (·.setHeader c header)
    | _, _ => p
  else p

/-!
# Mixed languages
-/

/-- The first header below a language that cannot stand beside the forms that are there. -/
def misplaced? (c : Config) (p : Page) (language : Nat) : Option Text :=
  let headers := (p.descendants language).map p.strippedHeader
  if headers.any Marks.inflectionHeader.matchesIn then
    headers.find? fun header => !Marks.inflectionHeader.matchesIn header && !c.isStandardHeader header
  else none

end Inflection

namespace Rule

open Inflection in
def inflectionTables : Rule where
  name := "remove_inflection_templates"
  run x t :=
    if t.hasInfix "\x7b\x7binflect." then
      x.onCurrentPage t fun p =>
        let p := (p.findSections Marks.inflectionHeader).foldl (fun p i => p.modify i removeTables) p
        .ok (Outcome.ofPage? t p "eliminando plantillas de flexión")
    else .ok none

open Inflection in
def inflectionHeaders : Rule where
  name := "convert_headers_to_flexive_form"
  run x t :=
    x.onCurrentPage t fun p =>
      let p := (formSections x.config p).foldl (convertHeader x.config) p
      .ok (Outcome.ofPage? t p "revisando títulos de sección de formas flexivas")

open Inflection in
def inflectionCheck : Rule where
  name := "check_flexive_form_headers"
  run x t :=
    x.onCurrentPage t fun p =>
      match p.languages.findSome? fun i => (misplaced? x.config p i).map (i, ·) with
      | some (i, header) => .error (.structural (.mixedInflection header (p.header i)))
      | none => .ok none

end Rule
end WikiEntry
