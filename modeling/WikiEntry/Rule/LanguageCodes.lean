import WikiEntry.Rule.Marks

/-!
# Languages of headers and templates

Sections of languages get a template as header, codes are in lower case, and templates below a language name
the same language.
-/

namespace WikiEntry
namespace LanguageCodes

/-!
# Headers
-/

/-- Whether a section stands where languages stand, without being one. -/
def isCandidate (p : Page) (i : Nat) : Bool :=
  p.level i == 2 && p.depth i == 1 && !p.isLanguage i && p.references? != some i

def headerFor (code : Text) : Text :=
  "\x7b\x7blengua|" ++ code ++ "\x7d\x7d"

def insertHeaders (c : Config) (p : Page) : Page :=
  (p.order.filter (isCandidate p)).foldl
    (fun p i =>
      match c.languageCode? (p.header i) with
      | some code => p.modify i (·.setHeader c (headerFor code))
      | none => p)
    p

/-!
# Lower case
-/

/-- Puts a parameter of a template in lower case. -/
def lowerParam? (key : Text) (u : Template) : Option Text :=
  ((u.get? key).filter (!·.isEmpty)).bind fun value =>
    if value.lower = value then none
    else
      match key.readNumber? with
      | some n => some (u.setPositional n value.lower).render
      | none => some (u.set key value.lower).render

/-- Puts a parameter of all templates of some names in lower case. -/
def lowerParams (t : Text) (names : List Text) (key : Text) : Text :=
  Template.replace t fun u => if names.any u.isNamed then lowerParam? key u else none

def lowerHeaders (c : Config) (p : Page) : Page :=
  p.languagesWithCodes.foldl
    (fun p (i, code) => if code.lower = code then p else p.modify i (·.setLanguageCode c code.lower)) p

/-!
# Parameters
-/

/-- The template without a misspelt parameter for the language, with the language in its own parameter; the
second part is the language that it gave, and the third whether the parameter was misspelt. -/
def takeLanguage (u : Template) : Template × Option Text × Bool :=
  let language := u.get? "leng"
  let misspelt := u.has "lang"
  let u := u.remove "lang"
  if u.isNamed "ampliable" then
    match u.get? "1" with
    | some first => (u.remove "1", language.or (some first), misspelt)
    | none => (u, language, misspelt)
  else (u, language, misspelt)

/-- The template with the language of its section; Spanish is not named. -/
def setLanguage? (code : Text) (u : Template) : Option Text :=
  let (u, language, misspelt) := takeLanguage u
  if code.sameIgnoringCase "es" then
    match language with
    | some _ => some (u.remove "leng").render
    | none => if misspelt then some u.render else none
  else
    match language with
    | none => some (u.setAtFront "leng" code).render
    | some l =>
        if !l.sameIgnoringCase code then some (u.set "leng" code).render
        else if misspelt then some u.render
        else none

def setLanguages (c : Config) (t code : Text) : Text :=
  Template.replace t fun u =>
    if c.settings.languageParamTemplates.any u.isNamed then setLanguage? code u else none

def setCodes (c : Config) (header code : Text) : Text :=
  Template.replace header fun u =>
    if c.isSectionTemplate (Template.nameForm u.trimmedName)
        && !(u.get? "1").any (·.sameIgnoringCase code) then
      some (u.setPositional 1 code).render
    else none

def setSection (c : Config) (code : Text) (s : Section) : Section :=
  let intro := setLanguages c s.intro code
  let s := if intro = s.intro then s else s.setIntro intro
  if s.isLanguage || s.header.isEmpty then s
  else
    let header := setLanguages c (setCodes c s.header code) code
    if header = s.header then s else s.setHeader c header

def setPage (c : Config) (p : Page) : Page :=
  p.languagesWithCodes.foldl
    (fun p (language, code) => (p.subtree language).foldl (fun p i => p.modify i (setSection c code)) p) p

end LanguageCodes

namespace Rule

open LanguageCodes in
def languageHeaders : Rule where
  name := "insert_lang_section_templates"
  run x t :=
    x.onCurrentPage t fun p =>
      .ok (Outcome.ofPage? t (insertHeaders x.config p) "insertando plantillas de encabezamiento")

open LanguageCodes in
def languageCodeCase : Rule where
  name := "check_lang_code_case"
  run x t := do
    let p ← x.read t
    let s := x.config.settings
    let lowered := lowerParams (lowerHeaders x.config p).render s.sectionTemplates "1"
    return Outcome.of? t (lowerParams lowered s.languageParamTemplates "leng") none

open LanguageCodes in
def languageParameters : Rule where
  name := "lang_template_params"
  run x t :=
    x.onCurrentPage t fun p => .ok (Outcome.ofPage? t (setPage x.config p) "códigos de idioma")

end Rule
end WikiEntry
