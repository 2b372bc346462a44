import WikiEntry.Rule.Marks
import WikiEntry.Grammar.Category
import WikiEntry.Text.Offset

/-!
# Section templates

The header of a part of speech is a template that gives the language.  A qualifier in the header goes into
the template: the two together may be a category that has a template of its own.
-/

namespace WikiEntry
namespace SectionTemplates

/-!
# Categories of templates
-/

/-- The category that a section template stands for: that of its name, or that of its name and of its
second parameter. -/
def category? (c : Config) (name : Text) (u : Template) : Option Category :=
  match c.compound? name with
  | some (first, second) => Category.ofPair? first second
  | none =>
      (Descriptor.ofForm name).toOption.bind fun first =>
        match u.get? "2" with
        | none => Category.ofHead? first
        | some second => (Descriptor.ofForm second).toOption.bind (Category.ofPair? first)

/-- The later of two categories, unless the singular of the earlier one is longer. -/
def longer (best : Option Category) (k : Category) : Option Category :=
  match best with
  | some b => if k.singular.byteSize < b.singular.byteSize then some b else some k
  | none => some k

/-- The category of a head with the longest singular that begins a text. -/
def longestStart? (first : Descriptor) (t : Text) : Option Category :=
  ((Descriptor.all.filterMap (Category.ofPair? first)).filter fun k => t.startsWith k.singular).foldl
    longer none

def withCode (name code : Text) : Text :=
  "\x7b\x7b" ++ name ++ "|" ++ code ++ "\x7d\x7d"

def withQualifier (name code : Text) (second : Descriptor) : Text :=
  "\x7b\x7b" ++ name ++ "|" ++ code ++ "|" ++ second.singularForm ++ "\x7d\x7d"

/-- Puts `new` in the place of `start`, with which the text begins. -/
def replaceStart (t start new : Text) : Text :=
  new ++ t.drop start.length

/-- The text with the longest category at its beginning as a template. -/
def foldQualifier? (name code : Text) (first : Descriptor) (t : Text) : Option Text := do
  let k ← longestStart? first t
  let second ← k.second
  return replaceStart t k.singular (withQualifier name code second)

/-!
# Headers that begin with a template
-/

/-- The template with which a header begins, and where it ends. -/
def opening? (header : Text) : Option (Nat × Template) :=
  ((Template.spans header).find? fun s => s.start == 0).bind fun s =>
    (Template.parse? (header.slice s)).map (s.stop, ·)

/-- Takes a qualifier behind the template into it as second parameter. -/
def takeQualifier? (code header : Text) (stop : Nat) (u : Template) : Option (Text × Nat × Template) :=
  let name := Template.nameForm u.trimmedName
  if u.has "1" && u.params.length == 1 && Text.startsWith (header.drop stop) " " then do
    let first ← (Descriptor.ofForm name).toOption
    let folded ← foldQualifier? name code first (name ++ header.drop stop)
    let (stop, u) ← opening? folded
    return (folded, stop, u)
  else none

/-- The template for the name of a template and its second parameter. -/
def compoundFor? (c : Config) (name : Text) (u : Template) : Option Text :=
  if u.has "2" && !u.has "3" then do
    let first ← (Descriptor.ofForm name).toOption
    let second ← u.get? "2"
    let second ← (Descriptor.ofForm second).toOption
    c.compoundName? first second
  else none

/-- Takes qualifiers into the template with which a header begins. -/
def foldHeader (c : Config) (code header : Text) : Text :=
  match opening? header with
  | none => header
  | some (stop, u) =>
      let name := Template.nameForm u.trimmedName
      let (header, stop, u) := (takeQualifier? code header stop u).getD (header, stop, u)
      match compoundFor? c name u with
      | some compound => ((u.setName compound).remove "2").render ++ header.drop stop
      | none => header

/-- Whether a header begins with a section template that is no compound already. -/
def isFoldable (c : Config) (header : Text) : Bool :=
  !header.any (fun x => x = '[' || x = ']' || x = '<' || x = '>')
    && (opening? header).any fun x =>
      let name := Template.nameForm x.2.trimmedName
      c.isSectionTemplate name && (c.compound? name).isNone

/-- Changes the headers below all languages, each with the code of its language. -/
def modifyHeaders (c : Config) (p : Page) (f : (code header : Text) → Text) : Page :=
  p.languagesWithCodes.foldl
    (fun p (language, code) =>
      (p.descendants language).foldl
        (fun p i =>
          let new := f code (p.header i)
          if new = p.header i then p else p.modify i (·.setHeader c new))
        p)
    p

/-!
# Headers in prose
-/

/-- The header with its beginning, the name of a section template, as a template. -/
def proseHeader? (code header name : Text) : Option Text :=
  if header = name then some (withCode name code)
  else if !header.contains ' ' then none
  else
    let word := header.takeWhile (· ≠ ' ')
    match Descriptor.ofForm word with
    | .error _ => some (replaceStart header word (withCode name code))
    | .ok first =>
        some ((foldQualifier? name code first header).getD (replaceStart header name (withCode name code)))

def longestFirst (names : List Text) : List Text :=
  names.mergeSort fun a b => b.byteSize ≤ a.byteSize

def compoundNames (c : Config) : List Text :=
  longestFirst (c.compounds.map Prod.fst)

def simpleNames (c : Config) : List Text :=
  longestFirst (c.settings.sectionTemplates.filter fun name => (c.compound? name).isNone)

/-- The header with a template for the part of speech with which it begins. -/
def templateHeader? (c : Config) (code header : Text) : Option Text :=
  let lowered := header.lower
  match (compoundNames c).find? lowered.startsWith with
  | some name => some (replaceStart lowered name (withCode name code))
  | none => ((simpleNames c).filter lowered.startsWith).findSome? (proseHeader? code lowered)

def isProse (header : Text) : Bool :=
  !header.isEmpty && !header.any ("\x7b\x7d[]<>" : Text).contains

end SectionTemplates

namespace Rule

open SectionTemplates in
def qualifiers : Rule where
  name := "manage_section_templates"
  run x t := do
    let p ← x.read t
    let p := modifyHeaders x.config p fun code header =>
      if isFoldable x.config header then foldHeader x.config code header else header
    return Outcome.ofPage? t p "revisando plantillas de sección"

open SectionTemplates in
def sectionTemplates : Rule where
  name := "add_section_templates"
  run x t := do
    let p ← x.read t
    let p := modifyHeaders x.config p fun code header =>
      if isProse header then (templateHeader? x.config code header).getD header else header
    return Outcome.ofPage? t p "añadiendo plantillas de sección"

end Rule
end WikiEntry
