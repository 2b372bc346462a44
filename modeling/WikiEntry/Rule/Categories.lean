import WikiEntry.Rule.SectionTemplates

/-!
# Categories of an entry

Links to categories are removed where a template of the entry puts it into the category anyway.
-/

namespace WikiEntry
namespace Categories

def categoryName (code category : Text) : Text :=
  code.upper ++ ":" ++ category.capitalize

/-- The categories of a section template: that of its category, that of the head, and for phrases that of
the qualifier. -/
def ofTemplate (c : Config) (name : Text) (u : Template) : List Text :=
  match u.get? "1", SectionTemplates.category? c name u with
  | some code, some k =>
      if code.isEmpty then []
      else
        categoryName code k.plural ::
          match k.second with
          | none => []
          | some second =>
              categoryName code k.first.pluralForm
                :: if k.first = .phrase then [categoryName code second.pluralForm] else []
  | _, _ => []

def ofTemplates (c : Config) (t : Text) : List Text :=
  (Template.located t).flatMap fun x =>
    (c.settings.sectionTemplates.filter x.2.isNamed).flatMap fun name => ofTemplate c name x.2

def ofLanguage (c : Config) (h : LanguageHeader) : Option Text :=
  if h.hasCode "es" then some "Español"
  else ((c.languageName? h.code).filter (!·.isEmpty)).map fun name => name.capitalize ++ "-Español"

def ofLanguages (c : Config) (p : Page) : List Text :=
  p.languages.filterMap fun i => (p.get i).language?.bind (ofLanguage c)

/-- A link is implied if its category is one of these and it sorts the page under its own title. -/
def isImplied (title : Text) (implied : List Text) (link : Text) : Bool :=
  (link.splitOnce? "|").any fun (category, keys) =>
    let key := keys.takeWhile (· ≠ '|')
    (key == title || key == "\x7b\x7bPAGENAME\x7d\x7d") && implied.contains category.trim

def removeImplied (title : Text) (implied : List Text) (t : Text) : Text :=
  Region.reviseOutside t Marks.categoryLink fun m =>
    if isImplied title implied (m.text t 1) then some [] else none

end Categories

namespace Rule

open Categories in
def impliedCategories : Rule where
  name := "remove_category_links"
  run x t := do
    let p ← x.read t
    let implied := ofTemplates x.config t ++ ofLanguages x.config p
    return if implied.isEmpty then none
      else Outcome.of? t (removeImplied x.title implied t) (some "eliminando categorías redundantes")

end Rule
end WikiEntry
