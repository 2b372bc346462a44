import WikiEntry.Rule.Marks

/-!
# The order of an entry

Languages stand in the order of their names, and what lies below a language in the order of the standard
sections.
-/

namespace WikiEntry
namespace Rule

def languageOrder : Rule where
  name := "sort_lang_sections"
  run x t :=
    x.onCurrentPage t fun p => .ok (Outcome.ofPage? t p.sortLanguages "ordenando secciones de idioma")

/-- Languages with forms keep the order of their sections. -/
def sectionOrder : Rule where
  name := "sort_sub_sections"
  run x t :=
    x.onCurrentPage t fun p =>
      let p := p.languages.foldl
        (fun p i => if p.hasBelow i Marks.inflectionHeader then p else p.sortLanguage x.config i) p
      .ok (Outcome.ofPage? t p "ordenando subsecciones")

end Rule
end WikiEntry
