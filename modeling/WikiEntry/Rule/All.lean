import WikiEntry.Rule.Comments
import WikiEntry.Rule.Safety
import WikiEntry.Rule.TemplateNames
import WikiEntry.Rule.Links
import WikiEntry.Rule.LineJoining
import WikiEntry.Rule.LineTemplates
import WikiEntry.Rule.Leftovers
import WikiEntry.Rule.LegacyLayout
import WikiEntry.Rule.LanguageCodes
import WikiEntry.Rule.Headers
import WikiEntry.Rule.References
import WikiEntry.Rule.Footnotes
import WikiEntry.Rule.Inflection
import WikiEntry.Rule.Levels
import WikiEntry.Rule.SuperfluousSections
import WikiEntry.Rule.MissingSections
import WikiEntry.Rule.SectionOrder
import WikiEntry.Rule.EtymologyLines
import WikiEntry.Rule.SectionTemplates
import WikiEntry.Rule.Categories
import WikiEntry.Rule.Clearing
import WikiEntry.Rule.Definitions
import WikiEntry.Rule.WhiteSpace

/-!
# All rules

The rules in the order in which they are applied to a page.
-/

namespace WikiEntry
namespace Rule

def all : List Rule :=
  [boilerplate, safety, templateNamespaces, templateLayout, links, lineJoining, templateNames,
   lineBreaking, leftovers, legacyLayout, languageHeaders, headerSpelling, referencesTitle,
   severalReferences, referencesPlace, inflectionHeaders, inflectionCheck, etymologyNumbers,
   translationWrappers, levels, pronunciation, languageOrder, missingSections, strayLists, sectionOrder,
   inflectionTables, languageCodeCase, languageParameters, qualifiers, sectionTemplates,
   impliedCategories, emptySections, misplacedSections, redundantEtymologies, clearElements,
   definitionLists, definitionNumbers, repeatedTitles, ambiguousFootnotes, repeatedFootnotes,
   translationsForm, strongWhiteSpace, weakWhiteSpace]

def find? (name : Text) : Option Rule :=
  List.find? (·.name == name) all

end Rule
end WikiEntry
