import WikiEntry.Pattern.Segmentation

/-!
# Sets of characters by name

A pattern may name a set by a property that a character has or has not, by a category or by a script, or else by
a property and the value that the characters have for it.
-/

namespace WikiEntry
namespace CharSet

/-- The set that a name alone stands for: a property, a category or a script. -/
def ofName? (name : Text) : Option CharSet :=
  let key := nameKey name
  (property? key).or ((category? key).or (script? key))

/-- The set of the characters for which a property has a value. -/
def ofValue? (name value : Text) : Option CharSet :=
  let key := nameKey value
  if isNamed (nameKey name) ["gc", "General_Category"] then category? key
  else if isNamed (nameKey name) ["sc", "Script"] then script? key
  else if isNamed (nameKey name) ["scx", "Script_Extensions"] then scriptExtension? key
  else if isNamed (nameKey name) ["Age"] then age? key
  else if isNamed (nameKey name) ["GCB", "Grapheme_Cluster_Break"] then derived? graphemeParts key
  else if isNamed (nameKey name) ["WB", "Word_Break"] then derived? wordParts key
  else if isNamed (nameKey name) ["SB", "Sentence_Break"] then derived? sentenceParts key
  else none

end CharSet
end WikiEntry
