import WikiEntry.Json.Reader

/-!
# Settings

The tunables of the rules and the vocabularies of headers and templates, and their form in JSON: an object
with the six keys below, each at most once, or the array of their values in that order.  What is missing
keeps its default, and other keys are skipped.
-/

namespace WikiEntry

structure Settings where
  /-- Pages whose templates are nested deeper than this are refused. -/
  maxTemplateDepth : Nat := 2
  /-- Standard headers in the order in which they come first in a language. -/
  headSections : List Text := []
  /-- Standard headers in the order in which they come last in a language. -/
  bottomSections : List Text := []
  /-- Templates for parts of speech, which take the language as first parameter. -/
  sectionTemplates : List Text := []
  /-- Templates that take the language in a parameter of its own. -/
  languageParamTemplates : List Text := []
  /-- Templates that mark a definition as an inflected form. -/
  inflectedFormTemplates : List Text := []
  deriving DecidableEq, Repr

namespace Settings

def textOfJson? : JsonValue → Option Text
  | .string t => some t
  | _ => none

def textsOfJson? : JsonValue → Option (List Text)
  | .array vs => vs.mapM textOfJson?
  | _ => none

def depthOfJson? : JsonValue → Option Nat
  | .number written => Text.readDigits? written
  | _ => none

/-- The keys in the order of the array form. -/
def keys : List Text :=
  ["max_template_depth", "head_sections", "bottom_sections", "section_templates", "leng_param_templates",
    "flexive_form_templates"]

def setField (s : Settings) (i : Nat) (v : JsonValue) : Option Settings :=
  match i with
  | 0 => (depthOfJson? v).map fun n => { s with maxTemplateDepth := n }
  | 1 => (textsOfJson? v).map fun ts => { s with headSections := ts }
  | 2 => (textsOfJson? v).map fun ts => { s with bottomSections := ts }
  | 3 => (textsOfJson? v).map fun ts => { s with sectionTemplates := ts }
  | 4 => (textsOfJson? v).map fun ts => { s with languageParamTemplates := ts }
  | 5 => (textsOfJson? v).map fun ts => { s with inflectedFormTemplates := ts }
  | _ => none

def setMember (s : Settings) (m : Text × JsonValue) : Option Settings :=
  match keys.idxOf? m.1 with
  | some i => s.setField i m.2
  | none => some s

def keysOnce (members : List (Text × JsonValue)) : Bool :=
  keys.all fun k => (members.filter fun m => m.1 == k).length ≤ 1

def ofJson? : JsonValue → Option Settings
  | .object members => if keysOnce members then members.foldlM setMember {} else none
  | .array values => (values.zip (List.range values.length)).foldlM (fun s v => s.setField v.2 v.1) {}
  | _ => none

def read? (t : Text) : Option Settings :=
  (JsonValue.read? t).bind ofJson?

end Settings
end WikiEntry
