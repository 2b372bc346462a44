import WikiEntry.Config.Builtin
import WikiEntry.Pattern.Reader
import WikiEntry.Text.Collation

/-!
# Configuration

The tables that rules look names up in.  Later lines of a table win over earlier ones for the same key.
-/

namespace WikiEntry

structure Config where
  languages : List (Text × Text)
  interwiki : List Text
  redirects : List (Text × Text)
  compounds : List (Text × Descriptor × Descriptor)
  comments : List Pattern
  settings : Settings

namespace Config

def builtin : Config where
  languages := Builtin.languages
  interwiki := Builtin.interwiki
  redirects := Builtin.redirects
  compounds := Builtin.compounds
  comments := Builtin.comments.filterMap Pattern.read?
  settings := Builtin.settings

/-!
# Languages
-/

/-- The name of a language by its code, in any case. -/
def languageName? (c : Config) (code : Text) : Option Text :=
  (c.languages.reverse.find? fun l => l.1.lower == code.trim.lower).map Prod.snd

/-- The code of a language by its name, in any case. -/
def languageCode? (c : Config) (name : Text) : Option Text :=
  (c.languages.find? fun l => l.2.lower == name.trim.lower).map Prod.fst

/-- A block of links to sister projects that closes a text, with the line end before it. -/
def closingLinks (c : Config) : Pattern :=
  let code := if c.interwiki.isEmpty then .empty else Pattern.anyText c.interwiki
  let link := "[[" ++ code ++ ":" ++ .few1 (.noneOf [']']) ++ "]]" ++ .blanks
  ("\n" ++ Pattern.rounds1 link ++ .atEnd : Pattern).ignoringCase

/-!
# Templates
-/

def redirect? (c : Config) (name : Text) : Option Text :=
  (c.redirects.reverse.find? fun r => r.1 == name).map Prod.snd

/-- The names that are redirected, each once, in the order of their characters. -/
def redirectedNames (c : Config) : List Text :=
  ((c.redirects.map Prod.fst).mergeSort fun a b => (a.compareChars b).isLE).eraseDups

/-- The two descriptors that a section template stands for. -/
def compound? (c : Config) (name : Text) : Option (Descriptor × Descriptor) :=
  (c.compounds.find? fun x => x.1 == name).map Prod.snd

def compoundName? (c : Config) (first second : Descriptor) : Option Text :=
  (c.compounds.find? fun x => x.2 == (first, second)).map Prod.fst

def isSectionTemplate (c : Config) (name : Text) : Bool :=
  c.settings.sectionTemplates.contains name

/-- The headers that have a place of their own at the beginning or the end of a language. -/
def isStandardHeader (c : Config) (header : Text) : Bool :=
  c.settings.headSections.contains header || c.settings.bottomSections.contains header

end Config
end WikiEntry
