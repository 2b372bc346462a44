import WikiEntry.Rule.Basic
import WikiEntry.Grammar.Forms

/-!
# Marks of an entry

The patterns and names by which rules recognise the parts of an entry: definitions, images, categories,
standard headers and maintenance templates.
-/

namespace WikiEntry
namespace Marks

/-!
# Lines and links
-/

/-- A definition: a number after a semicolon, a label or template, colons, and the text.  The groups are
these four parts. -/
def definition : Pattern :=
  let label := .alt ("\x7b\x7b" ++ .few1 (.noneOf ['\x7b']) ++ "\x7d\x7d") (.few1 (.noneOf [':', '\n']))
  .atLineStart ++ ";" ++ .group 1 (.spaces ++ .some1 .digit) ++ .maybe (.group 2 (.spaces ++ label))
    ++ .group 3 (.few .blank ++ .some1 (.char ':')) ++ .group 4 .restOfLine ++ .atLineEnd

/-- A link to an image; its caption may hold links. -/
def image : Pattern :=
  let inner := .many (.noneOf ['[', ']'])
  ("[[" ++ .spaces ++ .anyText (Text.listOf ["File", "Image", "Archivo", "Imagen"]) ++ .spaces ++ ":" ++ inner
    ++ .rounds ("[[" ++ .many (.noneOf [']']) ++ "]]" ++ inner) ++ "]]" : Pattern).ignoringCase

/-- A link to a category, with its name as group. -/
def categoryLink : Pattern :=
  "[[" ++ .spaces ++ (Pattern.alt "category" "categoría").ignoringCase ++ .spaces ++ ":" ++ .spaces
    ++ .group 1 (.few1 (.noneOf ['[', '\x7b', '\x7d'])) ++ .spaces ++ "]]"

def lineBreak : Pattern :=
  ("<br" ++ .atWordEdge ++ .many (.noneOf ['>']) ++ ">" : Pattern).ignoringCase

/-!
# Headers
-/

def upTo (p : Pattern) : Pattern :=
  .atStart ++ p ++ .restOfLine ++ .atEnd

def etymologyHeader : Pattern :=
  upTo "Etimología"

def numberedEtymologyHeader : Pattern :=
  .whole ("Etimología " ++ .some1 .digit)

def anyEtymologyHeader : Pattern :=
  upTo (.one (.oneOf ['E', 'e']) ++ "timolog" ++ .one (.oneOf ['í', 'i']) ++ "a")

def referencesHeader : Pattern :=
  upTo (.one (.oneOf ['R', 'r']) ++ "eferencias")

def inflectionHeader : Pattern :=
  .whole (.alt (.one (.oneOf ['F', 'f']) ++ "orma") "\x7b\x7bforma" ++ " " ++ .some1 .inLine)

def pronunciationHeader : Pattern :=
  .whole (.one (.oneOf ['P', 'p']) ++ "ronunciaci" ++ .one (.oneOf ['ó', 'o']) ++ "n"
    ++ .maybe " y escritura")

def referencesAndNotes : Text :=
  "Referencias y notas"

def referencesAndNotesHeader : Pattern :=
  .whole (.lit referencesAndNotes)

/-!
# Names
-/

/-- Maintenance banners, which stand on lines of their own. -/
def banners : List Text :=
  ["ampliable", "creado por bot", "definición", "discutido", "endesarrollo", "esbozo", "estructura",
    "falta", "referencias", "revisión"]

/-- Languages without attested forms, whose sections get no etymology. -/
def reconstructedLanguages : List Text :=
  ["poz-pol", "ine", "chono"]

/-- Templates that make an entry a pointer to another one. -/
def pointers : List Text :=
  ["grafía", "grafía obsoleta", "grafía rara", "variante", "variante obsoleta", "variante rara",
    "contracción", "redirección suave"]

def translationsComment : Text :=
  "<!-- formato: \x7b\x7bt+|idioma|<acepción#>|palabra|género\x7d\x7d "
    ++ "p. ej. \x7b\x7bt+|fr|1|chose|f\x7d\x7d -->"

def translationsFrame : Text :=
  "\x7b\x7btrad-arriba\x7d\x7d\n" ++ translationsComment
    ++ "\n\x7b\x7btrad-centro\x7d\x7d\n\x7b\x7btrad-abajo\x7d\x7d"

/-!
# Questions about texts
-/

def hasTemplate (t name : Text) : Bool :=
  !(Template.locatedNamed t name).isEmpty

/-- A header with the template of a part of speech. -/
def isTermHeader (c : Config) (header : Text) : Bool :=
  c.compounds.any (fun x => hasTemplate header x.1)
    || Descriptor.all.any fun d => hasTemplate header d.singularForm

/-- Some line outside comments and unparsed text is an item of a numbered list. -/
def hasNumberedLines (t : Text) : Bool :=
  (Region.stripHidden t).lines.any fun l => l.startsWith "#"

/-- Nothing is left without comments, line breaks, images and categories. -/
def isInvisible (t : Text) : Bool :=
  let t := (Region.stripHidden t).replace "\x7b\x7bclear\x7d\x7d" []
  let t := lineBreak.replaceAll t []
  let t := image.replaceAll t []
  (categoryLink.replaceAll t []).isBlank

/-!
# The legacy layout
-/

def legacyHeader : Pattern :=
  let capitals : CharSet := .anyOf [.range 'A' 'Z', .char '-']
  "\x7b\x7b" ++ .spaces ++ .group 1 (.alt "Chono" (.few1 capitals) ++ "-ES")

def legacyNames : List Text :=
  ["ES", "TRANSLIT", "TRANS", "TAXO", "carácter oriental"]

/-- Whether a text has headers of the legacy layout. -/
def isLegacy (t : Text) : Bool :=
  let t := Region.stripHidden t
  legacyHeader.matchesIn t || (Template.located t).any fun x => legacyNames.contains x.2.trimmedName

/-!
# Entries without a word of their own
-/

/-- Whether the entry of a language is nothing but pointers to other entries.  The cross-language section
always counts as such. -/
def isReduced (c : Config) (p : Page) (i : Nat) : Bool :=
  (p.get i).language?.any (·.hasCode "trans")
    ||
      let definitions := ((p.children i).filter fun j => !c.isStandardHeader (p.strippedHeader j)).flatMap
        fun j =>
          let t := Region.stripHidden (p.get j).intro
          (definition.spans t).map t.slice
      !definitions.isEmpty && definitions.all fun d => pointers.any (hasTemplate d)

/-- Whether forms stand directly below a section, and otherwise standard sections only. -/
def hasOnlyForms (c : Config) (p : Page) (i : Nat) : Bool :=
  let headers := (p.children i).map p.strippedHeader
  headers.any inflectionHeader.matchesIn
    && headers.all fun header => c.isStandardHeader header || inflectionHeader.matchesIn header

end Marks
end WikiEntry
