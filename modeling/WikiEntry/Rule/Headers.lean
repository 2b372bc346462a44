import WikiEntry.Rule.Marks

/-!
# Standard headers

Headers that name a standard section get the usual spelling, and the etymologies of a language are numbered
if there are several.
-/

namespace WikiEntry
namespace Headers

/-!
# Spelling
-/

def anyO : Pattern :=
  .one (.oneOf ['ó', 'o'])

def anyE : Pattern :=
  .one (.oneOf ['é', 'e'])

def oneOf (alternatives : List String) : Pattern :=
  .anyText (Text.listOf alternatives)

def oOrA : Pattern :=
  .one (.oneOf ['o', 'a'])

def plural : Pattern :=
  .maybeOne (.char 's')

def noun : Pattern :=
  "su" ++ .maybeOne (.char 'b') ++ "stantiv"

/-- The header of a section of forms of some kind. -/
def formOf (kind : Pattern) : Pattern :=
  "forma" ++ plural ++ " " ++ .maybe "de " ++ kind ++ .atEnd

/-- The beginnings of headers, whatever their case, and their usual spellings. -/
def spellings : List (Pattern × Text) :=
  [("Etimolog" ++ .one (.oneOf ['í', 'i']) ++ "a", "Etimología"),
   ("Pronunciaci" ++ anyO ++ "n" ++ .atWordEdge, "Pronunciación"),
   ("Locuciones", "Locuciones"),
   (.alt "Refranes" ("Dicho" ++ plural), "Refranes"),
   ("Conjugaci" ++ anyO ++ "n" ++ .atWordEdge, "Conjugación"),
   ("Informaci" ++ anyO ++ "n " ++ oneOf ["adicional", "avanzada"], "Información adicional"),
   (.anyOf ["Ver", "Vea", "V" ++ anyE ++ "ase"] ++ " tambi" ++ anyE ++ "n", "Véase también"),
   ("Proverbio" ++ .atWordEdge, "Refrán"),
   ("Acr" ++ anyO ++ "nimo" ++ .atWordEdge ++ .atEnd, "Sigla"),
   (noun ++ "o" ++ .atWordEdge, "Sustantivo"),
   ("Contracci" ++ anyO ++ "n" ++ .atWordEdge, "Contracción"),
   ("Forma" ++ plural ++ " flexiva" ++ plural ++ .atEnd, "Forma flexiva"),
   (formOf (noun ++ oOrA ++ plural), "Forma sustantiva"),
   (formOf ("verb" ++ .alt ("o" ++ plural) ("al" ++ .maybe "es")), "Forma verbal"),
   (formOf ("adjetiv" ++ oOrA ++ plural), "Forma adjetiva"),
   (formOf (.alt ("pronombre" ++ plural) ("pronominal" ++ .maybe "es")), "Forma pronominal"),
   (formOf
      (.alt ("preposici" ++ oneOf ["ón", "ones"]) ("prepositiv" ++ .alt "o" ("a" ++ plural))),
    "Forma prepositiva"),
   (formOf ("adverbi" ++ .alt ("o" ++ plural) ("al" ++ .maybe "es")), "Forma adverbial"),
   (formOf (noun ++ oOrA ++ plural ++ " " ++ .group 1 (oneOf ["masculin", "femenin", "neutr"]) ++ oOrA
      ++ plural),
    "Forma sustantiva $\x7b1\x7da")]

def translations : Pattern :=
  "Traducci" ++ anyO ++ "n" ++ .maybe "es" ++ .atEnd

def references : Pattern :=
  .maybe ("<small" ++ .few (.char ' ') ++ ">" ++ .few (.char ' ')) ++ .maybe "Notas y "
    ++ "Referencia" ++ plural ++ .atWordEdge ++ .restOfLine ++ .atEnd

/-- Replaces the beginning of a header, whatever its case. -/
def respell (header : Text) (rule : Pattern × Text) : Text :=
  Region.expandFirst header (.atStart ++ rule.1 : Pattern).ignoringCase rule.2

/-- The usual spelling of a header; Spanish words have translations into many languages. -/
def normalize (legacy spanish : Bool) (header : Text) : Text :=
  let header := spellings.foldl respell (header.trimBy (· == '=')).trim
  let header := respell header (translations, if spanish then "Traducciones" else "Traducción")
  if legacy then header else respell header (references, Marks.referencesAndNotes)

def isSpanish (p : Page) (i : Nat) : Bool :=
  ((p.languageOf? i).bind fun l => (p.get l).language?).any (·.hasCode "es")

/-- Spells the headers of all sections but those of languages; a header with a footnote or a comment stays
as it is. -/
def normalizePage (x : Context) (p : Page) : Page :=
  p.order.foldl
    (fun p i =>
      if p.isLanguage i || p.header i ≠ p.strippedHeader i then p
      else
        let header := normalize x.legacy (isSpanish p i) (p.header i)
        if header = p.header i then p else p.modify i (·.setHeader x.config header))
    p

/-!
# Etymologies
-/

def numberedEtymology (n : Nat) : Text :=
  "Etimología " ++ Text.ofNumber n

def etymologyHeaders (count : Nat) : List Text :=
  if 1 < count then (List.range' 1 count).map numberedEtymology else ["Etimología"]

def nameEtymologies (c : Config) (p : Page) (ids : List Nat) : Page :=
  (ids.zip (etymologyHeaders ids.length)).foldl
    (fun p (i, header) => if p.header i = header then p else p.modify i (·.setHeader c header)) p

end Headers

namespace Rule

open Headers in
def headerSpelling : Rule where
  name := "normalize_section_headers"
  run x t := do
    let p ← x.read t
    return Outcome.ofPage? t (normalizePage x p) "normalizando títulos de encabezamiento"

open Headers in
def etymologyNumbers : Rule where
  name := "normalize_etymology_headers"
  run x t :=
    x.onCurrentPage t fun p =>
      let p := p.languages.foldl
        (fun p i => nameEtymologies x.config p (p.findBelow i Marks.etymologyHeader)) p
      .ok (Outcome.ofPage? t p "normalizando encabezamientos de etimología")

end Rule
end WikiEntry
