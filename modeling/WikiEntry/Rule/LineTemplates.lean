import WikiEntry.Rule.Marks

/-!
# Templates and lines

Some templates begin a line, and some stand on a line of their own.  `splitLines` breaks lines where such a
template stands in running text.
-/

namespace WikiEntry
namespace LineTemplates

/-- Templates that begin a line: pronunciation and spelling, and the details of a definition. -/
def lineStart : List Text :=
  Text.listOf
    ["pronunciación", "pron.la", "transliteración", "homófono", "grafía alternativa", "variantes", "parónimo",
     "diacrítico", "ortografía alternativa", "ámbito", "uso", "sinónimo", "antónimo", "hipónimo",
     "hiperónimo", "relacionado", "anagrama", "derivado", "merónimo", "holónimo", "cohipónimo", "t+",
     "descendiente", "desc", "anotación", "ejemplo", "ejemplo y trad"]

def ownLineNames : List Text :=
  Text.listOf
    ["ampliable", "creado por bot", "definición", "discutido", "endesarrollo", "esbozo", "estructura",
     "falta", "referencias", "revisión", "desambiguación", "arriba", "centro", "abajo", "escond-arriba",
     "escond-centro", "escond-abajo", "rel-arriba", "rel-centro", "rel-abajo", "trad-arriba",
     "trad-centro", "trad-abajo", "rel4-arriba", "rel4-centro", "clear", "derivados",
     "título referencias", "pron-graf", "imagen", "listaref"]

/-- Templates that stand on a line of their own: those with the names above, and those of inflections,
conjugations and compounds. -/
def ownLine : Pattern :=
  let code : CharSet := .anyOf [.word, .char '-']
  let plain : CharSet := .noneOf [' ', '|', '\x7b', '\x7d']
  let families : List Pattern :=
    ["inflect." ++ .some1 plain, .some1 code ++ ".v.conj" ++ .many plain,
      "comp" ++ .maybe ("." ++ .some1 code)]
  .whole (.anyOf (ownLineNames.map Pattern.lit ++ families))

def isPlaced (name : Text) : Bool :=
  name.startsWith "inflect." || name.startsWith "mutación." || name.startsWith "mutacion."
    || lineStart.contains name || ownLine.matchesIn name

/-!
# Breaking lines
-/

def isMarker (c : Char) : Bool :=
  c = ' ' || c = ':' || c = ';' || c = '*' || c = '#'

def lineBefore (t : Text) (place : Nat) : Text :=
  ((t.take place).reverse.takeWhile (· ≠ '\n')).reverse

/-- The edit for a template that begins a line; a few markers may stand before it. -/
def startLine? (t : Text) (s : Span) : Option Edit :=
  let before := lineBefore t s.start
  if before.length ≤ 5 && before.all isMarker then none else some ⟨s, '\n' :: t.slice s⟩

/-- The edit for a template on a line of its own.  It takes in the markers before the template back to
`last`, the spaces after it, and the newlines around them; `previous` is where the last such edit ended. -/
def isolate? (t : Text) (last : Nat) (previous : Option Nat) (s : Span) : Option Edit :=
  let before := t.slice ⟨last, s.start⟩
  let markers := s.start - (before.reverse.takeWhile isMarker).length
  let afterNewline := decide (0 < markers) && t[markers - 1]? == some '\n'
  let start := if afterNewline && last ≤ markers - 1 then markers - 1 else markers
  let spaces := s.stop + ((t.drop s.stop).takeWhile (· = ' ')).length
  let beforeNewline := t[spaces]? == some '\n'
  let stop := if beforeNewline then spaces + 1 else spaces
  let atStart := start == 0
  let atEnd := stop == t.length
  if (atStart || afterNewline) && (atEnd || beforeNewline) then none
  else
    let front : Text := if atStart || previous == some start then [] else ['\n']
    some ⟨⟨start, stop⟩, front ++ t.slice s ++ (if atEnd then [] else ['\n'])⟩

/-- The edits for the templates that begin at or after `last`. -/
def splitEdits (t : Text) (ignored : List Span) :
    (last : Nat) → (previous : Option Nat) → List (Span × Template) → List Edit
  | _, _, [] => []
  | last, previous, (s, u) :: rest =>
      if s.start < last || Region.covers ignored s.start then splitEdits t ignored last previous rest
      else if lineStart.contains u.trimmedName then
        match startLine? t s with
        | some e => e :: splitEdits t ignored s.stop previous rest
        | none => splitEdits t ignored last previous rest
      else if ownLine.matchesIn u.trimmedName then
        match isolate? t last previous s with
        | some e => e :: splitEdits t ignored e.span.stop (some e.span.stop) rest
        | none => splitEdits t ignored last previous rest
      else splitEdits t ignored last previous rest

end LineTemplates

namespace Rule

open LineTemplates in
def lineBreaking : Rule where
  name := "split_lines"
  run _ t :=
    let split := Edit.applyAll t (splitEdits t (Region.ignored t) 0 none (Template.located t))
    .ok (Outcome.of? t (Region.sanitizeBlanks split) (some "dividiendo líneas"))

end Rule
end WikiEntry
