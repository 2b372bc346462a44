import WikiEntry.Rule.Marks

/-!
# Leftovers

Small remains of entry forms and of careless editing: aliases of the image namespace, stray comment ends and
punctuation, empty list items and definitions, and footnote tags that are not written in the usual way.
-/

namespace WikiEntry
namespace Leftovers

/-!
# Images
-/

def imageOpening : Pattern :=
  let names := Text.listOf ["File", "Image", "Archivo", "Imagen"]
  ("[[" ++ .spaces ++ .group 1 (.anyText names) ++ .spaces ++ ":" ++ .spaces : Pattern).ignoringCase

/-- Gives images the main name of their namespace, and lists the other names that were there. -/
def renameImages (t : Text) : Text × List Text :=
  Region.reviseWith t imageOpening (Region.ignored t) Match.start
    (fun found m =>
      if t.slice m.span = "[[Archivo:" then (none, found)
      else
        let name := m.text t 1
        (some "[[Archivo:", if name = "Archivo" then found else addOnce found (name ++ ":")))
    []

/-!
# Patterns of leftovers
-/

def strayCommentEnd : Pattern :=
  .run true 2 none (.char '-') ++ ">"

def punctuation : Pattern :=
  .some1 (.oneOf ['.', ',', ':', ';', '*', '#'])

def lonePunctuation : Pattern :=
  .group 1 (.one (.noneOf ['\n'])) ++ "\n" ++ punctuation ++ "\n"

def leadingPunctuation : Pattern :=
  .atStart ++ .many (.char '\n') ++ punctuation ++ "\n"

def onLine (p : Pattern) : Pattern :=
  .atLineStart ++ p ++ .atLineEnd

def emptyItem : Pattern :=
  onLine ("*" ++ .maybeOne (.char ' ') ++ "[[]]")

def loneBracket : Pattern :=
  onLine (.one (.oneOf "()\x7b\x7d[]"))

def emptyDefinition : Pattern :=
  onLine (";" ++ .maybeOne (.char ' ') ++ .one (.range '2' '9') ++ ":"
    ++ .maybeOne (.char ' ') ++ .maybeOne (.char '.'))

def definitionWithoutColon : Pattern :=
  onLine (";" ++ .maybeOne (.char ' ') ++ .group 1 (.some1 .digit) ++ .maybeOne (.char '.')
    ++ .group 2 (.some1 (.noneOf [':', '\n'])))

def phrasePlaceholder : Pattern :=
  onLine ("*" ++ .maybeOne (.char ' ') ++ "[[" ++ .alt "primera" "segunda" ++ " locución]]")

def selfClosingFootnote : Pattern :=
  ("<ref " ++ .group 1 (.few (.noneOf ['>']) ++ .one (.noneOf [' ', '>', '/'])) ++ "/>"
    : Pattern).ignoringCase

def emptyFootnote : Pattern :=
  ("<ref" ++ .atWordEdge ++ .group 1 (.few (.noneOf ['>', '/']) ++ .one (.noneOf ['>', '/', ' '])) ++ .spaces
    ++ ">" ++ .blanks ++ "</ref" ++ .spaces ++ ">" : Pattern).ignoringCase

/-!
# Tidying
-/

def removeLonePunctuation (t : Text) : Text :=
  Region.replaceOutside (Region.expandOutside t lonePunctuation "$\x7b1\x7d\n\n") leadingPunctuation []

/-- Puts the missing colon behind the number of a definition that has none, unless a template other than
a pointer follows. -/
def addColons (t : Text) : Text :=
  Region.reviseOutside t definitionWithoutColon fun m =>
    let number := m.text t 1
    let rest := m.text t 2
    let head := (Text.after? " " rest).getD rest
    if head.startsWith "\x7b\x7b" && !head.startsWith "\x7b\x7bplm|"
        && !head.startsWith "\x7b\x7bplm\x7d" then
      none
    else some (";" ++ number ++ ":" ++ rest)

/-- The steps that are mentioned when they change something. -/
def steps : List (Text × (Text → Text)) :=
  [("\"-->\" → \"\"", (Region.replaceOutside · strayCommentEnd [])),
    ("\"^[.,:;*#]$\" → \"\"", removeLonePunctuation),
    ("\"^* [[]]$\" → \"\"", (Region.replaceOutside · emptyItem [])),
    ("\"^[()\x7b\x7d\\[\\]]$\" → \"\"", (Region.replaceOutside · loneBracket [])),
    ("\"^;[2-9]:$\" → \"\"", (Region.replaceOutside · emptyDefinition [])),
    ("\"^;\\d.+\" → \";\\d:.+\"", addColons),
    ("\"* [(primera|segunda) locución]\" → \"\"", (Region.replaceOutside · phrasePlaceholder []))]

/-- Applies one step after the other, and lists the names of those that changed something. -/
def applySteps : List (Text × (Text → Text)) → Text → Text × List Text
  | [], t => (t, [])
  | (name, f) :: rest, t =>
      let next := f t
      let (last, names) := applySteps rest next
      (last, if next = t then names else name :: names)

def tidyFootnotes (t : Text) : Text :=
  let t := Region.expandOutside t selfClosingFootnote "<ref $\x7b1\x7d />"
  Region.expandOutside t emptyFootnote "<ref$\x7b1\x7d />"

/-- At most one newline ends the last section. -/
def limitTrailing (x : Context) (t : Text) : Except EntryError Text := do
  let p ← x.read t
  return match p.order.getLast? with
  | some last => if 1 < (p.get last).body.trailing then (p.modify last (·.setTrailing 1)).render else t
  | none => t

end Leftovers

namespace Rule

open Leftovers in
def leftovers : Rule where
  name := "minor_sanitizing"
  run x t := do
    let (renamed, aliases) := renameImages t
    let (tidied, names) := applySteps steps renamed
    let limited ← limitTrailing x (Region.sanitizeBlanks (tidyFootnotes tidied))
    let mentions := if aliases.isEmpty then names else (Text.joinWith ", " aliases ++ " → Archivo:") :: names
    return Outcome.of? t limited (if mentions.isEmpty then none else some (Text.joinWith ", " mentions))

end Rule
end WikiEntry
