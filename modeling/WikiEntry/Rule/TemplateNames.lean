import WikiEntry.Rule.LineTemplates

/-!
# Names of templates

Templates are called without the name of their namespace, by their main name, with their names trimmed and
on a line of their own where they have one.
-/

namespace WikiEntry
namespace TemplateNames

/-!
# Namespaces
-/

def namespacePrefix : Pattern :=
  let names := Text.listOf ["Template", "Plantilla", "msg"]
  ("\x7b\x7b" ++ .group 1 (.many (.oneOf [' ', ':']) ++ .anyText names ++ .spaces ++ ":" ++ .spaces)
    : Pattern).ignoringCase

/-- The text without the namespaces, and the namespaces that were there. -/
def removeNamespaces (t : Text) : Text × List Text :=
  Region.reviseWith t namespacePrefix (Region.ignored t) Match.start
    (fun found m => (some "\x7b\x7b", addOnce found (m.text t 1).trim)) []

/-!
# Main names
-/

def braced (name : Text) : Text :=
  "\x7b\x7b" ++ name ++ "\x7d\x7d"

def rename (t old name : Text) : Text :=
  Template.replaceNamed t old fun u => if u.trimmedName == name then none else some (u.setName name).render

/-- Renames by one redirect after the other, and lists those that changed something. -/
def renameAll : List (Text × Text) → Text → Text × List Text
  | [], t => (t, [])
  | (old, name) :: rest, t =>
      let next := rename t old name
      let (last, found) := renameAll rest next
      (last, if next = t then found else (braced old ++ " → " ++ braced name) :: found)

def redirects (c : Config) : List (Text × Text) :=
  c.redirectedNames.filterMap fun old =>
    (c.redirect? old).bind fun name => if name = old then none else some (old, name)

/-!
# Layout
-/

def trimName (u : Template) : Template :=
  u.setName ((u.name.trimLeft).trimRightBy (· = ' '))

/-- Puts closing braces that stand alone on the second line at the end of the first, and closing braces
on a later line at its beginning. -/
def joinBraces (t : Text) : Text :=
  let closing : Text := "\x7d\x7d"
  match t.splitOn "\n" with
  | [first, second] => if second.trim = closing then first.trimRight ++ closing else t
  | [] | [_] => t
  | lines =>
      match lines.getLast? with
      | some last => if last.trim = closing then Text.joinWith "\n" (lines.dropLast ++ [closing]) else t
      | none => t

/-- What is written so far, where the next template is read on, and whether list markers were removed. -/
structure Progress where
  written : Text
  place : Nat
  removed : Bool

/-- Removes the list markers of the current line, if it holds nothing else. -/
def dropMarkers (t : Text) : Text × Bool :=
  let line := (t.reverse.takeWhile (· ≠ '\n')).reverse
  if line.all LineTemplates.isMarker then (t.take (t.length - line.length), line.any (· ≠ ' '))
  else (t, false)

def layOut (t : Text) (ignored : List Span) (p : Progress) (x : Span × Template) : Progress :=
  let (s, u) := x
  if s.start < p.place || Region.covers ignored s.start then p
  else
    let written := p.written ++ t.slice ⟨p.place, s.start⟩
    let (written, removed) :=
      if LineTemplates.isPlaced u.trimmedName then dropMarkers written else (written, false)
    ⟨written ++ joinBraces (trimName u).render, s.stop, p.removed || removed⟩

def layOutAll (t : Text) : Text × Bool :=
  let p := (Template.located t).foldl (layOut t (Region.ignored t)) ⟨[], 0, false⟩
  (p.written ++ t.drop p.place, p.removed)

end TemplateNames

namespace Rule

open TemplateNames in
def templateNamespaces : Rule where
  name := "remove_template_prefixes"
  run _ t :=
    let (kept, found) := removeNamespaces t
    let summary := if found.isEmpty then none else some ("eliminando " ++ Text.joinWith ", " found)
    .ok (Outcome.of? t kept summary)

open TemplateNames in
def templateLayout : Rule where
  name := "sanitize_templates"
  run _ t :=
    let (laidOut, removed) := layOutAll t
    let summary := if removed then some "\"\\n[:;*#]\x7b\x7b\" → \"\\n\x7b\x7b\"" else none
    .ok (Outcome.of? t laidOut summary)

open TemplateNames in
def templateNames : Rule where
  name := "normalize_template_names"
  run x t :=
    let (renamed, found) := renameAll (redirects x.config) t
    .ok (Outcome.of? t renamed (if found.isEmpty then none else some (Text.joinWith ", " found)))

end Rule
end WikiEntry
