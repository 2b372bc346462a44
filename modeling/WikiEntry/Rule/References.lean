import WikiEntry.Rule.Marks

/-!
# References

The footnotes of a page are listed in a references section, which is the last one.  Lists of footnotes
elsewhere, and further references sections, are brought together there.
-/

namespace WikiEntry
namespace References

/-!
# Lists of footnotes
-/

def closedList : Pattern :=
  ("<references" ++ .few (.char ' ') ++ "/" ++ .few (.char ' ') ++ ">" : Pattern).ignoringCase

/-- An element that lists the footnotes, closed or only opened. -/
def listElement : Pattern :=
  ("<references" ++ .few (.char ' ') ++ .maybeOne (.char '/') ++ .few (.char ' ') ++ ">"
    : Pattern).ignoringCase

/-- The template that stands for the header of the references with the list below it. -/
def titleTemplate : Pattern :=
  "\x7b\x7b" ++ .spaces ++ "título referencias" ++ .spaces ++ "\x7d\x7d"

def list : Text :=
  "<references />"

def listTemplate : Text :=
  "\x7b\x7blistaref\x7d\x7d"

def withoutLists (t : Text) : Text :=
  (closedList.replaceAll t []).trim

/-- A references section with some lines and the list of footnotes. -/
def sectionOf (lines : List Text) : Except EntryError Section := do
  let s ← Section.ofHeader Marks.referencesAndNotes 2
  return s.setIntro (Text.joinWith "\n" (lines ++ [list]))

def close (p : Page) (lines : List Text) : Except EntryError Page := do
  let (p, i) := p.create (← sectionOf lines)
  return p.setReferences i

/-!
# The title template
-/

/-- Cuts a text at its title template, into what precedes it and what follows it. -/
def splitAtTitle? (t : Text) : Option (Text × Text) :=
  let ignored := Region.ignored t
  ((titleTemplate.matchList t).find? fun m => !Region.covers ignored m.start).map fun m =>
    (t.take m.start, t.drop m.stop)

/-- Removes the title templates with everything below them, and lists the texts that stood there. -/
def takeTitles (p : Page) : Page × List Text :=
  p.order.foldl
    (fun (p, found) i =>
      match splitAtTitle? (p.get i).intro with
      | some (before, after) => (p.modify i (·.setIntro before), found ++ [withoutLists after])
      | none => (p, found))
    (p, [])

/-- Puts texts into the references section in front of what is there. -/
def putReferences (p : Page) (texts : List Text) : Except EntryError Page :=
  match p.references? with
  | none => close p texts
  | some i =>
      let present := withoutLists (p.get i).intro
      let lines := if present.isEmpty then [] else present.splitOn "\n"
      .ok (p.modify i (·.setIntro (Text.joinWith "\n" (texts ++ lines ++ [list]))))

/-!
# Several sections
-/

/-- Takes sections out, each without those below it. -/
def detachEach (p : Page) (ids : List Nat) : Page :=
  ids.foldl Page.detachAlone p

/-- The visible contents of sections, each once. -/
def contents (p : Page) (ids : List Nat) : List Text :=
  ((ids.map fun i => withoutLists (p.get i).intro).filter fun t => !(Region.stripHidden t).isBlank).foldl
    addOnce []

/-!
# Stray lists
-/

/-- Removes the lists of footnotes from a text, and says which forms of them were there. -/
def removeLists (t : Text) : Text × List Text :=
  let step (state : Text × List Text) (name new : Text) : Text × List Text :=
    if new = state.1 then state else (new, state.2 ++ [name])
  let state := step (t, []) listTemplate (Template.replaceNamed t "listaref" fun _ => some [])
  step state "<references>" (Region.replaceOutside state.1 listElement "\n\n")

/-- Removes the lists of footnotes from all sections but the references. -/
def removeStrayLists (p : Page) (references : Nat) : Page × List Text :=
  (p.order.filter (· ≠ references)).foldl
    (fun (p, moved) i =>
      let t := (p.get i).intro
      let (new, names) := removeLists t
      (if new = t then p else p.modify i (·.setIntro new), names.foldl addOnce moved))
    (p, [])

def hasList (t : Text) : Bool :=
  Marks.hasTemplate t "listaref" || listElement.matchesIn (Region.stripHidden t)

def appendLine (t line : Text) : Text :=
  let kept := t.trimRight
  if kept.isEmpty then line else kept ++ "\n" ++ line

end References

namespace Rule

open References in
def referencesTitle : Rule where
  name := "substitute_references_template"
  run x t :=
    x.onCurrentPage t fun p => do
      let (p, found) := takeTitles p
      if found.isEmpty then return none
      let p ← putReferences p (found.filter (!·.isEmpty))
      return Outcome.ofPage? t p "sustituyendo \x7b\x7btítulo referencias\x7d\x7d"

open References in
def severalReferences : Rule where
  name := "duplicate_references_section"
  run x t :=
    x.onCurrentPage t fun p => do
      let all := p.findSections Marks.referencesHeader
      if all.length < 2 then return none
      let p ← close (detachEach p all) (contents p all)
      return Outcome.ofPage? t p "más de una sección de referencias"

open References in
def referencesPlace : Rule where
  name := "move_references_section"
  run x t :=
    x.onCurrentPage t fun p =>
      match p.findSections Marks.referencesHeader with
      | [i] =>
          if p.references? = some i then .ok none
          else
            let p := (p.detachAlone i).setReferences i
            .ok (Outcome.ofPage? t p "trasladando sección de referencias")
      | _ => .ok none

open References in
def strayLists : Rule where
  name := "move_references_elements"
  run x t :=
    x.onCurrentPage t fun p =>
      match p.references? with
      | none => .ok none
      | some references =>
          let (q, moved) := removeStrayLists p references
          if 1 < (p.findSections Marks.referencesAndNotesHeader).length || moved.isEmpty then .ok none
          else
            let intro := (q.get references).intro
            let names := Text.joinWith ", " moved
            if hasList intro then .ok (Outcome.ofPage? t q ("eliminando " ++ names))
            else
              let added := if moved.contains "<references>" then list else listTemplate
              let q := q.modify references (·.setIntro (appendLine intro added))
              .ok (Outcome.ofPage? t q ("trasladando " ++ names))

end Rule
end WikiEntry
