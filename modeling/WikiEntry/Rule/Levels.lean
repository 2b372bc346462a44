import WikiEntry.Rule.Marks

/-!
# Levels

Languages have level 2, and so have the references at the end of the page; everything else lies below a
language.  What belongs to one of several etymologies lies below it, and beside a single etymology the
sections of a language lie on the same level as the etymology.
-/

namespace WikiEntry
namespace Levels

def shiftAll (p : Page) (ids : List Nat) (shift : Int) : Except EntryError Page :=
  ids.foldlM (fun p i => (p.shiftLevels i shift).toExcept) p

/-- Puts a section on a level, and shifts everything below it along. -/
def shiftTo (p : Page) (i level : Nat) : Except EntryError Page :=
  (p.shiftLevels i (level - p.level i : Int)).toExcept

def raise (p : Page) (i level : Nat) : Except EntryError Page :=
  if level < p.level i then shiftTo p i level else .ok p

/-- The sections at or below some sections that close the entry of a language. -/
def bottomSections (c : Config) (p : Page) (ids : List Nat) : List Nat :=
  (ids.flatMap p.subtree).filter fun i => c.settings.bottomSections.contains (p.strippedHeader i)

/-- Raises the sections that close the entry of a language to a level, as far as they lie deeper. -/
def raiseBottom (c : Config) (p : Page) (ids : List Nat) (level : Nat) : Except EntryError Page :=
  (bottomSections c p ids).foldlM (raise · · level) p

/-- Sections on top that are neither a language nor references go below what precedes them. -/
def adoptStray (p : Page) (i : Nat) : Except EntryError Page :=
  if p.isLanguage i || Marks.referencesHeader.matchesIn (p.strippedHeader i) || (p.previous? i).isNone then
    .ok p
  else (p.shiftLevels i 1).toExcept

def raiseReferences (p : Page) : Except EntryError Page :=
  match p.references? with
  | some i => shiftTo p i 2
  | none => .ok p

/-- A single etymology has nothing below it. -/
def releaseEtymology (c : Config) (p : Page) (language etymology : Nat) : Except EntryError Page := do
  let p ← shiftAll p (p.children etymology) (-1)
  raiseBottom c p (p.children language) 3

/-- With several etymologies the sections behind the first one go below one of them. -/
def fillEtymologies (c : Config) (p : Page) (language first : Nat) (etymologies : List Nat) :
    Except EntryError Page := do
  let place (i : Nat) : Nat := (p.position? i).getD 0
  let others := (p.children language).filter fun i => !etymologies.contains i && place first ≤ place i
  let p ← shiftAll p others 1
  etymologies.foldlM (fun p i => raiseBottom c p (p.children i) 4) p

/-- Arranges what lies below a language around its etymologies. -/
def arrangeLanguage (c : Config) (p : Page) (language : Nat) : Except EntryError Page :=
  if p.hasBelow language Marks.inflectionHeader then .ok p
  else
    match p.findBelow language Marks.etymologyHeader with
    | [] => .ok p
    | [etymology] => releaseEtymology c p language etymology
    | first :: rest => fillEtymologies c p language first (first :: rest)

def normalize (c : Config) (p : Page) : Except EntryError Page := do
  let p := p.normalizeLevels
  let p ← p.topLevel.foldlM adoptStray p
  let p ← raiseReferences p
  let p ← (p.findSections Marks.etymologyHeader).foldlM (raise · · 3) p
  let p := p.normalizeLevels
  let p ← (p.findSections Marks.pronunciationHeader).foldlM (fun p i => shiftAll p (p.children i) (-1)) p
  p.languages.foldlM (arrangeLanguage c) p

end Levels

namespace Rule

open Levels in
def levels : Rule where
  name := "normalize_section_levels"
  run x t :=
    x.onCurrentPage t fun p => do
      if p.languages.isEmpty then return none
      return Outcome.ofPage? t (← normalize x.config p) "normalizando niveles de títulos"

end Rule
end WikiEntry
