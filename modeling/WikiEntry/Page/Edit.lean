import WikiEntry.Page.Basic
import WikiEntry.Page.Order

/-!
# Changing the tree of a page

Sections are moved together with everything below them, taken out, and put on other levels.  A change that
would break an invariant fails, and what it has done by then stays in the page that it leaves behind.
-/

namespace WikiEntry

/-- The page that a change leaves behind, and the fault if the change failed. -/
structure Attempt where
  page : Page
  fault? : Option TreeFault := none

namespace Attempt

def toExcept (a : Attempt) : Except EntryError Page :=
  match a.fault? with
  | none => .ok a.page
  | some f => .error (.invariant f)

end Attempt

namespace Page

/-!
# Taking sections out
-/

def without (p : Page) (removed : List Nat) : List Nat :=
  p.order.filter fun i => !removed.contains i

def detach (p : Page) (i : Nat) : Page :=
  p.setOrder (p.without (p.subtree i))

/-- Takes only the section itself out; the sections below it go to whatever precedes them. -/
def detachAlone (p : Page) (i : Nat) : Page :=
  p.setOrder (p.without [i])

/-!
# Moving sections
-/

/-- The sections with everything below them, each once. -/
def subtrees (p : Page) (ids : List Nat) : List Nat :=
  (ids.flatMap p.subtree).eraseDups

def appendSections (p : Page) (ids : List Nat) : Page :=
  if ids.isEmpty then p
  else
    let moved := p.subtrees ids
    p.setOrder (p.without moved ++ moved)

/-- The first section that is not deeper than the parent. -/
def notDeeper? (p : Page) (parent : Nat) (ids : List Nat) : Option TreeFault :=
  (ids.find? fun i => p.level i ≤ p.level parent).map fun i => .notDeeper (p.level i) (p.level parent)

/-- Moves sections to behind the place that `anchor?` finds in the order without them. -/
def insertBehind (p : Page) (ids : List Nat) (anchor? : Page → Option Nat) (detached : TreeFault) : Attempt :=
  let moved := p.subtrees ids
  let rest := { p with order := p.without moved }
  match anchor? rest with
  | none => ⟨rest, some detached⟩
  | some n => ⟨p.setOrder (rest.order.take (n + 1) ++ moved ++ rest.order.drop (n + 1)), none⟩

/-- The last place of a section and of those below it. -/
def lastPosition? (p : Page) (i : Nat) : Option Nat :=
  ((p.subtree i).filterMap p.position?).max?

/-- The first section that is on another level than the target. -/
def notSameLevel? (p : Page) (target : Nat) (ids : List Nat) : Option TreeFault :=
  (ids.find? fun i => p.level i != p.level target).map fun i => .notSameLevel (p.level i) (p.level target)

/-- Moves sections unless the move is refused; where there is nothing to move, nothing is refused. -/
def moveBehind (p : Page) (ids : List Nat) (refused? : Option TreeFault) (anchor? : Page → Option Nat)
    (detached : TreeFault) : Attempt :=
  if ids.isEmpty then ⟨p, none⟩
  else
    match refused? with
    | some f => ⟨p, some f⟩
    | none => p.insertBehind ids anchor? detached

def appendChildren (p : Page) (parent : Nat) (ids : List Nat) : Attempt :=
  p.moveBehind ids (p.notDeeper? parent ids) (·.lastPosition? parent) .parentDetached

def prependChildren (p : Page) (parent : Nat) (ids : List Nat) : Attempt :=
  p.moveBehind ids (p.notDeeper? parent ids) (·.position? parent) .parentDetached

/-- Puts sections of the same level behind a section and everything below it. -/
def insertAfter (p : Page) (target : Nat) (ids : List Nat) : Attempt :=
  p.moveBehind ids (p.notSameLevel? target ids) (·.lastPosition? target) .targetDetached

/-- Makes a section the last one, in the place of the references section before it. -/
def setReferences (p : Page) (i : Nat) : Page :=
  let removed := match p.references? with
    | some old => [old, i]
    | none => [i]
  p.setOrder (p.without removed ++ [i])

/-!
# Levels
-/

/-- Puts a section on a level without deriving the outline again. -/
def putLevel (p : Page) (i level : Nat) : Attempt :=
  if 1 ≤ level ∧ level ≤ 6 then
    ⟨p.modify i fun s => (s.setLevel level).toOption.getD s, none⟩
  else ⟨p, some (.levelOutOfRange level)⟩

def setLevel (p : Page) (i level : Nat) : Attempt :=
  let a := p.putLevel i level
  match a.fault? with
  | none => ⟨a.page.link, none⟩
  | some _ => a

/-- Puts sections on levels between 1 and 6, one after the other. -/
def putLevels (p : Page) (levels : List (Nat × Nat)) : Page :=
  levels.foldl (fun p x => (p.putLevel x.1 x.2).page) p

def shiftLevels (p : Page) (i : Nat) (shift : Int) : Attempt :=
  if shift = 0 then ⟨p, none⟩
  else if shift < -5 ∨ 5 < shift then ⟨p, some (.shiftTooFar shift)⟩
  else if p.isLanguage i then ⟨p, some .languageShifted⟩
  else
    let shifted := (p.subtree i).map fun j => (j, (p.level j : Int) + shift)
    if shifted.all fun x => decide (1 ≤ x.2 ∧ x.2 ≤ 6) then
      ⟨(p.putLevels (shifted.map fun x => (x.1, x.2.toNat))).link, none⟩
    else ⟨p, some (.shiftedOutOfRange shift)⟩

/-- The level for siblings under a parent, or on top, unless they may stay as they are: one level below the
parent when they differ or lie too deep, and the topmost of their levels on top. -/
def siblingLevel? (p : Page) (parent? : Option Nat) (siblings : List Nat) : Option Nat :=
  let levels := siblings.map p.level
  match levels.min?, levels.max? with
  | some least, some most =>
      match parent? with
      | some parent =>
          let level := p.level parent + 1
          if least ≠ most ∨ level < least then some level else none
      | none => if least ≠ most then some least else none
  | _, _ => none

def levelSiblings (p : Page) (group : Option Nat × List Nat) : Page :=
  match p.siblingLevel? group.1 group.2 with
  | some level => p.putLevels (group.2.map (·, min level 6))
  | none => p

/-- The groups of siblings whose parents lie at `depth`; on top there is one group without a parent. -/
def siblingGroups (p : Page) (depth : Nat) : List (Option Nat × List Nat) :=
  if depth = 0 then [(none, p.topLevel)]
  else
    (p.order.filter fun i => p.depth i == depth && !(p.children i).isEmpty).map fun i =>
      (some i, p.children i)

/-- Makes the levels of siblings equal, one depth after the other; `rounds` bounds the depths. -/
def levelFrom : (rounds : Nat) → (depth : Nat) → Page → Page
  | 0, _, p => p
  | rounds + 1, depth, p =>
      match p.siblingGroups depth with
      | [] => p
      | groups => levelFrom rounds (depth + 1) (groups.foldl levelSiblings p).link

/-- Makes the levels of siblings equal and of children one more than that of their parent. -/
def normalizeLevels (p : Page) : Page :=
  if p.order.isEmpty then p else levelFrom (p.order.length + 1) 0 p

/-!
# Languages
-/

/-- Adds a language unless it is there, and gives its number. -/
def addLanguage (c : Config) (p : Page) (code : Text) : Page × Nat :=
  match p.language? code with
  | some i => (p, i)
  | none =>
      let (p, i) := p.append (.ofLanguage c code)
      (p.sortLanguages, i)

/-- Removes the language section itself; what lies below it stays. -/
def removeLanguage (p : Page) (code : Text) : Page :=
  match p.language? code with
  | some i => p.detachAlone i
  | none => p

end Page
end WikiEntry
