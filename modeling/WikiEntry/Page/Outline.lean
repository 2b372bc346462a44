/-!
# Outlines

The outline of a document is the forest that the levels of its sections induce: a section lies under the
nearest one before it whose level is smaller.  A forest is empty, or a first tree with the forest of its
children and the forest of the trees after it.
-/

namespace WikiEntry

inductive Outline where
  | nil
  | node (id level : Nat) (children rest : Outline)
  deriving DecidableEq, Repr

namespace Outline

/-!
# Building
-/

/-- Splits off the first trees as long as their roots are deeper than `level`. -/
def spanDeeper (level : Nat) : Outline → Outline × Outline
  | nil => (nil, nil)
  | node i l c r =>
      if level < l then
        let (inner, outer) := spanDeeper level r
        (node i l c inner, outer)
      else (nil, node i l c r)

/-- Puts a section in front; the deeper trees that follow become its children. -/
def adopt (i level : Nat) (f : Outline) : Outline :=
  let (children, rest) := f.spanDeeper level
  node i level children rest

/-- The outline of sections in document order, given with their levels. -/
def ofList : List (Nat × Nat) → Outline
  | [] => nil
  | (i, level) :: rest => adopt i level (ofList rest)

/-!
# Views
-/

def toList : Outline → List Nat
  | nil => []
  | node i _ c r => i :: (c.toList ++ r.toList)

def roots : Outline → List Nat
  | nil => []
  | node i _ _ r => i :: r.roots

def children? (i : Nat) : Outline → Option Outline
  | nil => none
  | node j _ c r => if i = j then some c else (c.children? i).or (r.children? i)

/-- How deep a section lies, where the roots of the forest lie at `depth`. -/
def depthFrom? (i : Nat) : Outline → (depth : Nat) → Option Nat
  | nil, _ => none
  | node j _ c r, depth =>
      if i = j then some depth else (c.depthFrom? i (depth + 1)).or (r.depthFrom? i depth)

/-- The depth of a section, from 1 for roots; a section that is not in the outline has depth 0. -/
def depth (f : Outline) (i : Nat) : Nat :=
  (f.depthFrom? i 1).getD 0

/-- The section above, where the roots of the forest lie under `above`. -/
def parentFrom? (i : Nat) : Outline → (above : Option Nat) → Option (Option Nat)
  | nil, _ => none
  | node j _ c r, above =>
      if i = j then some above else (c.parentFrom? i (some j)).or (r.parentFrom? i above)

def parent? (f : Outline) (i : Nat) : Option Nat :=
  (f.parentFrom? i none).join

/-!
# The outline and its list
-/

theorem toList_spanDeeper (level : Nat) (f : Outline) :
    (f.spanDeeper level).1.toList ++ (f.spanDeeper level).2.toList = f.toList := by
  induction f with
  | nil => rfl
  | node i l c r _ ih =>
      by_cases h : level < l
      · simp [spanDeeper, h, toList, ← ih]
      · simp [spanDeeper, h, toList]

theorem toList_adopt (i level : Nat) (f : Outline) : (adopt i level f).toList = i :: f.toList := by
  simp [adopt, toList, toList_spanDeeper]

/-- The preorder walk of the outline is the document order. -/
@[simp] theorem toList_ofList (sections : List (Nat × Nat)) :
    (ofList sections).toList = sections.map Prod.fst := by
  induction sections with
  | nil => rfl
  | cons s rest ih => simp [ofList, toList_adopt, ih]

end Outline
end WikiEntry
