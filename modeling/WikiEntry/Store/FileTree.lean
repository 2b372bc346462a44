import WikiEntry.Store.Path
import WikiEntry.Store.Basic
import WikiEntry.Text.Offset

/-!
# File trees

The files that a program works on, each with the time at which it was written.  There is a folder wherever
the path of a file leads through.
-/

namespace WikiEntry

structure StoredFile where
  content : Text
  /-- The seconds since the beginning of 1970. -/
  written : Nat
  deriving DecidableEq, Repr

structure FileTree where
  files : List (Path × StoredFile) := []
  deriving DecidableEq, Repr

/-- What a path leads to. -/
inductive FileNode where
  | file (f : StoredFile)
  | folder
  deriving DecidableEq, Repr

namespace FileTree

/-!
# Following paths
-/

def isFolder (t : FileTree) (p : Path) : Bool :=
  p.steps.all Path.goesUp
    || t.files.any fun x => x.1.absolute == p.absolute && p.steps.isPrefixOf x.1.steps && p != x.1

/-- What stands at a path without detours. -/
def node? (t : FileTree) (p : Path) : Option FileNode :=
  match t.files.lookup p with
  | some f => some (.file f)
  | none => if t.isFolder p then some .folder else none

/-- The longest name of a file, in bytes. -/
def nameLimit : Nat :=
  255

/-- Follows steps from a path; all of them but the last must lead to folders. -/
def follow (t : FileTree) (p : Path) : List Text → Except StorageFault Path
  | [] => .ok p
  | step :: steps =>
      match t.node? p with
      | none => .error .notFound
      | some (.file _) => .error .notADirectory
      | some .folder =>
          if Path.goesUp step then t.follow p.up steps
          else if nameLimit < step.byteSize then .error .nameTooLong
          else t.follow (p.child step) steps

/-- The path without detours, if the way exists. -/
def resolve (t : FileTree) (p : Path) : Except StorageFault Path :=
  if p.steps.any (·.contains '\x00') then .error .nullInName
  else if p == {} then .error .notFound
  else t.follow ⟨p.absolute, [], false⟩ p.steps

/-!
# Reading and writing
-/

def read (t : FileTree) (p : Path) : Except StorageFault StoredFile := do
  let place ← t.resolve p
  match t.node? place with
  | some (.file f) => if p.toFolder then .error .notADirectory else .ok f
  | some .folder => .error .isADirectory
  | none => .error .notFound

def contains (t : FileTree) (p : Path) : Bool :=
  match t.read p with
  | .ok _ => true
  | .error .isADirectory => true
  | .error _ => false

def put (files : List (Path × StoredFile)) (p : Path) (f : StoredFile) : List (Path × StoredFile) :=
  match files with
  | [] => [(p, f)]
  | x :: rest => if x.1 = p then (p, f) :: rest else x :: put rest p f

def write (t : FileTree) (p : Path) (content : Text) (now : Nat) : Except StorageFault FileTree := do
  let place ← t.resolve p
  match t.node? place with
  | some .folder => .error .isADirectory
  | _ => .ok ⟨put t.files place ⟨content, now⟩⟩

end FileTree
end WikiEntry
