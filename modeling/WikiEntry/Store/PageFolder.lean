import WikiEntry.Store.FileTree
import WikiEntry.Text.Blank

/-!
# Pages in a folder

A page is a file that is named after its title, and its revision is the time at which the file was written.
-/

namespace WikiEntry

/-- The folder in which pages are kept. -/
structure PageFolder where
  root : Path := {}
  deriving DecidableEq, Repr

namespace PageFolder

/-- What stands for a character of a title in the name of a file. -/
def nameChar (c : Char) : Char :=
  if c = '/' ∨ c = '\\' ∨ c = ':' ∨ c = ' ' then '_' else c

def fileName (title : Text) : Text :=
  title.trim.map nameChar ++ ".wiki"

def pathOf (d : PageFolder) (title : Text) : Path :=
  d.root.child (fileName title)

/-- The time of a path that leads to something; folders count as written last of all. -/
def revision (t : FileTree) (p : Path) (now : Nat) : Nat :=
  match t.read p with
  | .ok f => f.written
  | .error _ => now

def fetch (d : PageFolder) (t : FileTree) (title : Text) : Except EntryError StoredPage :=
  match t.read (d.pathOf title) with
  | .ok f => .ok ⟨title, f.content, f.written⟩
  | .error e => .error (.storage e)

/-- Writes a page unless its file is younger than `base`. -/
def submit (d : PageFolder) (t : FileTree) (title text : Text) (base now : Nat) :
    Except EntryError (FileTree × Submission) :=
  let p := d.pathOf title
  if t.contains p && base < revision t p now then .ok (t, .conflict)
  else
    match t.write p text now with
    | .ok t => .ok (t, .accepted)
    | .error e => .error (.storage e)

end PageFolder
end WikiEntry
