import WikiEntry.Text.Basic

/-!
# Paths

A path is a sequence of steps, from the working folder or from the top of all folders.  Empty steps and
single dots lead nowhere and are left out, but a path that ends in one of them can only lead to a folder.
-/

namespace WikiEntry

structure Path where
  absolute : Bool := false
  steps : List Text := []
  /-- The path is written so that it can only lead to a folder. -/
  toFolder : Bool := false
  deriving DecidableEq, Repr

namespace Path

def stays (step : Text) : Bool :=
  step.isEmpty || step == "."

def goesUp (step : Text) : Bool :=
  step == ".."

def read (t : Text) : Path :=
  let written := t.splitOn "/"
  { absolute := t.startsWith "/"
    steps := written.filter (!stays ·)
    toFolder := !t.isEmpty && written.getLast?.any stays }

def child (p : Path) (name : Text) : Path :=
  { p with steps := p.steps ++ [name], toFolder := false }

def parent (p : Path) : Path :=
  { p with steps := p.steps.dropLast, toFolder := false }

/-- The path one level up; nothing lies above the top of all folders. -/
def up (p : Path) : Path :=
  if p.steps.all goesUp then
    if p.absolute then p else p.child ".."
  else p.parent

/-- The same way without detours: only its first steps go up. -/
def normal (p : Path) : Path :=
  p.steps.foldl (fun q step => if goesUp step then q.up else q.child step) ⟨p.absolute, [], false⟩

/-- The path of an entry of the folder that a text leads to. -/
def inFolder (folder name : Text) : Path :=
  (read folder).child name

/-!
# Names
-/

/-- The last step, unless it leads upwards. -/
def name? (p : Path) : Option Text :=
  p.steps.getLast?.filter (!goesUp ·)

/-- The name in front of its last dot and the ending behind it; a dot at the beginning separates nothing. -/
def splitName (name : Text) : Text × Option Text :=
  match name.findLast? "." with
  | none => (name, none)
  | some 0 => (name, none)
  | some n => (name.take n, some (name.drop (n + 1)))

def stem? (p : Path) : Option Text :=
  p.name?.map fun name => (splitName name).1

def ending? (p : Path) : Option Text :=
  p.name?.bind fun name => (splitName name).2

def render (p : Path) : Text :=
  (if p.absolute then ['/'] else []) ++ Text.joinWith "/" p.steps

end Path
end WikiEntry
