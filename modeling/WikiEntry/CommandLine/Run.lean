import WikiEntry.CommandLine.Arguments
import WikiEntry.Config.Load
import WikiEntry.Store.PageFolder
import WikiEntry.Json.Basic
import WikiEntry.Editor

/-!
# Running the program

The program checks the page in a file, writes it back, and prints it or a report.  A file that is named as
a folder of pages would name it is read and written as a page of that folder.
-/

namespace WikiEntry
namespace CommandLine

/-!
# Sources
-/

/-- The title that a path stands for: the name of the file, with spaces for underscores. -/
def titleOf (p : Path) : Text :=
  (p.stem?.getD []).map fun c => if c = '_' then ' ' else c

/-- Where a page comes from. -/
inductive Source where
  | page (folder : PageFolder) (revision : Nat)
  | file (p : Path)
  deriving DecidableEq, Repr

def load (files : FileTree) (p : Path) (title : Text) : Except EntryError (Source × Text) :=
  if p.ending? = some "wiki" ∧ titleOf p = title then do
    let folder : PageFolder := ⟨p.parent⟩
    let page ← folder.fetch files title
    return (.page folder page.revision, page.text)
  else
    match files.read p with
    | .ok f => .ok (.file p, f.content)
    | .error e => .error (.storage e)

def save (files : FileTree) (source : Source) (title text : Text) (now : Nat) : Except EntryError FileTree :=
  match source with
  | .page folder revision => do
      match ← folder.submit files title text revision now with
      | (files, .accepted) => return files
      | (_, .conflict) => .error (.storage (.changedMeanwhile title))
  | .file p =>
      match files.write p text now with
      | .ok files => .ok files
      | .error e => .error (.storage e)

/-!
# Reports
-/

def changeReport (x : Change) : JsonValue :=
  .object [("pass".toList, .string x.rule), ("summary".toList, x.summary.elim .null .string)]

def report (title : Text) (e : Editor) : JsonValue :=
  .object
    [("title".toList, .string title), ("text".toList, .string e.text),
      ("changes".toList, .array (e.changes.map changeReport)), ("summary".toList, .string e.summary)]

def output (o : Options) (title : Text) (e : Editor) : Text :=
  (if o.json then (report title e).pretty 0 else e.text) ++ "\n"

/-!
# The program
-/

/-- A file of the folder with the configuration, if it is there. -/
def configFile (files : FileTree) (folder name : Text) : Except EntryError (Option Text) :=
  let p := Path.inFolder folder name
  if files.contains p then
    match files.read p with
    | .ok f => .ok (some f.content)
    | .error e => .error (.storage e)
  else .ok none

def config (files : FileTree) (o : Options) : Except EntryError Config :=
  match o.config? with
  | some folder => Config.load (configFile files folder)
  | none => .ok .builtin

/-- Runs the program, and gives what it prints and the files that it leaves behind. -/
def run (o : Options) (files : FileTree) (now : Nat) : Except EntryError (Text × FileTree) := do
  let p := Path.read o.file
  let title := o.title?.getD (titleOf p)
  let c ← config files o
  let (source, t) ← load files p title
  match (Editor.ofPage c title t).check with
  | (_, some fault) => .error fault
  | (e, none) =>
      let files ← if e.isModified && !o.dryRun then save files source title e.text now else .ok files
      return (output o title e, files)

/-- The paths of the files that a run may read. -/
def readable (o : Options) : List Path :=
  let p := Path.read o.file
  let page := PageFolder.pathOf ⟨p.parent⟩ (o.title?.getD (titleOf p))
  p :: page :: match o.config? with
    | some folder => Config.fileNames.map (Path.inFolder folder)
    | none => []

/-!
# Ends
-/

/-- How the program ends. -/
structure Finish where
  exitCode : Nat
  output : Text := []
  complaint : Text := []
  files : FileTree

def usage : Text :=
  "usage: [--title TITLE] [--config FOLDER] [--dry-run] [--json] FILE\n"

def finish (arguments : List Text) (files : FileTree) (now : Nat) : Finish :=
  match readOptions arguments with
  | none => ⟨2, [], usage, files⟩
  | some o =>
      match run o files now with
      | .ok (printed, files) => ⟨0, printed, [], files⟩
      | .error e => ⟨1, [], "error: " ++ e.message ++ "\n", files⟩

end CommandLine
end WikiEntry
