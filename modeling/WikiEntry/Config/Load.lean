import WikiEntry.Config.Basic

/-!
# Loading a configuration

Tables are kept in text files, one entry a line; blank lines and lines that begin with a number sign are
skipped, and so are lines that have not the form of an entry.  A file that is missing leaves the built-in
table in place.
-/

namespace WikiEntry
namespace Config

/-!
# Lines
-/

def contentLines (t : Text) : List Text :=
  (t.lines.map Text.trimRight).filter fun l => !l.isBlank && !(l.trimLeft).startsWith "#"

/-- A line of a key and a value with an equals sign between them, neither of them blank. -/
def assignment? (line : Text) : Option (Text × Text) :=
  (line.splitOnce? "=").bind fun (key, value) =>
    if key.isBlank || value.isBlank then none else some (key.trim, value.trim)

/-!
# Tables
-/

def readLanguages (t : Text) : List (Text × Text) :=
  (contentLines t).filterMap fun line =>
    (line.splitOnce? "\t").bind fun (code, name) =>
      if code.isBlank || name.isBlank then none else some (code.trim, name.trim)

def readInterwiki (t : Text) : List Text :=
  (contentLines t).map Text.trim

def readRedirects (t : Text) : List (Text × Text) :=
  (contentLines t).filterMap assignment?

def descriptor (name : Text) : Except EntryError Descriptor :=
  (Descriptor.ofName name).mapError fun _ => .config (.unknownDescriptor name.trim)

/-- Lines with another number of members than two are skipped; unknown members are a fault. -/
def readCompounds (t : Text) : Except EntryError (List (Text × Descriptor × Descriptor)) :=
  ((contentLines t).filterMap assignment?).filterMapM fun (name, members) =>
    match (members.splitOn ",").map Text.trim with
    | [first, second] => do
        let first ← descriptor first
        let second ← descriptor second
        return some (name, first, second)
    | _ => return none

def readComments (t : Text) : Except EntryError (List Pattern) :=
  (contentLines t).mapM fun line =>
    match Pattern.read? line with
    | some p => .ok p
    | none => .error (.config .commentPattern)

def readSettings (t : Text) : Except EntryError Settings :=
  match Settings.read? t with
  | some s => .ok s
  | none => .error (.config .settings)

/-!
# Files
-/

def fileNames : List Text :=
  ["langs.tsv", "interwiki.txt", "template-redirects.txt", "catgram-compounds.txt", "comments.txt",
    "settings.json"]

def orBuiltin {α : Type} (file : Option Text) (read : Text → Except EntryError α) (builtin : α) :
    Except EntryError α :=
  match file with
  | some t => read t
  | none => .ok builtin

/-- The configuration of the files of a directory, where `file` gives the content of a file that is there
by its name. -/
def load (file : Text → Except EntryError (Option Text)) : Except EntryError Config := do
  let languages ← file "langs.tsv"
  let interwiki ← file "interwiki.txt"
  let redirects ← file "template-redirects.txt"
  let compounds ← file "catgram-compounds.txt"
  let comments ← file "comments.txt"
  let settings ← file "settings.json"
  let compounds ← orBuiltin compounds readCompounds builtin.compounds
  let comments ← orBuiltin comments readComments builtin.comments
  let settings ← orBuiltin settings readSettings builtin.settings
  return {
    languages := languages.elim builtin.languages readLanguages
    interwiki := interwiki.elim builtin.interwiki readInterwiki
    redirects := redirects.elim builtin.redirects readRedirects
    compounds, comments, settings }

end Config
end WikiEntry
