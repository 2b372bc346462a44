import WikiEntry.Text.Basic

/-!
# Arguments

The command line takes one file, and options in the usual long and short notations: values stand behind an
equals sign, directly behind a short option or in the next argument, and short options can be written
together.  Everything behind two hyphens is a file.
-/

namespace WikiEntry
namespace CommandLine

/-- What the program is asked to do. -/
structure Options where
  file : Text
  title? : Option Text := none
  config? : Option Text := none
  json : Bool := false
  dryRun : Bool := false
  deriving DecidableEq, Repr

inductive Switch where
  | json
  | dryRun
  deriving DecidableEq, Repr

inductive Setting where
  | title
  | config
  deriving DecidableEq, Repr

inductive Argument where
  | file (path : Text)
  | switch (s : Switch)
  | setting (s : Setting) (value : Text)
  deriving DecidableEq, Repr

/-!
# Notations
-/

def longName (name : Text) : Option (Switch ⊕ Setting) :=
  (Text.keyed
    [("json", .inl .json), ("dry-run", .inl .dryRun), ("title", .inr .title),
      ("config", .inr .config)]).lookup name

def shortName : Char → Option (Switch ⊕ Setting)
  | 'n' => some (.inl .dryRun)
  | 't' => some (.inr .title)
  | 'c' => some (.inr .config)
  | _ => none

/-- A written argument: complete, or a setting whose value is the next one, after some switches. -/
inductive Written where
  | complete (arguments : List Argument)
  | waiting (switches : List Argument) (s : Setting)
  deriving DecidableEq, Repr

def readLong (t : Text) : Option Written :=
  let (name, value?) := match t.splitOnce? "=" with
    | some (name, value) => (name, some value)
    | none => (t, none)
  match longName name, value? with
  | some (.inl s), none => some (.complete [.switch s])
  | some (.inr s), some value => some (.complete [.setting s value])
  | some (.inr s), none => some (.waiting [] s)
  | _, _ => none

def readShort (switches : List Argument) : Text → Option Written
  | [] => some (.complete switches)
  | c :: r =>
      match shortName c with
      | some (.inl s) => readShort (switches ++ [.switch s]) r
      | some (.inr s) =>
          if r.isEmpty then some (.waiting switches s)
          else some (.complete (switches ++ [.setting s ((Text.after? "=" r).getD r)]))
      | none => none

/-- A single hyphen is no option. -/
def isOption (t : Text) : Bool :=
  t.startsWith "-" && t != "-"

def readWritten (t : Text) : Option Written :=
  if !isOption t then some (.complete [.file t])
  else
    match Text.after? "--" t with
    | some long => readLong long
    | none => readShort [] (t.drop 1)

/-!
# Options
-/

def readArguments : List Text → Option (List Argument)
  | [] => some []
  | t :: rest =>
      if t = "--" then some (rest.map .file)
      else
        match readWritten t, rest with
        | some (.complete arguments), rest => (readArguments rest).map (arguments ++ ·)
        | some (.waiting switches s), value :: rest =>
            if isOption value then none
            else (readArguments rest).map (switches ++ .setting s value :: ·)
        | _, _ => none

def files (arguments : List Argument) : List Text :=
  arguments.filterMap fun
    | .file path => some path
    | _ => none

def values (arguments : List Argument) (s : Setting) : List Text :=
  arguments.filterMap fun
    | .setting s' value => if s' = s then some value else none
    | _ => none

/-- The options, if there is one file and nothing is given twice. -/
def readOptions (arguments : List Text) : Option Options := do
  let arguments ← readArguments arguments
  let titles := values arguments .title
  let configs := values arguments .config
  let jsons := arguments.count (.switch .json)
  let dryRuns := arguments.count (.switch .dryRun)
  match files arguments with
  | [file] =>
      if titles.length ≤ 1 && configs.length ≤ 1 && jsons ≤ 1 && dryRuns ≤ 1 then
        some ⟨file, titles.head?, configs.head?, jsons == 1, dryRuns == 1⟩
      else none
  | _ => none

end CommandLine
end WikiEntry
