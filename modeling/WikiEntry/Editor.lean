import WikiEntry.Rule.All

/-!
# Editing a page

An editor holds the text of one page while the rules are applied to it, and records which of them changed
it.  When a fault ends a check, the text is what it was at first and nothing is recorded.
-/

namespace WikiEntry

structure Change where
  rule : Text
  summary : Option Text
  deriving DecidableEq, Repr

structure Editor where
  config : Config
  title : Text
  text : Text
  given : Text
  legacy : Bool
  changes : List Change

namespace Editor

/-- An editor for a page; its white space is tidied at once. -/
def ofPage (c : Config) (title t : Text) : Editor :=
  let tidied := Region.sanitizeBlanks t
  ⟨c, title.trim, tidied, t, Marks.isLegacy tidied, []⟩

def context (e : Editor) : Context :=
  ⟨e.config, e.title, e.legacy⟩

/-- The editor after one rule, and whether the rule changed the text. -/
def apply (e : Editor) (r : Rule) : Except EntryError (Editor × Bool) := do
  match ← r.run e.context e.text with
  | none => return (e, false)
  | some o =>
      if changed e.text o.text then
        return ({ e with text := o.text, legacy := Marks.isLegacy o.text,
                         changes := e.changes ++ [⟨r.name, o.summary⟩] }, true)
      else return (e, false)

/-- The editor after the rules, and the fault that stopped them. -/
def applyAll (e : Editor) : List Rule → Editor × Option EntryError
  | [] => (e, none)
  | r :: rules =>
      match e.apply r with
      | .ok (e, _) => e.applyAll rules
      | .error f => (e, some f)

def restore (e : Editor) : Editor :=
  { e with text := e.given, changes := [] }

def check (e : Editor) : Editor × Option EntryError :=
  match e.applyAll Rule.all with
  | (e, none) => (e, none)
  | (e, some f) => (e.restore, some f)

/-- The fragments of the summary, each once, in the order in which they came up. -/
def summary (e : Editor) : Text :=
  let fragments := (e.changes.filterMap Change.summary).filter (!·.isEmpty)
  Text.joinWith "; " (fragments.foldl addOnce [])

/-- Some change is worth a summary; others are not worth saving on their own. -/
def isModified (e : Editor) : Bool :=
  e.changes.any (·.summary.isSome)

end Editor
end WikiEntry
