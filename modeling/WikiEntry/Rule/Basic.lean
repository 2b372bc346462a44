import WikiEntry.Page.Read
import WikiEntry.Page.Render
import WikiEntry.Page.Edit
import WikiEntry.Template.Find

/-!
# Rules

A rule looks at the text of a page and either leaves it alone or gives a new text, together with a fragment
for the edit summary if the change is worth one.  White space at the end of the text does not count as
a change.
-/

namespace WikiEntry

/-- What rules know besides the text: the configuration, the title, and whether the page has the layout
from before the language templates. -/
structure Context where
  config : Config
  title : Text
  legacy : Bool

structure Outcome where
  text : Text
  summary : Option Text
  deriving DecidableEq, Repr

abbrev Verdict := Except EntryError (Option Outcome)

structure Rule where
  name : Text
  run : Context → Text → Verdict

/-!
# Outcomes
-/

def changed (before after : Text) : Bool :=
  before.trimRight != after.trimRight

namespace Outcome

/-- The outcome of a revised text, if it is a change. -/
def of? (before after : Text) (summary : Option Text) : Option Outcome :=
  if changed before after then some ⟨after, summary⟩ else none

def ofPage? (before : Text) (p : Page) (summary : Text) : Option Outcome :=
  of? before p.render (some summary)

end Outcome

namespace Context

def read (x : Context) (t : Text) : Except EntryError Page :=
  Page.read x.config x.title t

/-- Runs a rule that does not apply to pages in the legacy layout. -/
def onCurrentPage (x : Context) (t : Text) (f : Page → Verdict) : Verdict :=
  if x.legacy then .ok none else x.read t >>= f

end Context

/-!
# Summaries
-/

def addOnce (items : List Text) (item : Text) : List Text :=
  if items.contains item then items else items ++ [item]

end WikiEntry
