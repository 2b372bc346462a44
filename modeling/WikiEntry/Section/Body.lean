import WikiEntry.Text.Blank

/-!
# Bodies

The text under a header, or in front of the first header of a page, with the empty lines around it
counted apart.
-/

namespace WikiEntry

structure Body where
  leading : Nat := 0
  text : Text := []
  trailing : Nat := 0
  deriving DecidableEq, Repr

namespace Body

/-- Empty lines alone are all counted as trailing, the line that they begin on included. -/
def ofText (t : Text) : Body :=
  if t.all (· == '\n') then ⟨0, [], t.length + 1⟩
  else
    let kept := t.trimRightBy (· == '\n')
    let text := kept.trimLeftBy (· == '\n')
    ⟨kept.length - text.length, text, t.length - kept.length⟩

def setText (b : Body) (t : Text) : Body :=
  { b with text := t.trim, leading := if t.isBlank then 0 else b.leading }

/-- Without a text all newlines are trailing ones. -/
def setLeading (b : Body) (n : Nat) : Body :=
  if b.text.isEmpty then { b with trailing := b.trailing + n } else { b with leading := n }

def setTrailing (b : Body) (n : Nat) : Body :=
  { b with trailing := n }

def render (b : Body) : Text :=
  List.replicate b.leading '\n' ++ b.text ++ List.replicate b.trailing '\n'

end Body
end WikiEntry
