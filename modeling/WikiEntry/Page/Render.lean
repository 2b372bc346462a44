import WikiEntry.Page.Basic

/-!
# Printing pages

A page is printed as its sections in the order of the outline, each on new lines, after the text in front of
them and before the content that follows the last one.
-/

namespace WikiEntry
namespace Page

/-- The trees of a forest, one after the other. -/
def renderTrees (p : Page) : Outline → List Text
  | .nil => []
  | .node i _ c r => Text.joinWith "\n" ((p.get i).render :: renderTrees p c) :: renderTrees p r

def renderSection (p : Page) (i : Nat) : Text :=
  Text.joinWith "\n" ((p.get i).render :: p.renderTrees (p.below i))

/-- What stands below the header of a section, trimmed; newlines in front of its text are left out. -/
def content (p : Page) (i : Nat) : Text :=
  let own := (p.get i).intro ++ List.replicate (p.get i).body.trailing '\n'
  (Text.joinWith "\n" (own :: p.renderTrees (p.below i))).trim

def render (p : Page) : Text :=
  let front := p.body.render ++ (if p.intro.isEmpty then [] else ['\n'])
  let sections := p.topLevel.flatMap fun i => p.renderSection i ++ ['\n']
  let content := (front ++ sections).dropLast
  if p.trailingContent.isEmpty then content else content ++ '\n' :: p.trailingContent

end Page
end WikiEntry
