import WikiEntry.Rule.Basic
import WikiEntry.TemplateDepth

/-!
# Pages that are refused

Pages whose templates are nested too deep, or whose brackets do not pair up, are left as they are.
-/

namespace WikiEntry
namespace Safety

def checkBrackets (t place : Text) : Except EntryError Unit := do
  let t := Region.stripHidden t
  if TemplateDepth.unpaired t "\x7b\x7b" "\x7d\x7d" then throw (.unbalanced (.unpaired .curly place))
  if TemplateDepth.unpaired t "[[" "]]" then throw (.unbalanced (.unpaired .square place))

def checkSections (p : Page) (n : Nat) : List Nat → Except EntryError Unit
  | [] => .ok ()
  | i :: rest => do
      checkBrackets (p.get i).intro ("Section intro (#" ++ Text.ofNumber n ++ ")")
      checkSections p (n + 1) rest

def check (x : Context) (t : Text) : Except EntryError Unit := do
  let limit := x.config.settings.maxTemplateDepth
  let depth := TemplateDepth.depth t
  if limit < depth then throw (.templatesTooDeep depth limit)
  let p ← x.read t
  checkBrackets p.intro "Page intro"
  checkSections p 1 p.order

end Safety

namespace Rule

/-- Changes nothing, but refuses pages that are not safe to work on. -/
def safety : Rule where
  name := "failsafe"
  run x t := do
    Safety.check x t
    return none

end Rule
end WikiEntry
