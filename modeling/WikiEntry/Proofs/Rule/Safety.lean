import WikiEntry.Proofs.Error
import WikiEntry.Proofs.Template.Depth

/-!
# Pages that are refused for their depth

A page is refused for its depth exactly if the count of levels is above the limit.  The count sees every chain of
nested templates in which each is the first one to open inside the one before it, but not all chains: an earlier
template beside a deeper one hides how deep that is.
-/

namespace WikiEntry

/-!
# Faults
-/

namespace Section

end Section

namespace Safety

end Safety

/-!
# Chains of templates
-/

namespace TemplateDepth

end TemplateDepth

namespace Rule

open TemplateDepth

-- Three nested templates are counted as fewer if four braces open in a row, if an empty template stands in one of them,
-- or if an opening behind them is never closed.
example : depth "\x7b\x7b\x7b\x7ba|\x7b\x7bb\x7d\x7d\x7d\x7d\x7d\x7d" = 2 := by decide +kernel

example : depth "\x7b\x7ba|\x7b\x7bb|\x7b\x7bc\x7d\x7d\x7d\x7d|\x7b\x7b\x7d\x7d\x7d\x7d" = 2 := by decide +kernel

example : depth "\x7b\x7ba|\x7b\x7bb|\x7b\x7bc\x7d\x7d\x7d\x7d\x7d\x7d \x7b\x7bx" = 0 := by decide +kernel

end Rule
end WikiEntry
