import WikiEntry.Error

/-!
# Stored pages

A store gives out the text of a page with the revision at which it was read.  A new text is submitted
together with the revision that it was made from, and is refused if the page has moved on since then.
-/

namespace WikiEntry

structure StoredPage where
  title : Text
  text : Text
  revision : Nat
  deriving DecidableEq, Repr

inductive Submission where
  | accepted
  | conflict
  deriving DecidableEq, Repr

end WikiEntry
