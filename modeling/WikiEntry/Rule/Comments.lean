import WikiEntry.Rule.Marks

/-!
# Comments left behind by entry forms

Comments that match the catalogue of the configuration are removed, with their line where they stand alone
on it, and so are placeholders in headers.
-/

namespace WikiEntry
namespace Comments

/-- The first match of the pattern is the whole text. -/
def matchesWhole (p : Pattern) (t : Text) : Bool :=
  (p.find? t).any fun m => m.span == ⟨0, t.length⟩

/-- The comments that match the catalogue, outside unparsed text. -/
def targets (c : Config) (t : Text) : List Span :=
  let unparsed := Region.elements .nowiki t
  (Region.comments t).filter fun s =>
    !Region.covers unparsed s.start && c.comments.any (matchesWhole · (t.slice s))

/-- Removes a comment, with its whole line if nothing else but spaces is on it. -/
def removeComment (t : Text) (s : Span) : Text :=
  let before := t.take s.start
  let after := t.drop s.stop
  let lineBefore := (before.reverse.takeWhile (· ≠ '\n')).reverse
  let lineAfter := after.takeWhile (· ≠ '\n')
  if (lineBefore ++ lineAfter).all (· = ' ') then
    let before := before.take (before.length - lineBefore.length)
    match after.drop lineAfter.length with
    | _ :: after => before ++ after
    | [] => before.dropLast
  else before ++ after

/-- Removes the comments from the last one to the first. -/
def removeTargets (c : Config) (t : Text) : Text :=
  (targets c t).foldr (fun s t => removeComment t s) t

/-!
# Placeholders in headers
-/

def placeholders : List Pattern :=
  let ending : Pattern := .few .inLine ++ "-->"
  ["<!--" ++ .spaces ++ "tipo de palabra, por ejemplo " ++ ending,
    "<!--" ++ .spaces ++ "tipo de palabra (es=español): " ++ ending]

def spaceRuns : Pattern :=
  .run true 2 none (.char ' ')

def cleanHeader (header : Text) : Text :=
  let cleaned := placeholders.foldl (fun t p => p.replaceAll t []) header
  (spaceRuns.replaceAll cleaned " ").trim

def cleanHeaders (c : Config) (p : Page) : Page :=
  p.order.foldl
    (fun p i =>
      let cleaned := cleanHeader (p.header i)
      if cleaned = p.header i then p else p.modify i (·.setHeader c cleaned))
    p

/-- Removes the placeholders; a page without any is not printed anew. -/
def removePlaceholders (x : Context) (t : Text) : Except EntryError Text :=
  if t.hasInfix "tipo de palabra" then do
    let p ← x.read t
    return if p.order.any fun i => cleanHeader (p.header i) ≠ p.header i then
      (cleanHeaders x.config p).render else t
  else .ok t

end Comments

namespace Rule

open Comments in
def boilerplate : Rule where
  name := "remove_comments"
  run x t := do
    let kept ← removePlaceholders x (Comments.removeTargets x.config t)
    return Outcome.of? t kept (some "eliminando comentarios")

end Rule
end WikiEntry
