import WikiEntry.Rule.Basic

/-!
# Links

Links whose label repeats their target lose the label, and letters directly behind a link go into its label.
-/

namespace WikiEntry
namespace Links

/-- A link with its target, its last label, and what follows up to the next bracket. -/
def link : Pattern :=
  "[[" ++ .maybeOne (.char ':') ++ .group 1 (.some1 (.noneOf [']', '|']))
    ++ .rounds ("|" ++ .group 2 (.rounds (.maybeOne (.char ']') ++ .one (.noneOf [']', '|']))))
    ++ "]]" ++ .group 3 (.many (.noneOf ['[']))

/-- The letters that can follow a link as part of its word. -/
def isTrailLetter (c : Char) : Bool :=
  ('a' ≤ c && c ≤ 'z') || ("áéíóúñ" : Text).contains c

/-- The new text of a link, and whether the change is worth a summary. -/
def reviseLink (t : Text) (m : Match) : Option (Text × Bool) :=
  if (t.slice m.span).startsWith "[[:" then none
  else
    let target := (m.text t 1).trim
    let trail := m.text t 3
    let (page, anchor) := (target.splitOnce? "#").getD (target, [])
    if target.contains ':' || (page.isEmpty && !anchor.isEmpty) then none
    else
      (m.text? t 2).bind fun label =>
        let label := label.trim
        if label.isEmpty || label = target then some ("[[" ++ target ++ "]]" ++ trail, true)
        else
          match Text.after? target label with
          | some rest =>
              if anchor.isEmpty && rest.all isTrailLetter then
                some ("[[" ++ target ++ "]]" ++ rest ++ trail, false)
              else extendLabel target label trail
          | none => extendLabel target label trail
where
  /-- The letters behind a link become part of its label. -/
  extendLabel (target label trail : Text) : Option (Text × Bool) :=
    let (letters, rest) := trail.span isTrailLetter
    if letters.isEmpty then none
    else some ("[[" ++ target ++ "|" ++ label ++ letters ++ "]]" ++ rest, false)

/-- Revises all links outside the ignored regions; the second part says whether to mention it. -/
def reviseAll (t : Text) : Text × Bool :=
  Region.reviseWith t link (Region.ignored t) Match.start
    (fun mention m =>
      match reviseLink t m with
      | some (new, worthy) => (some new, mention || worthy)
      | none => (none, mention))
    false

end Links

namespace Rule

def links : Rule where
  name := "sanitize_links"
  run _ t :=
    let (revised, mention) := Links.reviseAll t
    .ok (Outcome.of? t revised (if mention then some "revisando enlaces" else none))

end Rule
end WikiEntry
