import WikiEntry.Section.Language
import WikiEntry.Section.Header
import WikiEntry.Section.Body

/-!
# Sections

A section is a header with the body up to the next header.  A section of level 2 whose header is a language
template is a language section: it carries the language, and its header is the text of that template.
Where a section stands among others is the matter of a page.
-/

namespace WikiEntry

structure Section where
  line : HeaderLine
  body : Body
  language? : Option LanguageHeader
  deriving DecidableEq, Repr

instance : Inhabited Section := ⟨⟨⟨1, [], .blank, [], []⟩, {}, none⟩⟩

namespace Section

def level (s : Section) : Nat :=
  s.line.level

def header (s : Section) : Text :=
  s.line.header

def intro (s : Section) : Text :=
  s.body.text

def isLanguage (s : Section) : Bool :=
  s.language?.isSome

def languageCode? (s : Section) : Option Text :=
  s.language?.map LanguageHeader.code

/-!
# Making sections
-/

def checkLevel (level : Nat) : Except EntryError Unit :=
  if 1 ≤ level ∧ level ≤ 6 then .ok () else .error (.invariant (.levelOutOfRange level))

def formatOf (header : Text) : HeaderFormat :=
  if header.isEmpty then .blank else .spaced

/-- A section with the trimmed header and no body. -/
def ofHeader (header : Text) (level : Nat) : Except EntryError Section := do
  checkLevel level
  return ⟨⟨level, header.trim, formatOf header.trim, [], []⟩, {}, none⟩

def ofLanguage (c : Config) (code : Text) : Section :=
  let language := LanguageHeader.ofCode c code
  ⟨⟨2, language.render, .spaced, [], []⟩, {}, some language⟩

/-- The first line of a text, and the body below it. -/
def headAndBody (t : Text) : Text × Body :=
  match t.splitOnce? "\n" with
  | some (first, rest) => (first, Body.ofText rest)
  | none => (t, {})

/-- Reads a header line and the body below it. -/
def read (c : Config) (t : Text) : Except EntryError Section := do
  let line ← HeaderLine.read (headAndBody t).1
  let language ← if line.level = 2 then LanguageHeader.read c line.header else .ok none
  return ⟨line, (headAndBody t).2, language⟩

/-!
# Headers
-/

def footnote : Pattern :=
  ("<ref" ++ .atWordEdge ++ .few .all
    ++ .alt ("/" ++ .few (.char ' ') ++ ">")
        (">" ++ .few .all ++ "</ref" ++ .few (.char ' ') ++ ">") : Pattern).ignoringCase

/-- The header without footnotes, comments and unparsed text. -/
def strippedHeader (s : Section) : Text :=
  (Region.sanitizeBlanks (Region.stripHidden (footnote.replaceAll s.header []))).trim

/-- A new header; what is no language any more becomes a plain section. -/
def setHeader (c : Config) (s : Section) (header : Text) : Section :=
  let header := header.trim
  let format :=
    if s.header.isEmpty && !header.isEmpty then .spaced
    else if !s.header.isEmpty && header.isEmpty then .blank
    else s.line.format
  let language :=
    if s.level = 2 then
      match LanguageHeader.read c header with
      | .ok language => language
      | .error _ => none
    else none
  ⟨{ s.line with header := header, format := format }, s.body, language⟩

def setFormat (s : Section) (format : HeaderFormat) : Section :=
  { s with line := { s.line with format := format } }

/-- A section that leaves the level of languages is none any more. -/
def setLevel (s : Section) (level : Nat) : Except EntryError Section := do
  checkLevel level
  return ⟨{ s.line with level := level }, s.body, if level = 2 then s.language? else none⟩

def renderHeader (s : Section) : Text :=
  s.line.render

/-!
# Bodies
-/

def setIntro (s : Section) (t : Text) : Section :=
  { s with body := s.body.setText t }

def setLeading (s : Section) (n : Nat) : Section :=
  { s with body := s.body.setLeading n }

def setTrailing (s : Section) (n : Nat) : Section :=
  { s with body := s.body.setTrailing n }

def render (s : Section) : Text :=
  s.renderHeader ++ (if s.intro.isEmpty then [] else ['\n']) ++ s.body.render

/-!
# Languages
-/

/-- Changes the language of a language section, and its header with it. -/
def updateLanguage (s : Section) (f : LanguageHeader → LanguageHeader) : Section :=
  match s.language? with
  | some h => { s with line := { s.line with header := (f h).render }, language? := some (f h) }
  | none => s

def setLanguageCode (c : Config) (s : Section) (code : Text) : Section :=
  s.updateLanguage (·.setCode c code)

def setLanguageParam (s : Section) (key value : Text) : Section :=
  s.updateLanguage (·.setParam key value)

def canRemoveLanguageParam (s : Section) (key : Text) : Bool :=
  s.language?.any (·.canRemove key)

def removeLanguageParam (s : Section) (key : Text) : Section :=
  if s.canRemoveLanguageParam key then s.updateLanguage (·.removeParam key) else s

end Section
end WikiEntry
