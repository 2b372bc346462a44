import WikiEntry.Config.Basic
import WikiEntry.Template.Parse

/-!
# Language headers

The header of a language is a template that gives its code as first parameter.  The template is kept as it
was written, so that a header that is not changed is printed as it was read; the name of the language is
looked up when the code is set.
-/

namespace WikiEntry

inductive LanguageKind where
  | plain
  | transliterated
  deriving DecidableEq, Repr

structure LanguageHeader where
  template : Template
  kind : LanguageKind
  name : Text
  deriving DecidableEq, Repr

namespace LanguageHeader

/-- A language template that takes up the whole header. -/
def pattern : Pattern :=
  .whole ("\x7b\x7b" ++ .few (.char ' ') ++ .group 1 (.alt "lengua" "translit") ++ .few (.char ' ')
    ++ "|" ++ .few1 .inLine ++ "\x7d\x7d")

def nameOf (c : Config) (code : Text) : Text :=
  (c.languageName? code).getD []

/-- Reads a trimmed header; a header that is no language template is `none`. -/
def read (c : Config) (header : Text) : Except EntryError (Option LanguageHeader) :=
  match pattern.find? header, Template.parse? header with
  | some m, some template =>
      let code := (template.get? "1").getD []
      if code.isEmpty then .error (.structural (.languageWithoutCode header))
      else
        let kind := if m.text header 1 == "translit" then .transliterated else .plain
        .ok (some ⟨template, kind, nameOf c code⟩)
  | _, _ => .ok none

/-- The header of a new language; its code is put into lower case. -/
def ofCode (c : Config) (code : Text) : LanguageHeader :=
  let code := code.trim.lower
  ⟨(Template.ofName "lengua").setPositional 1 code, .plain, nameOf c code⟩

def render (h : LanguageHeader) : Text :=
  h.template.render

/-!
# Parameters
-/

def code (h : LanguageHeader) : Text :=
  (h.template.get? "1").getD []

def hasCode (h : LanguageHeader) (code : Text) : Bool :=
  h.code.sameIgnoringCase code.trim

def paramOf : Param → Text × Text
  | .named k v => (k.trim, v.trim)
  | .positional i v => (Text.ofNumber i, v.trim)

def params (h : LanguageHeader) : List (Text × Text) :=
  (h.template.params.filter fun p => !p.answersTo "1").map paramOf

def param? (h : LanguageHeader) (key : Text) : Option Text :=
  if key.trim == "1" then none else h.template.get? key

def isTransliteration (h : LanguageHeader) : Bool :=
  h.kind == .transliterated
    || h.params.any fun p => p.1.startsWith "escritura" && p.2.lower == "transliteración"

def setCode (c : Config) (h : LanguageHeader) (code : Text) : LanguageHeader :=
  { h with template := h.template.setPositional 1 code.trim, name := nameOf c code.trim }

def setParam (h : LanguageHeader) (key value : Text) : LanguageHeader :=
  if key.trim == "1" then h else { h with template := h.template.set key value }

def canRemove (h : LanguageHeader) (key : Text) : Bool :=
  key.trim != "1" && h.template.has key

def removeParam (h : LanguageHeader) (key : Text) : LanguageHeader :=
  if h.canRemove key then { h with template := h.template.remove key } else h

end LanguageHeader
end WikiEntry
