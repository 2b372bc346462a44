import WikiEntry.Text.Case
import WikiEntry.Text.Blank

/-!
# Templates

A template has a name and parameters.  Names, keys and values keep the blanks they are written with, so
that a template is printed as it was read; looking a parameter up trims the keys on both sides.
-/

namespace WikiEntry

inductive Param where
  | positional (index : Nat) (value : Text)
  | named (key value : Text)
  deriving DecidableEq, Repr

namespace Param

def value : Param → Text
  | positional _ v => v
  | named _ v => v

def withValue (v : Text) : Param → Param
  | positional i _ => positional i v
  | named k _ => named k v

def isPositional : Param → Bool
  | positional .. => true
  | named .. => false

/-- A key asks for the positional parameter of that number as well as for one of that name. -/
def answersTo (key : Text) : Param → Bool
  | positional i _ => Text.readNumber? key.trim == some i
  | named k _ => k.trim == key.trim

def render : Param → Text
  | positional _ v => '|' :: v
  | named k v => '|' :: k ++ '=' :: v

end Param

structure Template where
  name : Text
  params : List Param
  deriving DecidableEq, Repr

namespace Template

def ofName (name : Text) : Template :=
  ⟨name, []⟩

def render (t : Template) : Text :=
  "\x7b\x7b" ++ t.name ++ t.params.flatMap Param.render ++ "\x7d\x7d"

/-!
# Names
-/

/-- The form in which names are compared: underscores are spaces, runs of spaces are one, and the first
letter is in lower case. -/
def nameForm (name : Text) : Text :=
  let spaced := name.trim.map fun c => if c = '_' then ' ' else c
  match Text.joinWith " " ((Text.splitOn spaced " ").filter (!·.isEmpty)) with
  | [] => []
  | c :: r => Chars.lower c ++ r

def trimmedName (t : Template) : Text :=
  t.name.trim

def isNamed (t : Template) (name : Text) : Bool :=
  nameForm t.name == nameForm name

def setName (t : Template) (name : Text) : Template :=
  { t with name := name }

/-!
# Parameters
-/

def find? (t : Template) (key : Text) : Option Param :=
  t.params.find? (·.answersTo key)

/-- The trimmed value of the first parameter that answers to the key. -/
def get? (t : Template) (key : Text) : Option Text :=
  (t.find? key).map (·.value.trim)

def has (t : Template) (key : Text) : Bool :=
  t.params.any (·.answersTo key)

def positionalCount (t : Template) : Nat :=
  t.params.countP (·.isPositional)

/-- Gives the first parameter that answers to the key a new value. -/
def setFirst (key value : Text) : List Param → List Param
  | [] => []
  | p :: ps => if p.answersTo key then p.withValue value :: ps else p :: setFirst key value ps

/-- Sets the parameter that answers to the key, and adds a named one at the end if there is none. -/
def set (t : Template) (key value : Text) : Template :=
  if t.has key then { t with params := setFirst key value t.params }
  else { t with params := t.params ++ [.named key value] }

/-- Sets the parameter that answers to the key, and puts a named one in front if there is none. -/
def setAtFront (t : Template) (key value : Text) : Template :=
  if t.has key then t.set key value else { t with params := .named key value :: t.params }

/-- Sets a positional parameter; the missing ones before it become empty. -/
def setPositional (t : Template) (n : Nat) (value : Text) : Template :=
  if n = 0 then t
  else
    let key := Text.ofNumber n
    if t.has key then { t with params := setFirst key value t.params }
    else
      let count := t.positionalCount
      let fill := (List.range' (count + 1) (n - 1 - count)).map fun i => Param.positional i []
      { t with params := t.params ++ fill ++ [.positional n value] }

/-- The positional parameters behind a removed one move up. -/
def renumber (removed : Nat) : Param → Param
  | .positional i v => .positional (if removed < i then i - 1 else i) v
  | p => p

/-- Removes the first parameter that answers to the key. -/
def remove (t : Template) (key : Text) : Template :=
  let params := t.params.eraseP (·.answersTo key)
  match t.find? key with
  | some (.positional i _) => { t with params := params.map (renumber i) }
  | _ => { t with params := params }

end Template
end WikiEntry
