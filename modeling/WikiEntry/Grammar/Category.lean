import WikiEntry.Grammar.Forms

/-!
# Grammatical categories

A category is a head, qualified by at most two further descriptors that agree with it in gender and number.
-/

namespace WikiEntry

inductive Conjunction where
  | and
  | or
  deriving DecidableEq, Repr

namespace Conjunction

def name : Conjunction → Text
  | and => "And"
  | or => "Or"

/-- The spoken form before `word`: the vowel changes before the same vowel, except where the word starts
with a diphthong; a silent letter in front is skipped. -/
def before (c : Conjunction) (word : Text) : Text :=
  let sounded := (Text.after? "h" word).getD word
  match c, sounded with
  | and, first :: second :: _ =>
      if (first = 'i' ∨ first = 'í') ∧ ¬ second ∈ ("aeiouáéíóú" : Text) then "e" else "y"
  | and, _ => "y"
  | or, first :: _ :: _ => if first = 'o' ∨ first = 'ó' then "u" else "o"
  | or, _ => "o"

end Conjunction

structure Category where
  first : Descriptor
  second : Option Descriptor := none
  third : Option (Descriptor × Conjunction) := none
  deriving DecidableEq, Repr

namespace Category

def ofHead? (first : Descriptor) : Option Category :=
  if first.isHead then some ⟨first, none, none⟩ else none

def ofPair? (first second : Descriptor) : Option Category :=
  (ofHead? first).map fun c => { c with second := some second }

def ofTriple? (first second third : Descriptor) (c : Conjunction) : Option Category :=
  (ofPair? first second).map fun k => { k with third := some (third, c) }

def ofForms (first second : Text) : Except EntryError Category := do
  let head ← Descriptor.ofForm first
  let qualifier ← Descriptor.ofForm second
  match ofPair? head qualifier with
  | some c => .ok c
  | none => .error (.unknownDescriptor (first ++ " " ++ second))

def qualifier? (k : Category) (inPlural : Bool) : Option Text :=
  k.second.map fun second =>
    let agreeing (d : Descriptor) : Text := d.adjectiveForm k.first.gender inPlural
    match k.third with
    | none => agreeing second
    | some (third, c) =>
        agreeing second ++ " " ++ c.before (agreeing third) ++ " " ++ agreeing third

def withQualifier (head : Text) : Option Text → Text
  | some q => head ++ " " ++ q
  | none => head

def singular (k : Category) : Text :=
  withQualifier k.first.singularForm (k.qualifier? false)

def plural (k : Category) : Text :=
  withQualifier k.first.pluralForm (k.qualifier? true)

/-- The identifiers of the members. -/
def render (k : Category) : Text :=
  match k.second, k.third with
  | none, _ => k.first.name
  | some second, none => k.first.name ++ " " ++ second.name
  | some second, some (third, c) =>
      k.first.name ++ " " ++ second.name ++ " " ++ c.name ++ " " ++ third.name

end Category
end WikiEntry
