import WikiEntry.Text.Case
import WikiEntry.Text.Blank

/-!
# Sets of characters in patterns

A set is put together from characters, ranges and classes by union, intersection and complement.  Ignoring
case is an operation on sets as well: it adds all variants of the characters of a set.
-/

namespace WikiEntry

inductive CharSet where
  | empty
  | char (c : Char)
  | range (low high : Char)
  | word
  | digit
  | blank
  | within (ranges : List (Nat × Nat))
  | union (a b : CharSet)
  | inter (a b : CharSet)
  | complement (a : CharSet)
  | anyCase (a : CharSet)
  | anyAsciiCase (a : CharSet)
  deriving DecidableEq, Repr

namespace CharSet

def holds : CharSet → Char → Bool
  | empty, _ => false
  | char a, c => a == c
  | range low high, c => low.toNat ≤ c.toNat && c.toNat ≤ high.toNat
  | word, c => Chars.isWord c
  | digit, c => Chars.isDigit c
  | blank, c => Chars.isBlank c
  | within ranges, c => Chars.inRanges ranges c
  | union a b, c => a.holds c || b.holds c
  | inter a b, c => a.holds c && b.holds c
  | complement a, c => !a.holds c
  | anyCase a, c => (Chars.variants c).any fun v => a.holds v
  | anyAsciiCase a, c => a.holds c || a.holds c.toLower || a.holds c.toUpper

/-!
# Building sets
-/

def anyOf : List CharSet → CharSet
  | [] => empty
  | [a] => a
  | a :: as => union a (anyOf as)

def oneOf (t : Text) : CharSet :=
  anyOf (t.map char)

def noneOf (t : Text) : CharSet :=
  complement (oneOf t)

def all : CharSet :=
  complement empty

def inLine : CharSet :=
  noneOf ['\n']

/-- The characters that are in `a` and not in `b`. -/
def difference (a b : CharSet) : CharSet :=
  inter a (complement b)

/-- The characters that are in exactly one of two sets. -/
def symmetricDifference (a b : CharSet) : CharSet :=
  union (difference a b) (difference b a)

/-!
# Membership
-/

@[simp] theorem holds_char (a c : Char) : (char a).holds c = (a == c) :=
  rfl

theorem holds_anyOf (as : List CharSet) (c : Char) : (anyOf as).holds c = as.any (·.holds c) := by
  induction as with
  | nil => rfl
  | cons a as ih =>
      cases as with
      | nil => simp [anyOf]
      | cons b as => simpa [anyOf, holds] using congrArg (a.holds c || ·) ih

@[simp] theorem holds_oneOf (t : Text) (c : Char) : (oneOf t).holds c = t.contains c := by
  rw [oneOf, holds_anyOf]
  induction t with
  | nil => rfl
  | cons a t ih =>
      rw [List.map_cons, List.any_cons, ih, List.contains_cons, holds_char, Bool.beq_comm]

@[simp] theorem holds_noneOf (t : Text) (c : Char) : (noneOf t).holds c = !t.contains c := by
  rw [noneOf, holds, holds_oneOf]

@[simp] theorem holds_all (c : Char) : all.holds c = true :=
  rfl

end CharSet
end WikiEntry
