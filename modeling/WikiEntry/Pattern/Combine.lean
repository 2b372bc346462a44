import WikiEntry.Pattern.Build

/-!
# Combining the parts of a notation

Parts are put together in simplified form: sequences and alternatives are flattened, alternatives of single
characters form one set, alternatives that begin alike share their beginning, and a pattern that reads nothing
is repeated at most once.  Which way is preferred depends on this form.  The ends of a part are kept apart before
the next part is read, so that reading does not take longer with every part.
-/

namespace WikiEntry
namespace Pattern

/-!
# Patterns with ends apart
-/

/-- Whether a pattern has one end at most. -/
def hasOneEnd : Pattern → Bool
  | empty => true
  | one _ => true
  | anchor _ => true
  | seq p q => p.hasOneEnd && q.hasOneEnd
  | group _ p => p.hasOneEnd
  | run _ least most _ => most == some least
  | times _ least most p => least == most && p.hasOneEnd
  | distinct p => p.hasOneEnd
  | _ => false

/-- Whether no two ends of a pattern are at one place. -/
def hasEndsApart : Pattern → Bool
  | seq p q => p.hasOneEnd && q.hasEndsApart
  | alt _ _ => false
  | group _ p => p.hasEndsApart
  | opt _ p => p.hasEndsApart && !p.mayBeEmpty
  | _ => true

/-- The pattern with its ends apart, so that what follows is read once from each of them. -/
def apart (p : Pattern) : Pattern :=
  if p.hasEndsApart then p else distinct p

/-!
# Sequences
-/

def factors : Pattern → List Pattern
  | seq p q => p.factors ++ q.factors
  | distinct p => p.factors
  | empty => []
  | p => [p]

def sequence (ps : List Pattern) : Pattern :=
  match ps.flatMap factors with
  | [] => empty
  | p :: ps => ps.foldl (fun p q => seq p.apart q) p

/-!
# Alternatives
-/

def branches : Pattern → List Pattern
  | alt p q => p.branches ++ q.branches
  | p => [p]

def set? : Pattern → Option CharSet
  | one s => some s
  | _ => none

def choice (ps : List Pattern) : Pattern :=
  let ps := ps.flatMap branches
  match ps.mapM set? with
  | some sets => one (.anyOf sets)
  | none => anyOf ps

def isLiteral : Pattern → Bool
  | one (.char _) => true
  | _ => false

/-- The parts of a sequence, with literal characters in a row as one part. -/
def units (p : Pattern) : List (List Pattern) :=
  p.factors.splitBy fun a b => a.isLiteral && b.isLiteral

def sharedPrefix {α : Type} [DecidableEq α] : List α → List α → List α
  | a :: as, b :: bs => if a = b then a :: sharedPrefix as bs else []
  | _, _ => []

/-- Alternatives in order of preference.  Where all of them are sequences with the same beginning, it is read
before the choice between them. -/
def alternatives (ps : List Pattern) : Pattern :=
  match (ps.flatMap branches).map units with
  | first :: second :: rest =>
      let all := first :: second :: rest
      let shared := (second :: rest).foldl sharedPrefix first
      if all.all (2 ≤ ·.length) && !shared.isEmpty then
        sequence (shared.flatten ++ [choice (all.map fun us => sequence (us.drop shared.length).flatten)])
      else choice ps
  | _ => choice ps

/-!
# Repetitions
-/

def roundsFrom (greedy : Bool) (least : Nat) (p : Pattern) : Pattern :=
  match least with
  | 0 => loop greedy false p
  | 1 => loop greedy true p
  | n + 1 => sequence [times greedy n n p, loop greedy true p]

def repeated (greedy : Bool) (least : Nat) (most : Option Nat) (p : Pattern) : Pattern :=
  let (least, most) :=
    if p.isEmptyOnly then (min least 1, some (min (most.getD 1) 1)) else (least, most)
  if most = some 0 then empty
  else if least = 1 ∧ most = some 1 then p
  else
    match p with
    | one s => run greedy least most s
    | _ =>
        match most with
        | none => roundsFrom greedy least p
        | some most => if least = 0 ∧ most = 1 then opt greedy p else times greedy least most p

/-!
# Size

A rough measure of the space that a pattern takes when it is laid out, in bytes.
-/

end Pattern

namespace CharSet

def layoutSize : CharSet → Nat
  | empty => 32
  | char c => 32 * c.utf8Size
  | range _ high => if high.toNat < 128 then 72 else 400
  | word => 50000
  | digit => 4500
  | blank => 650
  | within ranges => 65 * ranges.length + 64
  | union a b => a.layoutSize + b.layoutSize
  | inter a b => max a.layoutSize b.layoutSize
  | complement a => a.layoutSize + 400
  | anyCase a => 2 * a.layoutSize
  | anyAsciiCase a => 2 * a.layoutSize

end CharSet

namespace Pattern

def layoutCount (least : Nat) (most : Option Nat) : Nat :=
  most.getD (max least 1)

def layoutSize : Pattern → Nat
  | empty => 32
  | one s => s.layoutSize
  | anchor _ => 32
  | seq p q => p.layoutSize + q.layoutSize
  | alt p q => p.layoutSize + q.layoutSize + 72
  | group _ p => p.layoutSize + 64
  | opt _ p => p.layoutSize + 72
  | run _ least most s => layoutCount least most * (s.layoutSize + (if most = some least then 0 else 40))
  | loop _ _ p => p.layoutSize + 72
  | times _ least most p => most * (p.layoutSize + (if most = least then 0 else 40))
  | distinct p => p.layoutSize

/-- Patterns of a larger size are refused. -/
def sizeLimit : Nat :=
  10 <<< 20

end Pattern
end WikiEntry
