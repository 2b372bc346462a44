import WikiEntry.Pattern.Search

/-!
# Building patterns

Names for the patterns that the rules of the library are made of.
-/

namespace WikiEntry
namespace Pattern

instance : Append Pattern := ⟨seq⟩

/-- Reads exactly `t`. -/
def lit : Text → Pattern
  | [] => empty
  | [c] => one (.char c)
  | c :: r => seq (one (.char c)) (lit r)

instance : Coe String Pattern := ⟨fun s => lit s.toList⟩

/-- The alternatives in order of preference; no alternatives match nothing. -/
def anyOf : List Pattern → Pattern
  | [] => one .empty
  | [p] => p
  | p :: ps => alt p (anyOf ps)

def anyText (ts : List Text) : Pattern :=
  anyOf (ts.map lit)

def maybe (p : Pattern) : Pattern :=
  opt true p

/-- As many characters of the set as possible. -/
def many (s : CharSet) : Pattern :=
  run true 0 none s

/-- As many characters of the set as possible, at least one. -/
def some1 (s : CharSet) : Pattern :=
  run true 1 none s

/-- As few characters of the set as possible. -/
def few (s : CharSet) : Pattern :=
  run false 0 none s

/-- As few characters of the set as possible, at least one. -/
def few1 (s : CharSet) : Pattern :=
  run false 1 none s

def maybeOne (s : CharSet) : Pattern :=
  run true 0 (some 1) s

/-- One round after the other, as many as possible. -/
def rounds (p : Pattern) : Pattern :=
  loop true false p

def rounds1 (p : Pattern) : Pattern :=
  loop true true p

def atStart : Pattern :=
  anchor .textStart

def atEnd : Pattern :=
  anchor .textEnd

def atLineStart : Pattern :=
  anchor .lineStart

def atLineEnd : Pattern :=
  anchor .lineEnd

def atWordEdge : Pattern :=
  anchor (.word false .edge)

def spaces : Pattern :=
  many (.char ' ')

def blanks : Pattern :=
  many .blank

def restOfLine : Pattern :=
  many .inLine

def whole (p : Pattern) : Pattern :=
  atStart ++ p ++ atEnd

/-- The same pattern with the case of all its characters ignored. -/
def ignoringCase : Pattern → Pattern
  | one s => one s.anyCase
  | seq p q => seq p.ignoringCase q.ignoringCase
  | alt p q => alt p.ignoringCase q.ignoringCase
  | group i p => group i p.ignoringCase
  | opt greedy p => opt greedy p.ignoringCase
  | run greedy least most s => run greedy least most s.anyCase
  | loop greedy atLeastOnce p => loop greedy atLeastOnce p.ignoringCase
  | times greedy least most p => times greedy least most p.ignoringCase
  | distinct p => distinct p.ignoringCase
  | p => p

end Pattern
end WikiEntry
