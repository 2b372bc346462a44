import WikiEntry.Text.Blank

/-!
# JSON values

The data format of the settings file and of reports.  Objects keep the order of their members and may
repeat a key.  Numbers keep the text that they are written with, since only their form decides what they
can stand for.  A string whose escapes name half a surrogate pair stands for no text, and an object has no
member under such a key: either is a broken value, which can be skipped and put to no other use.
-/

namespace WikiEntry

inductive JsonValue where
  | null
  | bool (b : Bool)
  | number (written : Text)
  | string (t : Text)
  | broken
  | array (values : List JsonValue)
  | object (members : List (Text × JsonValue))

namespace JsonValue

/-!
# Printing
-/

def hexDigit (n : Nat) : Char :=
  Nat.digitChar n

def escape (c : Char) : Text :=
  match c with
  | '"' => "\\\""
  | '\\' => "\\\\"
  | '\n' => "\\n"
  | '\r' => "\\r"
  | '\t' => "\\t"
  | '\x08' => "\\b"
  | '\x0c' => "\\f"
  | c =>
      if c.toNat < 32 then "\\u00" ++ [hexDigit (c.toNat / 16), hexDigit (c.toNat % 16)] else [c]

def quote (t : Text) : Text :=
  '"' :: t.flatMap escape ++ ['"']

def indent (depth : Nat) : Text :=
  '\n' :: List.replicate (2 * depth) ' '

mutual

/-- The value with every member on a line of its own, indented by two spaces for each level. -/
def pretty (depth : Nat) : JsonValue → Text
  | null => "null"
  | bool true => "true"
  | bool false => "false"
  | number written => written
  | string t => quote t
  | broken => "null"
  | array [] => "[]"
  | array (v :: vs) =>
      "[" ++ indent (depth + 1) ++ pretty (depth + 1) v ++ prettyValues (depth + 1) vs ++ indent depth ++ "]"
  | object [] => "\x7b\x7d"
  | object ((k, v) :: ms) =>
      "\x7b" ++ indent (depth + 1) ++ quote k ++ ": " ++ pretty (depth + 1) v
        ++ prettyMembers (depth + 1) ms ++ indent depth ++ "\x7d"

def prettyValues (depth : Nat) : List JsonValue → Text
  | [] => []
  | v :: vs => "," ++ indent depth ++ pretty depth v ++ prettyValues depth vs

def prettyMembers (depth : Nat) : List (Text × JsonValue) → Text
  | [] => []
  | (k, v) :: ms => "," ++ indent depth ++ quote k ++ ": " ++ pretty depth v ++ prettyMembers depth ms

end

end JsonValue
end WikiEntry
