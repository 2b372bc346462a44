import WikiEntry.Json.Basic
import WikiEntry.Text.Blank
import WikiEntry.Text.CodePoints

/-!
# Reading JSON

Reads the whole of a text as one value; anything that is not in the format, and anything behind the value
but blanks, is refused.
-/

namespace WikiEntry
namespace JsonValue

def skipBlanks (t : Text) : Text :=
  t.dropWhile fun c => c = ' ' || c = '\n' || c = '\t' || c = '\r'

/-!
# Strings
-/

inductive Unit16 where
  | char (c : Char)
  | high (n : Nat)
  | low (n : Nat)

def unit16 (n : Nat) : Unit16 :=
  if 0xD800 ≤ n ∧ n < 0xDC00 then .high (n - 0xD800)
  else if 0xDC00 ≤ n ∧ n < 0xE000 then .low (n - 0xDC00)
  else .char (Char.ofNat n)

def readUnit? (t : Text) : Option (Unit16 × Text) :=
  if t.length < 4 then none else (Text.hexValue? (t.take 4)).map fun n => (unit16 n, t.drop 4)

def simpleEscape? : Char → Option Char
  | '"' => some '"'
  | '\\' => some '\\'
  | '/' => some '/'
  | 'b' => some '\x08'
  | 'f' => some '\x0c'
  | 'n' => some '\n'
  | 'r' => some '\r'
  | 't' => some '\t'
  | _ => none

/-- Reads a string behind its opening quote.  `read` is what it holds so far, backwards, or nothing once
half a surrogate pair has been met. -/
def readString : (depth : Nat) → (read : Option Text) → Text → Option (Option Text × Text)
  | 0, _, _ => none
  | depth + 1, read, t =>
      let add (c : Char) : Option Text := read.map (c :: ·)
      match t with
      | [] => none
      | '"' :: r => some (read.map List.reverse, r)
      | '\\' :: 'u' :: r =>
          (readUnit? r).bind fun (u, r) =>
            match u, r with
            | .char c, r => readString depth (add c) r
            | .high h, '\\' :: 'u' :: r' =>
                (readUnit? r').bind fun (v, r'') =>
                  match v with
                  | .low l => readString depth (add (Char.ofNat (0x10000 + 0x400 * h + l))) r''
                  | _ => readString depth none r''
            | _, r => readString depth none r
      | '\\' :: c :: r => (simpleEscape? c).bind fun c => readString depth (add c) r
      | c :: r => if c.toNat < 32 then none else readString depth (add c) r

/-!
# Numbers
-/

def digits (t : Text) : Text × Text :=
  t.span Char.isDigit

/-- Reads a number: no needless leading zeros, and digits around every point and in every exponent. -/
def readNumber (t : Text) : Option (Text × Text) :=
  let (sign, r) := match t with
    | '-' :: r => (['-'], r)
    | _ => ([], t)
  let (whole, r) := digits r
  if whole.isEmpty || (whole.length > 1 && whole.head? == some '0') then none
  else
    let fraction : Option (Text × Text) :=
      match r with
      | '.' :: r => let (ds, r) := digits r; if ds.isEmpty then none else some ('.' :: ds, r)
      | _ => some ([], r)
    fraction.bind fun (fraction, r) =>
      match r with
      | e :: r' =>
          if e = 'e' ∨ e = 'E' then
            let (s, r') := match r' with
              | '+' :: r => (['+'], r)
              | '-' :: r => (['-'], r)
              | _ => ([], r')
            let (ds, r') := digits r'
            if ds.isEmpty then none else some (sign ++ whole ++ fraction ++ e :: s ++ ds, r')
          else some (sign ++ whole ++ fraction, r)
      | [] => some (sign ++ whole ++ fraction, r)

/-!
# Values
-/

/-- What is being read: a value, the values of an array after the first, or the members of an object.
Those read so far come last to first; an object has none any more once it has a broken key. -/
inductive Expect where
  | value
  | values (done : List JsonValue)
  | members (done : Option (List (Text × JsonValue)))

def readAfter (depth : Nat) (e : Expect) (t : Text) : Option (JsonValue × Text) :=
  match depth with
  | 0 => none
  | depth + 1 =>
      let member (done : Option (List (Text × JsonValue))) (r : Text) : Option (JsonValue × Text) :=
        match skipBlanks r with
        | '"' :: r =>
            (readString (r.length + 1) (some []) r).bind fun (k, r) =>
              match skipBlanks r with
              | ':' :: r =>
                  (readAfter depth .value r).bind fun (v, r) =>
                    readAfter depth (.members (k.bind fun k => done.map ((k, v) :: ·))) r
              | _ => none
        | _ => none
      match e, skipBlanks t with
      | .value, 'n' :: 'u' :: 'l' :: 'l' :: r => some (null, r)
      | .value, 't' :: 'r' :: 'u' :: 'e' :: r => some (bool true, r)
      | .value, 'f' :: 'a' :: 'l' :: 's' :: 'e' :: r => some (bool false, r)
      | .value, '"' :: r =>
          (readString (r.length + 1) (some []) r).map fun (s, r) => (s.elim broken string, r)
      | .value, '[' :: r =>
          match skipBlanks r with
          | ']' :: r => some (array [], r)
          | r => (readAfter depth .value r).bind fun (v, r) => readAfter depth (.values [v]) r
      | .value, '\x7b' :: r =>
          match skipBlanks r with
          | '\x7d' :: r => some (object [], r)
          | r => member (some []) r
      | .value, r => (readNumber r).map fun (n, r) => (number n, r)
      | .values done, ']' :: r => some (array done.reverse, r)
      | .values done, ',' :: r =>
          (readAfter depth .value r).bind fun (v, r) => readAfter depth (.values (v :: done)) r
      | .members done, '\x7d' :: r => some (done.elim broken fun ms => object ms.reverse, r)
      | .members done, ',' :: r => member done r
      | _, _ => none

def read? (t : Text) : Option JsonValue :=
  match readAfter (2 * t.length + 2) .value t with
  | some (v, r) => if (skipBlanks r).isEmpty then some v else none
  | none => none

end JsonValue
end WikiEntry
