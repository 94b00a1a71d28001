import RouteView.Value.Number

/-!
# Reading JSON

`Value.ofJson?` reads a whole text as one value.  Containers may nest up to a given depth; of equal names
in an object the last one counts; a string holds no control character and no half of a surrogate pair.
-/
set_option autoImplicit false
namespace RouteView.Value

/-- The text without leading blanks, which are space, tab, line feed and carriage return. -/
def skipBlanks (input : Text) : Text := input.dropWhile fun c => c = ' ' || c = '\n' || c = '\t' || c = '\r'

def hexValue (c : Char) : Option Nat :=
  if '0' ≤ c ∧ c ≤ '9' then some (c.toNat - '0'.toNat)
  else if 'a' ≤ c ∧ c ≤ 'f' then some (c.toNat - 'a'.toNat + 10)
  else if 'A' ≤ c ∧ c ≤ 'F' then some (c.toNat - 'A'.toNat + 10)
  else none

def readHex : Text → Option (Nat × Text)
  | a :: b :: c :: d :: rest => do
      some (((← hexValue a) * 16 + (← hexValue b)) * 256 + (← hexValue c) * 16 + (← hexValue d), rest)
  | _ => none

/-- The character that follows a `\u`: one unit, or two that form a surrogate pair. -/
def readUnits (input : Text) : Option (Char × Text) := do
  let (unit, rest) ← readHex input
  if 0xD800 ≤ unit ∧ unit < 0xDC00 then
    match rest with
    | '\\' :: 'u' :: rest =>
        let (low, rest) ← readHex rest
        if 0xDC00 ≤ low ∧ low < 0xE000 then
          some (Char.ofNat (0x10000 + (unit - 0xD800) * 0x400 + (low - 0xDC00)), rest)
        else none
    | _ => none
  else if 0xDC00 ≤ unit ∧ unit < 0xE000 then none
  else some (Char.ofNat unit, rest)

def readEscape : Text → Option (Char × Text)
  | '"' :: rest => some ('"', rest)
  | '\\' :: rest => some ('\\', rest)
  | '/' :: rest => some ('/', rest)
  | 'b' :: rest => some ('\x08', rest)
  | 'f' :: rest => some ('\x0c', rest)
  | 'n' :: rest => some ('\n', rest)
  | 'r' :: rest => some ('\r', rest)
  | 't' :: rest => some ('\t', rest)
  | 'u' :: rest => readUnits rest
  | _ => none

/-- A string after its opening quote; `seen` holds its characters so far, the last one first. -/
def readString (seen : Text) : Nat → Text → Option (Text × Text)
  | _, '"' :: rest => some (seen.reverse, rest)
  | fuel + 1, '\\' :: rest => do
      let (c, rest) ← readEscape rest
      readString (c :: seen) fuel rest
  | fuel + 1, c :: rest => if c.toNat < 0x20 then none else readString (c :: seen) fuel rest
  | _, _ => none

def dropWord (word input : Text) : Option Text :=
  if word.isPrefixOf input then some (input.drop word.length) else none

mutual

/-- One value; `depth` containers may still be opened. -/
def readValue (depth : Nat) : Nat → Text → Option (Value × Text)
  | 0, _ => none
  | fuel + 1, input =>
      match skipBlanks input with
      | [] => none
      | '"' :: rest => (readString [] rest.length rest).map fun (t, rest) => (.text t, rest)
      | '[' :: rest =>
          match depth with
          | 0 => none
          | depth + 1 =>
              match skipBlanks rest with
              | ']' :: rest => some (.array [], rest)
              | _ => (readItems depth fuel rest).map fun (items, rest) => (.array items, rest)
      | '\x7b' :: rest =>
          match depth with
          | 0 => none
          | depth + 1 =>
              match skipBlanks rest with
              | '\x7d' :: rest => some (.object [], rest)
              | _ => (readFields depth fuel rest).map fun (fields, rest) =>
                  (.object (Dictionary.ofList fields), rest)
      | 't' :: rest => (dropWord "rue" rest).map fun rest => (.bool true, rest)
      | 'f' :: rest => (dropWord "alse" rest).map fun rest => (.bool false, rest)
      | 'n' :: rest => (dropWord "ull" rest).map fun rest => (.null, rest)
      | input => do
          let (numeral, rest) ← readNumeral input
          some (← numeral.value, rest)

def readItems (depth : Nat) : Nat → Text → Option (List Value × Text)
  | 0, _ => none
  | fuel + 1, input => do
      let (item, rest) ← readValue depth fuel input
      match skipBlanks rest with
      | ',' :: rest =>
          let (items, rest) ← readItems depth fuel rest
          some (item :: items, rest)
      | ']' :: rest => some ([item], rest)
      | _ => none

/-- The entries of an object up to its closing brace. -/
def readFields (depth : Nat) : Nat → Text → Option (List (Text × Value) × Text)
  | 0, _ => none
  | fuel + 1, input =>
      match skipBlanks input with
      | '"' :: rest => do
          let (name, rest) ← readString [] rest.length rest
          match skipBlanks rest with
          | ':' :: rest =>
              let (value, rest) ← readValue depth fuel rest
              match skipBlanks rest with
              | ',' :: rest =>
                  let (fields, rest) ← readFields depth fuel rest
                  some ((name, value) :: fields, rest)
              | '\x7d' :: rest => some ([(name, value)], rest)
              | _ => none
          | _ => none
      | _ => none

end

/-- The value that a whole text denotes, with at most `depth` containers around any part of it. -/
def ofJson? (depth : Nat) (input : Text) : Option Value := do
  let (value, rest) ← readValue depth (input.length + 1) input
  if skipBlanks rest = [] then some value else none

end RouteView.Value
