import RouteView.Toml.Item

/-!
# Reading TOML

`Toml.read?` reads a whole document as one value.  Arrays and inline tables may nest up to a limit,
which also bounds the parts of a dotted key.
-/
set_option autoImplicit false
namespace RouteView.Toml

/-- How many arrays and inline tables may be open at once. -/
def nestingLimit : Nat := 79

/-- Letters, digits, underscore and hyphen. -/
def isBare (c : Char) : Bool :=
  ('a' ≤ c && c ≤ 'z') || ('A' ≤ c && c ≤ 'Z') || ('0' ≤ c && c ≤ '9') || c = '_' || c = '-'

def readPart : Text → Option (Text × Text)
  | '"' :: rest => readBasic [] rest.length rest
  | '\'' :: rest => readLiteral rest
  | input =>
      let bare := input.takeWhile isBare
      if bare = [] then none else some (bare, input.drop bare.length)

/-- The parts of a key, with spaces around them. -/
def readParts : Nat → Text → Option (List Text × Text)
  | 0, _ => none
  | fuel + 1, input => do
      let (part, rest) ← readPart (skipSpace input)
      match skipSpace rest with
      | '.' :: rest =>
          let (parts, rest) ← readParts fuel rest
          some (part :: parts, rest)
      | rest => some ([part], rest)

def readKey (input : Text) : Option (List Text × Text) := do
  let (parts, rest) ← readParts (input.length + 1) input
  if parts.length ≤ nestingLimit then some (parts, rest) else none

/-- The text after white space, comments and line ends. -/
def skipFiller : Nat → Text → Option Text
  | 0, input => some input
  | fuel + 1, input =>
      match skipSpace input with
      | '#' :: rest => do skipFiller fuel (← readNewline (skipComment ('#' :: rest)))
      | '\n' :: rest => skipFiller fuel rest
      | '\r' :: rest => do skipFiller fuel (← readNewline ('\r' :: rest))
      | rest => some rest

def filler (input : Text) : Option Text := skipFiller (input.length + 1) input

mutual

/-- One value; `depth` containers may still be opened. -/
def readValue (depth : Nat) : Nat → Text → Option (Item × Text)
  | 0, _ => none
  | fuel + 1, input =>
      match input with
      | '[' :: rest =>
          match depth with
          | 0 => none
          | depth + 1 => (readItems depth fuel rest).map fun (items, rest) => (.array items, rest)
      | '\x7b' :: rest =>
          match depth with
          | 0 => none
          | depth + 1 =>
              match skipSpace rest with
              | '\x7d' :: rest => some (.inline [], rest)
              | _ => (readEntries depth fuel Item.newTable rest).map fun (item, rest) =>
                  (item.close, rest)
      | 't' :: rest => (Value.dropWord "rue" rest).map fun rest => (.scalar (.bool true), rest)
      | 'f' :: rest => (Value.dropWord "alse" rest).map fun rest => (.scalar (.bool false), rest)
      | '"' :: _ | '\'' :: _ => (readText input).map fun (t, rest) => (.scalar (.text t), rest)
      | _ =>
          if startsDate input || startsTime input then
            (readMoment input).map fun (normal, rest) => (.moment normal, rest)
          else (readNumber input).map fun (n, rest) => (.scalar n, rest)

/-- The items of an array up to its closing bracket. -/
def readItems (depth : Nat) : Nat → Text → Option (List Item × Text)
  | 0, _ => none
  | fuel + 1, input => do
      match ← filler input with
      | ']' :: rest => some ([], rest)
      | rest =>
          let (item, rest) ← readValue depth fuel rest
          match ← filler rest with
          | ',' :: rest =>
              let (items, rest) ← readItems depth fuel rest
              some (item :: items, rest)
          | ']' :: rest => some ([item], rest)
          | _ => none

/-- The entries of an inline table up to its closing brace, added to those before them. -/
def readEntries (depth : Nat) : Nat → Item → Text → Option (Item × Text)
  | 0, _, _ => none
  | fuel + 1, item, input => do
      let (key, rest) ← readKey input
      match rest with
      | '=' :: rest =>
          let (v, rest) ← readValue depth fuel (skipSpace rest)
          let item ← item.assign [] key v
          match skipSpace rest with
          | ',' :: rest => readEntries depth fuel item rest
          | '\x7d' :: rest => some (item, rest)
          | _ => none
      | _ => none

end

/-- The lines of a document; `current` is the path of the table that the last header opened. -/
def readDocument : Nat → List Text → Item → Text → Option Item
  | 0, _, _, _ => none
  | fuel + 1, current, root, input =>
      match skipSpace input with
      | [] => some root
      | '#' :: rest => do readDocument fuel current root (← endLine ('#' :: rest))
      | '\n' :: rest => readDocument fuel current root rest
      | '\r' :: rest => do readDocument fuel current root (← readNewline ('\r' :: rest))
      | '[' :: '[' :: rest => do
          let (path, rest) ← readKey rest
          match rest with
          | ']' :: ']' :: rest =>
              readDocument fuel path (← root.openHeader true path) (← endLine rest)
          | _ => none
      | '[' :: rest => do
          let (path, rest) ← readKey rest
          match rest with
          | ']' :: rest => readDocument fuel path (← root.openHeader false path) (← endLine rest)
          | _ => none
      | rest => do
          let (path, rest) ← readKey rest
          match rest with
          | '=' :: rest =>
              let rest := skipSpace rest
              let (v, rest) ← readValue nestingLimit (rest.length + 1) rest
              readDocument fuel current (← root.assign current path v) (← endLine rest)
          | _ => none

def dropMark : Text → Text
  | '\ufeff' :: rest => rest
  | input => input

/-- The value that a document denotes: an object, or a text if the document is a tagged date or time. -/
def read? (input : Text) : Option Value := do
  let source := dropMark input
  let root ← readDocument (source.length + 1) [] Item.newTable source
  root.toValue?

end RouteView.Toml
