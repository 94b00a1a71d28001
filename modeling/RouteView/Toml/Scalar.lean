import RouteView.Value.Reader

/-!
# Scalars of TOML

Readers for the strings, numbers, dates and times of TOML 1.0.  Each takes the text from the place where
the scalar begins and gives its value and the text behind it.  Dates and times become texts in one
normal form.
-/
set_option autoImplicit false
namespace RouteView.Toml

/-- Characters that may stand in comments and on one line of a string: tab, and everything that is not
an ASCII control character. -/
def isPlain (c : Char) : Bool := c = '\t' || (0x20 ≤ c.toNat && c.toNat ≠ 0x7F)

def skipSpace (input : Text) : Text := input.dropWhile fun c => c = ' ' || c = '\t'

def readNewline : Text → Option Text
  | '\n' :: rest => some rest
  | '\r' :: '\n' :: rest => some rest
  | _ => none

def skipComment : Text → Text
  | '#' :: rest => rest.dropWhile isPlain
  | input => input

/-- The text after the rest of a line that holds at most a comment. -/
def endLine (input : Text) : Option Text :=
  match skipComment (skipSpace input) with
  | [] => some []
  | rest => readNewline rest

/-! ## Strings -/

/-- The scalar value of some hexadecimal digits. -/
def hexChar (digits : Text) : Option Char := do
  let n := (← digits.mapM Value.hexValue).foldl (fun n d => 16 * n + d) 0
  if n < 0xD800 ∨ (0xDFFF < n ∧ n < 0x110000) then some (Char.ofNat n) else none

def readCodePoint (count : Nat) (input : Text) : Option (Char × Text) :=
  if input.length < count then none
  else (hexChar (input.take count)).map fun c => (c, input.drop count)

def readEscape : Text → Option (Char × Text)
  | 'b' :: rest => some ('\x08', rest)
  | 't' :: rest => some ('\t', rest)
  | 'n' :: rest => some ('\n', rest)
  | 'f' :: rest => some ('\x0c', rest)
  | 'r' :: rest => some ('\r', rest)
  | '"' :: rest => some ('"', rest)
  | '\\' :: rest => some ('\\', rest)
  | 'u' :: rest => readCodePoint 4 rest
  | 'U' :: rest => readCodePoint 8 rest
  | _ => none

/-- A string of one line after its opening quote; `seen` holds its characters, the last one first. -/
def readBasic (seen : Text) : Nat → Text → Option (Text × Text)
  | _, '"' :: rest => some (seen.reverse, rest)
  | fuel + 1, '\\' :: rest => do
      let (c, rest) ← readEscape rest
      readBasic (c :: seen) fuel rest
  | fuel + 1, c :: rest => if isPlain c then readBasic (c :: seen) fuel rest else none
  | _, _ => none

def readLiteral (input : Text) : Option (Text × Text) :=
  let body := input.takeWhile fun c => isPlain c && c ≠ '\''
  match input.drop body.length with
  | '\'' :: rest => some (body, rest)
  | _ => none

/-- The text after white space that may span lines. -/
def skipLines : Nat → Text → Text
  | fuel + 1, ' ' :: rest => skipLines fuel rest
  | fuel + 1, '\t' :: rest => skipLines fuel rest
  | fuel + 1, '\n' :: rest => skipLines fuel rest
  | fuel + 1, '\r' :: '\n' :: rest => skipLines fuel rest
  | _, input => input

/-- What a run of quotes means inside a string of several lines: fewer than three are content; three end
it, and up to two more in front of those are content. -/
def quoteRun (mark : Char) (input : Text) : Nat := (input.takeWhile (· = mark)).length

/-- A string of several lines after its opening quotes. -/
def readLines (mark : Char) (escapes : Bool) (seen : Text) : Nat → Text → Option (Text × Text)
  | 0, _ => none
  | _, [] => none
  | fuel + 1, c :: rest =>
      if c = mark then
        let run := quoteRun mark (c :: rest)
        if 5 < run then none
        else if 3 ≤ run then
          some (seen.reverse ++ List.replicate (run - 3) mark, rest.drop (run - 1))
        else readLines mark escapes (mark :: seen) fuel rest
      else if c = '\\' ∧ escapes then
        match readNewline (skipSpace rest) with
        | some after => readLines mark escapes seen fuel (skipLines after.length after)
        | none => do
            let (c, rest) ← readEscape rest
            readLines mark escapes (c :: seen) fuel rest
      else match readNewline (c :: rest) with
        | some after => readLines mark escapes ('\n' :: seen) fuel after
        | none => if isPlain c then readLines mark escapes (c :: seen) fuel rest else none

def dropNewline (input : Text) : Text := (readNewline input).getD input

def readText : Text → Option (Text × Text)
  | '"' :: '"' :: '"' :: rest => readLines '"' true [] (rest.length + 1) (dropNewline rest)
  | '"' :: rest => readBasic [] rest.length rest
  | '\'' :: '\'' :: '\'' :: rest => readLines '\'' false [] (rest.length + 1) (dropNewline rest)
  | '\'' :: rest => readLiteral rest
  | _ => none

/-! ## Numbers -/

/-- Digits of one kind with single underscores between them, the underscores left out. -/
def readDigits (allowed : Char → Bool) : Text → Option (Text × Text)
  | [] => none
  | [c] => if allowed c then some ([c], []) else none
  | c :: '_' :: rest =>
      if allowed c then (readDigits allowed rest).map fun (digits, after) => (c :: digits, after)
      else none
  | c :: d :: rest =>
      if !allowed c then none
      else if allowed d then
        (readDigits allowed (d :: rest)).map fun (digits, after) => (c :: digits, after)
      else some ([c], d :: rest)

/-- The whole part of a number: a single zero, or digits that begin with another one. -/
def readWhole : Text → Option (Text × Text)
  | '0' :: rest => some (['0'], rest)
  | input => readDigits Value.isDigit input

/-- The value of an integer; nothing beyond 64 bits with a sign. -/
def integer (n : Int) : Option Value :=
  if -0x8000000000000000 ≤ n ∧ n < 0x8000000000000000 then some (.int n) else none

def readBased (base : Nat) (allowed : Char → Bool) (input : Text) : Option (Value × Text) := do
  let (digits, rest) ← readDigits allowed input
  let n := (← digits.mapM Value.hexValue).foldl (fun n d => base * n + d) 0
  some (← integer n, rest)

def readExponent (input : Text) : Option (Int × Text) := do
  let (negative, input) : Bool × Text := match input with
    | '+' :: rest => (false, rest)
    | '-' :: rest => (true, rest)
    | rest => (false, rest)
  let (digits, rest) ← readDigits Value.isDigit input
  let n : Int := Value.digitsValue digits
  some (if negative then -n else n, rest)

/-- The floating number `± digits · 10 ^ e`, rounded once.  Beyond the range a negative one is null and a
positive one is refused. -/
def float (negative : Bool) (digits : Text) (e : Int) : Option Value :=
  match Binary64.ofDecimal negative (Value.digitsValue digits) e with
  | some x => some (.float x)
  | none => if negative then some .null else none

/-- A number after its sign. -/
def readUnsigned (negative : Bool) (input : Text) : Option (Value × Text) := do
  let (whole, rest) ← readWhole input
  match rest with
  | '.' :: rest =>
      let (fraction, rest) ← readDigits Value.isDigit rest
      let (e, rest) ← match rest with
        | 'e' :: more | 'E' :: more => readExponent more
        | _ => some (0, rest)
      some (← float negative (whole ++ fraction) (e - fraction.length), rest)
  | 'e' :: more | 'E' :: more =>
      let (e, rest) ← readExponent more
      some (← float negative whole e, rest)
  | _ =>
      let n : Int := Value.digitsValue whole
      some (← integer (if negative then -n else n), rest)

/-- A number: of another base, not finite, or decimal.  Numbers that are not finite are null. -/
def readNumber : Text → Option (Value × Text)
  | '0' :: 'x' :: rest => readBased 16 (fun c => (Value.hexValue c).isSome) rest
  | '0' :: 'o' :: rest => readBased 8 (fun c => '0' ≤ c && c ≤ '7') rest
  | '0' :: 'b' :: rest => readBased 2 (fun c => c = '0' || c = '1') rest
  | input =>
      let (negative, body) : Bool × Text := match input with
        | '+' :: rest => (false, rest)
        | '-' :: rest => (true, rest)
        | rest => (false, rest)
      match Value.dropWord "inf" body <|> Value.dropWord "nan" body with
      | some rest => some (.null, rest)
      | none => readUnsigned negative body

/-! ## Dates and times -/

/-- Exactly `count` digits whose number lies in a range, and that number. -/
def readField (count low high : Nat) (input : Text) : Option (Nat × Text) :=
  let digits := input.take count
  let n := Value.digitsValue digits
  if digits.length = count ∧ digits.all Value.isDigit ∧ low ≤ n ∧ n ≤ high then
    some (n, input.drop count)
  else none

/-- A number with leading zeros up to a width. -/
def padded (width n : Nat) : Text :=
  let digits := Text.ofNat n
  List.replicate (width - digits.length) '0' ++ digits

def readMark (mark : Char) : Text → Option Text
  | c :: rest => if c = mark then some rest else none
  | [] => none

def daysIn (year month : Nat) : Nat :=
  if month = 2 then
    (if year % 4 = 0 ∧ (year % 100 ≠ 0 ∨ year % 400 = 0) then 29 else 28)
  else if month ∈ [4, 6, 9, 11] then 30 else 31

def readDate (input : Text) : Option (Text × Text) := do
  let (year, rest) ← readField 4 0 9999 input
  let (month, rest) ← readField 2 1 12 (← readMark '-' rest)
  let (day, rest) ← readField 2 1 (daysIn year month) (← readMark '-' rest)
  some (padded 4 year ++ '-' :: padded 2 month ++ '-' :: padded 2 day, rest)

/-- The fraction of a second, cut after nine digits and without trailing zeros. -/
def fractionText (digits : Text) : Text :=
  match (((digits.take 9).reverse.dropWhile (· = '0')).reverse) with
  | [] => []
  | shown => '.' :: shown

def readTime (input : Text) : Option (Text × Text) := do
  let (hour, rest) ← readField 2 0 23 input
  let (minute, rest) ← readField 2 0 59 (← readMark ':' rest)
  let (second, rest) ← readField 2 0 60 (← readMark ':' rest)
  let shown := padded 2 hour ++ ':' :: padded 2 minute ++ ':' :: padded 2 second
  match rest with
  | '.' :: rest =>
      let (digits, rest) := Value.spanDigits rest
      if digits = [] then none else some (shown ++ fractionText digits, rest)
  | _ => some (shown, rest)

/-- An offset from universal time; nothing is read when there is none. -/
def readOffset : Text → Option (Text × Text)
  | 'Z' :: rest | 'z' :: rest => some (['Z'], rest)
  | c :: rest =>
      if c = '+' ∨ c = '-' then do
        let (hour, rest) ← readField 2 0 23 rest
        let (minute, rest) ← readField 2 0 59 (← readMark ':' rest)
        let sign := if hour = 0 ∧ minute = 0 then '+' else c
        some (sign :: padded 2 hour ++ ':' :: padded 2 minute, rest)
      else some ([], c :: rest)
  | [] => some ([], [])

/-- Whether a time begins here: two digits up to 23 and a colon. -/
def startsTime (input : Text) : Bool :=
  match readField 2 0 23 input with
  | some (_, ':' :: _) => true
  | _ => false

/-- Whether a date begins here: four digits and a hyphen. -/
def startsDate (input : Text) : Bool :=
  match readField 4 0 9999 input with
  | some (_, '-' :: _) => true
  | _ => false

/-- A date, a time, or a date with a time and perhaps an offset. -/
def readMoment (input : Text) : Option (Text × Text) :=
  if startsDate input then do
    let (date, rest) ← readDate input
    match rest with
    | mark :: after =>
        if (mark = 'T' ∨ mark = 't' ∨ mark = ' ') ∧ startsTime after then do
          let (time, rest) ← readTime after
          let (offset, rest) ← readOffset rest
          some (date ++ 'T' :: time ++ offset, rest)
        else some (date, rest)
    | [] => some (date, [])
  else readTime input

end RouteView.Toml
