import RouteView.Text.Basic
import RouteView.Value.Basic

/-!
# Reading numbers

A number without a point or an exponent is whole when it fits in 64 bits.  Any other is a floating
number: the leading digits that fit in 64 bits without a sign are kept, the rest only counted, and the
result is that integer scaled by a power of ten in steps of at most 308.
-/
set_option autoImplicit false
namespace RouteView.Value

def isDigit (c : Char) : Bool := '0' ≤ c && c ≤ '9'

def digitValue (c : Char) : Nat := c.toNat - '0'.toNat

def digitsValue (digits : Text) : Nat := digits.foldl (fun n c => 10 * n + digitValue c) 0

/-- The number below `bound` that digits, with or without a plus sign, denote. -/
def unsigned? (bound : Nat) (source : Text) : Option Nat :=
  let digits := match source with
    | '+' :: rest => rest
    | other => other
  if digits = [] ∨ !digits.all isDigit then none
  else
    let n := digitsValue digits
    if n < bound then some n else none

/-- The sign, the digits before and after the point, and the exponent with its sign. -/
structure Numeral where
  negative : Bool
  whole : Text
  fraction : Option Text
  exponent : Option (Bool × Text)

/-- Digits appended to `n` as long as the result is below `2 ^ 64`, and the digits left over. -/
def appendDigits (n : Nat) : Text → Nat × Text
  | [] => (n, [])
  | c :: rest =>
      let next := 10 * n + digitValue c
      if next < Nat.pow 2 64 then appendDigits next rest else (n, c :: rest)

/-- `x · 10 ^ e` in steps of at most 308; nothing when it is too large. -/
def scale (x : Binary64) (e : Int) : Nat → Option Binary64
  | 0 => some x
  | steps + 1 =>
      if e.natAbs ≤ 308 then x.scaleTen (e < 0) e.natAbs
      else if x.isZero then some x
      else if 0 ≤ e then none
      else do scale (← x.scaleTen true 308) (e + 308) steps

/-- The exponent of a numeral; nothing when it exceeds 31 bits. -/
def exponentOf : Option (Bool × Text) → Option Int
  | none => some 0
  | some (negative, digits) =>
      let n := digitsValue digits
      if n < Nat.pow 2 31 then some (if negative then -(n : Int) else n) else none

def floatOf (negative : Bool) (significand : Nat) (e : Int) : Option Value := do
  let x ← Binary64.ofNat? negative significand
  return .float (← scale x e 8)

/-- The number that a numeral denotes; nothing when it is out of range. -/
def Numeral.value (n : Numeral) : Option Value :=
  let (whole, dropped) := appendDigits 0 n.whole
  match n.fraction, n.exponent with
  | none, none =>
      if dropped.length ≠ 0 then floatOf n.negative whole dropped.length
      else if !n.negative then some (.int whole)
      else if 0 < whole ∧ whole ≤ Nat.pow 2 63 then some (.int (-(whole : Int)))
      else floatOf true whole 0
  | fraction, exponent =>
      let digits := fraction.getD []
      let (significand, unused) := appendDigits whole digits
      let start : Int := (dropped.length : Int) - ((digits.length - unused.length : Nat) : Int)
      match exponentOf exponent with
      | some e => floatOf n.negative significand (start + e)
      | none =>
          if significand ≠ 0 ∧ exponent.map Prod.fst = some false then none
          else some (.float (Binary64.zero n.negative))

def spanDigits (text : Text) : Text × Text := (text.takeWhile isDigit, text.dropWhile isDigit)

/-- The exponent at the start of a text, if the text goes on with an exponent mark. -/
def readExponent : Text → Option (Option (Bool × Text) × Text)
  | c :: rest =>
      if c = 'e' ∨ c = 'E' then
        let (negative, rest) : Bool × Text := match rest with
          | '+' :: more => (false, more)
          | '-' :: more => (true, more)
          | more => (false, more)
        let (digits, rest) := spanDigits rest
        if digits = [] then none else some (some (negative, digits), rest)
      else some (none, c :: rest)
  | [] => some (none, [])

/-- The numeral at the start of a text.  A whole part has no leading zero, and digits follow a point and
an exponent mark. -/
def readNumeral (text : Text) : Option (Numeral × Text) := do
  let (negative, text) : Bool × Text := match text with
    | '-' :: rest => (true, rest)
    | rest => (false, rest)
  let (whole, rest) := spanDigits text
  if whole = [] ∨ (whole.head? = some '0' ∧ whole.length ≠ 1) then none
  else match rest with
    | '.' :: rest =>
        let (fraction, rest) := spanDigits rest
        if fraction = [] then none
        else
          let (exponent, rest) ← readExponent rest
          some (⟨negative, whole, some fraction, exponent⟩, rest)
    | rest =>
        let (exponent, rest) ← readExponent rest
        some (⟨negative, whole, none, exponent⟩, rest)

end RouteView.Value
