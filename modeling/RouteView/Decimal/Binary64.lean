/-!
# Binary floating point numbers of 64 bits

A finite number is a sign, a significand of at most 53 bits and an exponent of two.  `round` gives the
number nearest to a fraction, a tie going to the even significand, and nothing when the fraction is
beyond the largest finite number.  `scaleTen` multiplies or divides by a power of ten with one rounding.
-/
set_option autoImplicit false
namespace RouteView

/-- The number `± significand · 2 ^ exponent`. -/
structure Binary64 where
  negative : Bool
  significand : Nat
  exponent : Int
deriving DecidableEq

namespace Binary64

def minExponent : Int := -1074

/-- The greatest exponent of two of a number with 53 significant bits. -/
def maxExponent : Int := 971

def zero (negative : Bool) : Binary64 := ⟨negative, 0, minExponent⟩

def isZero (x : Binary64) : Bool := x.significand == 0

/-- `num / den` rounded to the nearest integer, a tie going to the even one. -/
def roundDiv (num den : Nat) : Nat :=
  let q := num / den
  let twice := 2 * (num % den)
  if twice < den then q else if den < twice then q + 1 else q + q % 2

/-- `num / den · 2 ^ (-e)` as a fraction of natural numbers. -/
def shifted (num den : Nat) (e : Int) : Nat × Nat :=
  if 0 ≤ e then (num, den * Nat.pow 2 e.toNat) else (num * Nat.pow 2 (-e).toNat, den)

/-- The exponent at which `num / den` has 53 bits before the point. -/
def scaleOf (num den : Nat) : Int :=
  let e : Int := (num.log2 : Int) - (den.log2 : Int) - 53
  let (n, d) := shifted num den e
  if d * Nat.pow 2 53 ≤ n then e + 1 else e

/-- The number nearest to `± num / den`; nothing on overflow. -/
def round (negative : Bool) (num den : Nat) : Option Binary64 :=
  if num = 0 then some (zero negative)
  else
    let e := max (scaleOf num den) minExponent
    let (n, d) := shifted num den e
    let m := roundDiv n d
    let x : Binary64 := if m = Nat.pow 2 53 then ⟨negative, Nat.pow 2 52, e + 1⟩ else ⟨negative, m, e⟩
    if x.exponent ≤ maxExponent then some x else none

def fraction (x : Binary64) : Nat × Nat :=
  if 0 ≤ x.exponent then (x.significand * Nat.pow 2 x.exponent.toNat, 1)
  else (x.significand, Nat.pow 2 (-x.exponent).toNat)

def ofNat? (negative : Bool) (n : Nat) : Option Binary64 := round negative n 1

/-- The product of `x` and `10 ^ k`, or the quotient when `divide` holds, the power itself being rounded
first. -/
def scaleTen (divide : Bool) (k : Nat) (x : Binary64) : Option Binary64 := do
  let power ← ofNat? false (Nat.pow 10 k)
  let (n, d) := x.fraction
  let (p, q) := power.fraction
  if divide then round x.negative (n * q) (d * p) else round x.negative (n * p) (d * q)

/-- The number nearest to `± digits · 10 ^ e`, rounded once. -/
def ofDecimal (negative : Bool) (digits : Nat) (e : Int) : Option Binary64 :=
  let size : Int := (Nat.toDigits 10 digits).length + e
  if digits = 0 ∨ size < -330 then some (zero negative)
  else if 310 < size then none
  else if 0 ≤ e then round negative (digits * Nat.pow 10 e.toNat) 1
  else round negative digits (Nat.pow 10 (-e).toNat)

end Binary64
end RouteView
