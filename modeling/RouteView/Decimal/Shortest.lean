import RouteView.Text.Basic
import RouteView.Decimal.Binary64

/-!
# The shortest decimal of a number

Of the decimals that round to a given number the one with the fewest digits, and of several such the
nearest.  For each count of digits the two neighbours of the number on the decimal grid are tested in
exact arithmetic; the first grid that has a hit wins.  What happens to an exact tie is a parameter.
-/
set_option autoImplicit false
namespace RouteView

structure Decimal where
  digits : Nat
  scale : Int
deriving DecidableEq

namespace Decimal

/-- Where an exact tie between two neighbours goes. -/
inductive Tie
  | toEven
  | up
deriving DecidableEq

/-- `num / den · 10 ^ (-s)` as a fraction of natural numbers. -/
def scaled (num den : Nat) (s : Int) : Nat × Nat :=
  if 0 ≤ s then (num, den * Nat.pow 10 s.toNat) else (num * Nat.pow 10 (-s).toNat, den)

/-- The power of ten of the leading digit of `num / den`, starting the search at `guess`. -/
def leading (num den : Nat) (guess : Int) : Nat → Int
  | 0 => guess
  | fuel + 1 =>
      let (n, d) := scaled num den guess
      if n < d then leading num den (guess - 1) fuel
      else if 10 * d ≤ n then leading num den (guess + 1) fuel
      else guess

/-- The interval of fractions that round to `x`, in quarters of its unit in the last place: the half
width below and above the number. -/
def margins (x : Binary64) : Nat × Nat :=
  if x.significand = Nat.pow 2 52 ∧ Binary64.minExponent < x.exponent then (1, 2) else (2, 2)

/-- Whether `c · 10 ^ s` rounds to `x`. -/
def roundsTo (x : Binary64) (s : Int) (c : Nat) : Bool :=
  let (below, above) := margins x
  -- the point and the ends of the interval over one denominator
  let (p, q) := if 0 ≤ s then (c * Nat.pow 10 s.toNat, 1) else (c, Nat.pow 10 (-s).toNat)
  let unit : Nat × Nat :=
    if 0 ≤ x.exponent then (Nat.pow 2 x.exponent.toNat, 4) else (1, 4 * Nat.pow 2 (-x.exponent).toNat)
  let point := p * unit.2
  let low := (4 * x.significand - below) * unit.1 * q
  let high := (4 * x.significand + above) * unit.1 * q
  if x.significand % 2 = 0 then low ≤ point && point ≤ high else low < point && point < high

/-- The decimal of a grid that rounds to `x`, the nearer one when both neighbours do. -/
def onGrid (tie : Tie) (x : Binary64) (s : Int) : Option Nat :=
  let (num, den) := x.fraction
  let (n, d) := scaled num den s
  let low := n / d
  let hitLow := 0 < low && roundsTo x s low
  let hitHigh := roundsTo x s (low + 1)
  let twice := 2 * (n % d)
  if hitLow && hitHigh then
    if twice < d then some low
    else if d < twice then some (low + 1)
    else match tie with
      | .up => some (low + 1)
      | .toEven => some (if low % 2 = 0 then low else low + 1)
  else if hitLow then some low
  else if hitHigh then some (low + 1)
  else none

/-- The first grid with a hit, `s` being its unit, `count` the number of grids left. -/
def search (tie : Tie) (x : Binary64) (s : Int) : Nat → Decimal
  | 0 => ⟨0, s⟩
  | count + 1 =>
      match onGrid tie x s with
      | some digits => ⟨digits, s⟩
      | none => search tie x (s - 1) count

def strip (d : Decimal) : Nat → Decimal
  | 0 => d
  | fuel + 1 =>
      if d.digits ≠ 0 ∧ d.digits % 10 = 0 then strip ⟨d.digits / 10, d.scale + 1⟩ fuel else d

def shortest (tie : Tie) (x : Binary64) : Decimal :=
  let (num, den) := x.fraction
  let guess : Int := ((num.log2 : Int) - (den.log2 : Int)) * 30103 / 100000
  let top := leading num den guess 4
  (search tie x top 18).strip 20

end Decimal
end RouteView
