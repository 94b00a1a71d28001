import RouteView.Decimal.Shortest

/-!
# The text of a number

A format says which exponents are written without an exponent mark, whether an integral number keeps a
point, and where ties of the shortest decimal go.
-/
set_option autoImplicit false
namespace RouteView.Decimal

structure Format where
  tie : Tie
  /-- The least and the greatest exponent of the leading digit in plain notation; every exponent when
  absent. -/
  plain : Option (Int × Int)
  /-- Whether an integral number in plain notation ends with a point and a zero. -/
  point : Bool

def Format.isPlain (f : Format) (e : Int) : Bool :=
  match f.plain with
  | none => true
  | some (low, high) => low ≤ e && e ≤ high

def zeros (n : Nat) : Text := List.replicate n '0'

/-- Plain notation of a decimal whose leading digit has the exponent `e`. -/
def plainText (point : Bool) (digits : Text) (scale e : Int) : Text :=
  if 0 ≤ scale then digits ++ zeros scale.toNat ++ (if point then ".0" else "")
  else if 0 ≤ e then digits.take (e.toNat + 1) ++ '.' :: digits.drop (e.toNat + 1)
  else "0." ++ zeros (-e - 1).toNat ++ digits

/-- Notation with one digit before the point and an exponent that always has a sign. -/
def markedText (digits : Text) (e : Int) : Text :=
  let mantissa := match digits with
    | [] => []
    | [d] => [d]
    | d :: more => d :: '.' :: more
  mantissa ++ 'e' :: (if 0 ≤ e then '+' else '-') :: Text.ofNat e.natAbs

def Format.text (f : Format) (x : Binary64) : Text :=
  let body : Text :=
    if x.isZero then (if f.point then "0.0" else "0")
    else
      let d := shortest f.tie x
      let digits := Text.ofNat d.digits
      let e := d.scale + digits.length - 1
      if f.isPlain e then plainText f.point digits d.scale e else markedText digits e
  if x.negative then '-' :: body else body

end RouteView.Decimal
