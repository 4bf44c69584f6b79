import ApiDiscovery.Binary64.Basic

/-!
# Shortest decimals

The decimal with the fewest digits that rounds to a given magnitude, and among
those the nearest.  The numbers that round to a magnitude form an interval
between two midpoints, its ends included when the magnitude is even.  For
one digit, two digits and so on the two neighbours of the number on that
decimal grid are tested; the first grid with a hit wins, of two hits the
nearer one, of two equally near ones the even one.
-/

namespace ApiDiscovery.Binary64

/-- A decimal number `significand * 10 ^ exponent`. -/
structure Decimal where
  significand : Nat
  exponent : Int
deriving DecidableEq, Repr

def leadingExponent (magnitude : Nat) : Int :=
  (Nat.toDigits 10 (scaled magnitude * Nat.pow 10 400 / Nat.pow 2 1074)).length - 401

/--
The best point of the grid of multiples of `10 ^ exponent` among those that
round to the magnitude.  All comparisons are in units of 2^-1075, multiplied
out of the power of ten.
-/
def gridPoint? (magnitude : Nat) (exponent : Int) : Option Nat :=
  let step := Nat.pow 2 1075 * Nat.pow 10 exponent.toNat
  let factor := Nat.pow 10 (-exponent).toNat
  let centre := 2 * scaled magnitude * factor
  let lower := (scaled (magnitude - 1) + scaled magnitude) * factor
  let upper := (scaled magnitude + scaled (magnitude + 1)) * factor
  let within (point : Nat) : Bool :=
    if magnitude % 2 = 0 then lower ≤ point * step && point * step ≤ upper
    else lower < point * step && point * step < upper
  let below := centre / step
  let twice := 2 * (centre % step)
  let belowIsNearer := twice < step || (twice == step && below % 2 == 0)
  match within below, within (below + 1) with
  | true, true => some (if belowIsNearer then below else below + 1)
  | true, false => some below
  | false, true => some (below + 1)
  | false, false => none

/-- The shortest decimal of a positive magnitude; seventeen digits always suffice. -/
def shortest (magnitude : Nat) : Decimal :=
  let leading := leadingExponent magnitude
  let found := (List.range 17).findSome? fun (fewer : Nat) =>
    (gridPoint? magnitude (leading - fewer)).map fun point => (⟨point, leading - fewer⟩ : Decimal)
  found.getD ⟨0, 0⟩

/-- The digits of a decimal from the first to the last that is not zero. -/
def Decimal.digits (decimal : Decimal) : List Char :=
  ((Nat.toDigits 10 decimal.significand).reverse.dropWhile (· == '0')).reverse

def Decimal.leading (decimal : Decimal) : Int :=
  (Nat.toDigits 10 decimal.significand).length - 1 + decimal.exponent

end ApiDiscovery.Binary64
