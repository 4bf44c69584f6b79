/-!
# Binary floating point

Numbers with a sign, 53 significant bits and exponents from -1074 to 971.
The magnitude is kept as the natural number that its 63 bits spell: the upper
eleven bits are the biased exponent and the lower 52 the fraction, so equal
numbers are equal terms and larger magnitudes are larger numbers.  Every
operation rounds the exact result once, to the nearest magnitude, a tie going
to the even one.
-/

namespace ApiDiscovery

/-- A finite number: its sign and the 63 bits of its magnitude. -/
structure Binary64 where
  negative : Bool
  magnitude : Nat
deriving DecidableEq, Repr, Inhabited

namespace Binary64

/-- The bits of the first magnitude past the finite ones. -/
def overflow : Nat := 2047 * Nat.pow 2 52

/-- The size of a magnitude in units of 2^-1074, the least positive one. -/
def scaled (magnitude : Nat) : Nat :=
  let doubling := Nat.pow 2 52
  if magnitude < doubling then magnitude
  else (doubling + magnitude % doubling) * Nat.pow 2 (magnitude / doubling - 1)

/-- A quotient rounded to the nearest natural number, a tie going to the even one. -/
def roundedQuotient (numerator denominator : Nat) : Nat :=
  let quotient := numerator / denominator
  let twice := 2 * (numerator % denominator)
  if twice < denominator then quotient
  else if denominator < twice then quotient + 1
  else quotient + quotient % 2

/--
The magnitude nearest to a quotient in units of 2^-1074.  The quotient is cut
to 53 bits; since a magnitude counts 2^52 steps for each doubling, a carry out
of the 53 bits lands on the next exponent by itself.
-/
def nearest (numerator denominator : Nat) : Nat :=
  let shift := Nat.log2 (numerator / denominator) - 52
  shift * Nat.pow 2 52 + roundedQuotient numerator (denominator * Nat.pow 2 shift)

def ofNat (n : Nat) : Nat := nearest (n * Nat.pow 2 1074) 1

def powerOfTen (exponent : Nat) : Nat := ofNat (Nat.pow 10 exponent)

def times (x y : Nat) : Nat := nearest (scaled x * scaled y) (Nat.pow 2 1074)

def dividedBy (x y : Nat) : Nat := nearest (scaled x * Nat.pow 2 1074) (scaled y)

/--
The magnitude of `significand * 10 ^ exponent`, computed by one rounded
product, or by quotients by powers of at most 10^308; `none` when it is too
large.  A significand below 2^64 divided twice by 10^308 is already zero, so no
third division is needed.
-/
def ofDecimal (significand : Nat) (exponent : Int) : Option Nat :=
  let start := ofNat significand
  match exponent with
  | .ofNat n =>
      if n ≤ 308 then
        let product := times start (powerOfTen n)
        if product < overflow then some product else none
      else if significand = 0 then some 0
      else none
  | .negSucc n =>
      if n < 308 then some (dividedBy start (powerOfTen (n + 1)))
      else if n < 616 then
        some (dividedBy (dividedBy start (powerOfTen 308)) (powerOfTen (n - 307)))
      else some 0

end Binary64

end ApiDiscovery
