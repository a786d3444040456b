/-! Binary floating-point numbers of 64 bits, as exact values. A decimal is read by rounding its
exact value once, and a number is written with the fewest digits that read back. -/
namespace ConfigGate.Decimal

/-- A binary floating-point number of 64 bits. The finite number is `mantissa * 2 ^ exponent` with
its sign; the mantissa has at most 53 bits, and has fewer only at the least exponent. -/
inductive Binary64 where
  | nan
  | infinite (negative : Bool)
  | finite (negative : Bool) (mantissa : Nat) (exponent : Int)
deriving DecidableEq, Repr

/-- The quotient rounded to the nearest integer, where a half goes to the even neighbour. -/
def roundHalfEven (num den : Nat) : Nat :=
  let quotient := num / den
  let twice := 2 * (num % den)
  if twice < den then quotient
  else if den < twice then quotient + 1
  else quotient + quotient % 2

/-- The exponent of the least positive number. -/
def leastExponent : Int := -1074

/-- The exponent of the greatest finite numbers. -/
def greatestExponent : Int := 971

/-- The fraction `num / den` in units of `2 ^ exponent`, as a fraction again. -/
def inUnits (num den : Nat) (exponent : Int) : Nat × Nat :=
  if 0 ≤ exponent then (num, den * Nat.pow 2 exponent.toNat) else (num * Nat.pow 2 (-exponent).toNat, den)

/-- The number nearest to the fraction `num / den`. The exponent is chosen so that the quotient has
53 bits or the exponent is the least one; rounding up to 54 bits moves on to the next exponent. -/
def Binary64.ofFraction (negative : Bool) (num den : Nat) : Binary64 :=
  if num = 0 then .finite negative 0 leastExponent
  else
    let guess : Int := (num.log2 : Int) - den.log2 - 53
    let (n, d) := inUnits num den guess
    let exponent := max leastExponent (if n / d < Nat.pow 2 53 then guess else guess + 1)
    let (n, d) := inUnits num den exponent
    let mantissa := roundHalfEven n d
    let (mantissa, exponent) :=
      if mantissa = Nat.pow 2 53 then (Nat.pow 2 52, exponent + 1) else (mantissa, exponent)
    if greatestExponent < exponent then .infinite negative
    else .finite negative mantissa exponent

/-- The number nearest to `digits * 10 ^ scale`. The first two cases only save work: no number is as
large as `10 ^ 310`, and all below `10 ^ (-330)` round to zero. -/
def Binary64.ofDecimal (negative : Bool) (digits : Nat) (scale : Int) : Binary64 :=
  let magnitude : Int := (Nat.toDigits 10 digits).length + scale
  if digits = 0 then .finite negative 0 leastExponent
  else if 310 < magnitude then .infinite negative
  else if magnitude < -330 then .finite negative 0 leastExponent
  else if 0 ≤ scale then .ofFraction negative (digits * Nat.pow 10 scale.toNat) 1
  else .ofFraction negative digits (Nat.pow 10 (-scale).toNat)

/-- The number has no fractional part, and this is it. -/
def Binary64.toInt? : Binary64 → Option Int
  | .nan => none
  | .infinite _ => none
  | .finite negative mantissa exponent =>
    let signed (n : Nat) : Int := if negative then -n else n
    if 0 ≤ exponent then some (signed (mantissa * Nat.pow 2 exponent.toNat))
    else
      let unit := Nat.pow 2 (-exponent).toNat
      if mantissa % unit = 0 then some (signed (mantissa / unit)) else none

end ConfigGate.Decimal
