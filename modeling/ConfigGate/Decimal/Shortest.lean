import ConfigGate.Decimal.Binary64

/-! The fewest decimal digits that read back as a given number, found by trying one digit, two
digits and so on. On each grid only the two neighbours of the number need a test: if any point of
the grid rounds to the number, then one of the neighbours does. -/
namespace ConfigGate.Decimal

/-- The positive reals that round to a number, as numerators over one denominator. The number itself
is `value`, and the ends belong to the interval if `closed` holds. -/
structure Basin where
  value : Nat
  least : Nat
  greatest : Nat
  den : Nat
  closed : Bool

/-- The reals that round to `mantissa * 2 ^ exponent`. They reach half-way to the neighbours, of
which the lower one is nearer if the mantissa is a power of two. An end belongs to the even
mantissa. -/
def basin (mantissa : Nat) (exponent : Int) : Basin :=
  let up := Nat.pow 2 exponent.toNat
  let below := if mantissa = Nat.pow 2 52 && leastExponent < exponent then 1 else 2
  { value := 4 * mantissa * up
    least := (4 * mantissa - below) * up
    greatest := (4 * mantissa + 2) * up
    den := 4 * Nat.pow 2 (-exponent).toNat
    closed := mantissa % 2 == 0 }

/-- The fraction `num / den` rounds to the number. -/
def Basin.holds (b : Basin) (num den : Nat) : Bool :=
  if b.closed then b.least * den ≤ num * b.den && num * b.den ≤ b.greatest * den
  else b.least * den < num * b.den && num * b.den < b.greatest * den

/-- The power `10 ^ place` as a fraction. -/
def tenPower (place : Int) : Nat × Nat :=
  if 0 ≤ place then (Nat.pow 10 place.toNat, 1) else (1, Nat.pow 10 (-place).toNat)

/-- The multiple of `10 ^ place` that is nearest to the number, among its two neighbours on that
grid and those that read back. Of two equally near ones the even multiple is taken. -/
def nearestOnGrid (b : Basin) (place : Int) : Option Nat :=
  let (num, den) := tenPower place
  let multiple := b.value * den / (b.den * num)
  let rest := b.value * den % (b.den * num)
  let lowerReads := multiple != 0 && b.holds (multiple * num) den
  let upperReads := b.holds ((multiple + 1) * num) den
  let twice := 2 * rest
  let upperNearer := b.den * num < twice || (twice == b.den * num && multiple % 2 == 1)
  if lowerReads && (!upperReads || !upperNearer) then some multiple
  else if upperReads then some (multiple + 1)
  else none

/-- The first of the given numbers of digits for which a decimal reads back, with its digits. The
number lies below `10 ^ magnitude`. -/
def firstGrid (b : Basin) (magnitude : Int) : List Nat → Option (Nat × Int)
  | [] => none
  | count :: more =>
    match nearestOnGrid b (magnitude - count) with
    | some multiple => some (multiple, magnitude - count)
    | none => firstGrid b magnitude more

/-- The least power of ten above the fraction `num / den`, starting from a power below it. -/
def magnitudeFrom (num den : Nat) : Nat → Int → Int
  | 0, place => place
  | fuel + 1, place =>
    let (n, d) := tenPower place
    if num * d < n * den then place else magnitudeFrom num den fuel (place + 1)

/-- The digits of the shortest decimal that reads back, and the position of the decimal point
relative to the first digit. Seventeen digits always suffice. -/
def shortest (mantissa : Nat) (exponent : Int) : List Char × Int :=
  let b := basin mantissa exponent
  let bits : Int := mantissa.log2 + exponent
  let start := bits * 30103 / 100000 - 1
  let magnitude := magnitudeFrom b.value b.den 5 start
  match firstGrid b magnitude ((List.range 17).map (· + 1)) with
  | some (multiple, place) =>
    let digits := Nat.toDigits 10 multiple
    let point : Int := digits.length + place
    let trimmed := (digits.reverse.dropWhile (· == '0')).reverse
    (trimmed, point)
  | none => (['0'], 1)

/-- How numbers are written: positionally if the decimal point lies after more than `leastPoint` and
at most `greatestPoint` places, and else with an exponent of at least two digits. -/
structure NumberFormat where
  leastPoint : Int
  greatestPoint : Int
  nan : String
  infinity : String

/-- Numbers in documents are positional from a ten-thousandth to just below `10 ^ 16`. -/
def documentFormat : NumberFormat := ⟨-4, 16, "NaN", "Infinity"⟩

/-- The digits with the point put in place. A whole number ends in `.0`. -/
def positional (digits : List Char) (point : Int) : List Char :=
  if point ≤ 0 then '0' :: '.' :: List.replicate (-point).toNat '0' ++ digits
  else
    let whole := digits.take point.toNat
    let fraction := digits.drop point.toNat
    whole ++ List.replicate (point.toNat - whole.length) '0' ++
      '.' :: (if fraction.isEmpty then ['0'] else fraction)

/-- The digits with the point after the first one, if there are more, and an exponent. -/
def scientific (digits : List Char) (point : Int) : List Char :=
  let power := point - 1
  let shown := Nat.toDigits 10 power.natAbs
  let mantissa := match digits with
    | first :: second :: rest => first :: '.' :: second :: rest
    | few => few
  mantissa ++ 'e' :: (if power < 0 then '-' else '+') ::
    (List.replicate (2 - shown.length) '0' ++ shown)

/-- The number as text. -/
def Binary64.render (format : NumberFormat) : Binary64 → List Char
  | .nan => format.nan.toList
  | .infinite negative => (if negative then ['-'] else []) ++ format.infinity.toList
  | .finite negative mantissa exponent =>
    let sign := if negative then ['-'] else []
    if mantissa = 0 then sign ++ ['0', '.', '0']
    else
      let (digits, point) := shortest mantissa exponent
      if format.leastPoint < point && point ≤ format.greatestPoint then
        sign ++ positional digits point
      else sign ++ scientific digits point

end ConfigGate.Decimal
