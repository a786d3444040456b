import ConfigGate.Json.Reader
import ConfigGate.Settings.Problem
import ConfigGate.Text.Blank

/-! Integers in configuration values. A text may spell an integer as JSON does. If it does not, it is
tidied up once: blanks around it, a plus sign, zeros before it, a fraction of zeros, and underscores
between its characters are left out. What remains must then be an integer of JSON. -/
namespace ConfigGate.Settings

open Json (Value)

/-- The most characters that an integer may have, its sign included. -/
def greatestLength : Nat := 4300

/-- The integer that a text spells as JSON does. A text that begins with too many digits is too long
whatever follows them. -/
def plainInteger (text : List Char) : Except Cause Int :=
  let (negative, unsigned) := match text with
    | '-' :: rest => (true, rest)
    | rest => (false, rest)
  match Json.readWhole unsigned with
  | none => .error .integerUnreadable
  | some (digits, rest) =>
    if greatestLength < digits.length + negative.toNat then .error .integerTooLong
    else if !rest.isEmpty then .error .integerUnreadable
    else
      let n : Int := Json.digitsValue digits
      .ok (if negative then -n else n)

/-- A text without a plus sign before it, which no minus sign may follow. -/
def dropPlus? (text : List Char) : Option (List Char) :=
  match text with
  | '+' :: '-' :: _ => none
  | '+' :: rest => some rest
  | _ => some text

/-- A text without the zeros before its number. Underscores and a minus sign may stand after the first
zero, and the last zero stays where no other digit comes before the end or a point. -/
def dropZeros? (text : List Char) : Option (List Char) :=
  match text with
  | '0' :: _ =>
    match text.dropWhile fun c => c == '0' || c == '_' with
    | [] => some (text.drop (text.length - 1))
    | '.' :: rest => some (text.drop (text.length - (rest.length + 2)))
    | c :: rest => if c == '-' || c.isDigit then some (c :: rest) else none
  | c :: _ => if c == '-' || c.isDigit then some text else none
  | [] => none

/-- A text without a final point with zeros after it, of which there must be at least one. -/
def dropZeroFraction (text : List Char) : List Char :=
  match text.span (· != '.') with
  | (whole, '.' :: zeros) => if !zeros.isEmpty && zeros.all (· == '0') then whole else text
  | _ => text

/-- Two underscores stand in a row somewhere in the text. -/
def hasDoubleUnderscore : List Char → Bool
  | '_' :: '_' :: _ => true
  | _ :: rest => hasDoubleUnderscore rest
  | [] => false

/-- A text without its underscores, if each of them stands alone between other characters. -/
def dropUnderscores (text : List Char) : List Char :=
  if text.head? = some '_' || text.getLast? = some '_' || hasDoubleUnderscore text then text
  else text.filter (· != '_')

/-- A text with everything left out that an integer may have around and between its digits. -/
def tidied? (text : List Char) : Option (List Char) := do
  let unsigned ← dropPlus? (Text.trimWhile Text.isSpace text)
  return dropUnderscores (dropZeroFraction (← dropZeros? unsigned))

/-- The integer that a text spells. -/
def integerOfText (text : String) : Except Cause Int :=
  match plainInteger text.toList with
  | .error .integerUnreadable =>
    match (tidied? text.toList).map plainInteger with
    | some (.ok n) => .ok n
    | _ => .error .integerUnreadable
  | result => result

/-- The integer that a number stands for. It must lie strictly between `-2 ^ 63` and `2 ^ 63`. -/
def integerOfReal (x : Decimal.Binary64) : Except Cause Int :=
  match x with
  | .nan => .error .notFinite
  | .infinite _ => .error .notFinite
  | x =>
    match x.toInt? with
    | none => .error .integerHasFraction
    | some n => if n.natAbs < Nat.pow 2 63 then .ok n else .error .integerTooLong

/-- The integer that a configuration value stands for. A truth value counts as zero or one. -/
def integerOf : Value → Except Cause Int
  | .int n => .ok n
  | .bool b => .ok (if b then 1 else 0)
  | .real x => integerOfReal x
  | .text s => (s.text?.map integerOfText).getD (.error .notUnicode)
  | _ => .error .notInteger

end ConfigGate.Settings
