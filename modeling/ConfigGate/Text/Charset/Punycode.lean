import ConfigGate.Text.Charset.Basic

/-! The charsets of host names. A name is written in ASCII: first its own ASCII characters, then after a
hyphen where the others belong, as numbers in base 36. -/
namespace ConfigGate.Text.Charset.Punycode

/-- The value of a digit. The case of a letter does not matter. -/
def digit? (b : UInt8) : Option Nat :=
  if 0x41 ≤ b && b ≤ 0x5A then some (b.toNat - 0x41)
  else if 0x61 ≤ b && b ≤ 0x7A then some (b.toNat - 0x61)
  else if 0x30 ≤ b && b ≤ 0x39 then some (b.toNat - 0x30 + 26)
  else none

/-- The least digit that is not the last of its number, where `scale` is 36 times the number of the
digit. -/
def threshold (scale bias : Nat) : Nat :=
  if scale ≤ bias then 1 else min 26 (scale - bias)

/-- Read a number, least significant digit first, and say what is left. -/
def readNumber (bias : Nat) : (scale weight sum : Nat) → Bytes → Option (Nat × Bytes)
  | _, _, _, [] => none
  | scale, weight, sum, b :: rest =>
    match digit? b with
    | none => none
    | some value =>
      let least := threshold scale bias
      if value < least then some (sum + value * weight, rest)
      else readNumber bias (scale + 36) (weight * (36 - least)) (sum + value * weight) rest

/-- Divide a difference by 35 until it is small, and count 36 for each time. -/
def reduce (difference count : Nat) : Nat × Nat :=
  if 455 < difference then reduce (difference / 35) (count + 36) else (difference, count)
termination_by difference
decreasing_by exact Nat.div_lt_self (by omega) (by omega)

/-- The bias after a number has been read. -/
def adapt (number length : Nat) (isFirst : Bool) : Nat :=
  let difference := number / (if isFirst then 700 else 2)
  let (difference, count) := reduce (difference + difference / length) 0
  count + 36 * difference / (difference + 38)

/-- Insert the characters that the numbers tell of. Every number has at least one digit, so a fuel of one
more than the number of bytes is enough. -/
def insertAll : (fuel code position bias : Nat) → (isFirst : Bool) → (found : List Char) → Bytes →
    Except Defect (List Char)
  | 0, _, _, _, _, found, _ => .ok found
  | _, _, _, _, _, found, [] => .ok found
  | fuel + 1, code, position, bias, isFirst, found, bytes =>
    match readNumber bias 36 1 0 bytes with
    | none => .error .refused
    | some (number, rest) =>
      let length := found.length + 1
      let code := code + (position + number) / length
      let position := (position + number) % length
      if 0x10FFFF < code then .error .refused
      else
        insertAll fuel code (position + 1) (adapt number length isFirst) false
          (found.insertIdx position (character code)) rest

def isAscii (bytes : Bytes) : Bool := bytes.all (· < 0x80)

/-- The characters of the bytes of an ASCII text. -/
def asciiText (bytes : Bytes) : List Char := bytes.map fun b => Char.ofNat b.toNat

/-- Read a text. The last hyphen ends the ASCII characters of a name that has some. -/
def read (bytes : Bytes) : Except Defect (List Char) :=
  if !isAscii bytes then .error .malformed
  else
    let numbers := (bytes.reverse.takeWhile (· != 0x2D)).reverse
    let plain := (bytes.take (bytes.length - numbers.length)).dropLast
    insertAll (numbers.length + 1) 0x80 0 72 true (asciiText plain) numbers

/-- What a label begins with that is written in this way. -/
def labelMark : Bytes := [0x78, 0x6E, 0x2D, 0x2D]

/-- The greatest number of bytes that a label of a host name may have. -/
def labelLimit : Nat := 1024

/-- Read a label of a host name. -/
def readLabel (label : Bytes) : Except Defect (List Char) :=
  if labelLimit < label.length then .error .refused
  else if !labelMark.isPrefixOf label then
    if isAscii label then .ok (asciiText label) else .error .malformed
  else read (label.drop labelMark.length)

/-- A mark stands somewhere in the bytes. -/
def containsMark : Bytes → Bool
  | [] => false
  | b :: rest => labelMark.isPrefixOf (b :: rest) || containsMark rest

/-- Read a host name. A name in ASCII without any marked label stands for itself. -/
def readHost (bytes : Bytes) : Except Defect (List Char) :=
  if isAscii bytes && !containsMark bytes then .ok (asciiText bytes)
  else ((bytes.splitOn 0x2E).mapM readLabel).map fun labels => List.intercalate ['.'] labels

end ConfigGate.Text.Charset.Punycode
