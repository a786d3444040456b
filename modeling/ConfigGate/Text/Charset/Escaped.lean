import ConfigGate.Text.Charset.Basic

/-! Charsets in which a byte is the character of its number, and any character can be written with a
backslash. -/
namespace ConfigGate.Text.Charset.Escaped

/-- The value of a digit in base sixteen. -/
def hexDigit? (b : UInt8) : Option Nat :=
  if 0x30 ≤ b && b ≤ 0x39 then some (b.toNat - 0x30)
  else if 0x41 ≤ b && b ≤ 0x46 then some (b.toNat - 0x41 + 10)
  else if 0x61 ≤ b && b ≤ 0x66 then some (b.toNat - 0x61 + 10)
  else none

def isOctalDigit (b : UInt8) : Bool := 0x30 ≤ b && b ≤ 0x37

/-- The character that exactly `width` digits in base sixteen at the beginning stand for. -/
def hexCharacter? (width : Nat) (bytes : Bytes) : Option Char :=
  let digits := bytes.take width
  if digits.length < width then none
  else
    match digits.mapM hexDigit? with
    | none => none
    | some values =>
      let code := values.foldl (fun n v => n * 16 + v) 0
      if code < 0x110000 then some (character code) else none

/-- The number of digits that follow a letter after a backslash. -/
def digitsAfter? (letter : UInt8) : Option Nat :=
  if letter = 0x78 then some 2
  else if letter = 0x75 then some 4
  else if letter = 0x55 then some 8
  else none

/-- The character that a letter or mark after a backslash stands for. -/
def shorthand? (b : UInt8) : Option Char :=
  (("\\'\"bftnrva".toList.zip "\\'\"\x08\x0c\t\n\r\x0b\x07".toList).lookup (Char.ofNat b.toNat))

/-- The character that up to three octal digits at the beginning stand for, and what is left. -/
def octalCharacter (bytes : Bytes) : Char × Bytes :=
  let digits := (bytes.take 3).takeWhile isOctalDigit
  (Char.ofNat (digits.foldl (fun n b => n * 8 + (b.toNat - 0x30)) 0), bytes.drop digits.length)

/-- What stands after a backslash: the characters that it makes, latest first, and what is left. A line
that ends in a backslash goes on with the next one, and an unknown escape stands for itself. A
character cannot be given by its name. -/
def readEscape : Bytes → Except Defect (List Char × Bytes)
  | [] => .error .malformed
  | 0x0A :: rest => .ok ([], rest)
  | 0x4E :: _ => .error .malformed
  | b :: rest =>
    match shorthand? b, digitsAfter? b with
    | some c, _ => .ok ([c], rest)
    | none, some width =>
      match hexCharacter? width rest with
      | some c => .ok ([c], rest.drop width)
      | none => .error .malformed
    | none, none =>
      if isOctalDigit b then
        let (c, rest) := octalCharacter (b :: rest)
        .ok ([c], rest)
      else .ok ([Char.ofNat b.toNat, '\\'], rest)

/-- What stands after a backslash where only code points can be escaped. Two backslashes stand for
themselves. -/
def readCodePoint : Bytes → Except Defect (List Char × Bytes)
  | [] => .ok (['\\'], [])
  | b :: rest =>
    match if b = 0x78 then none else digitsAfter? b with
    | some width =>
      match hexCharacter? width rest with
      | some c => .ok ([c], rest.drop width)
      | none => .error .malformed
    | none => .ok ([Char.ofNat b.toNat, '\\'], rest)

/-- Read a text with the escapes that a reader knows. Every escape is shorter than the text, so a fuel of
one more than the number of bytes is enough. -/
def readWith (escape : Bytes → Except Defect (List Char × Bytes)) :
    Nat → (found : List Char) → Bytes → Except Defect (List Char)
  | 0, found, _ => .ok found.reverse
  | _, found, [] => .ok found.reverse
  | fuel + 1, found, b :: rest =>
    if b = 0x5C then
      match escape rest with
      | .error defect => .error defect
      | .ok (chars, rest) => readWith escape fuel (chars ++ found) rest
    else readWith escape fuel (Char.ofNat b.toNat :: found) rest

/-- Read a text with all escapes. -/
def read (bytes : Bytes) : Except Defect (List Char) :=
  readWith readEscape (bytes.length + 1) [] bytes

/-- Read a text in which only code points are escaped. -/
def readRaw (bytes : Bytes) : Except Defect (List Char) :=
  readWith readCodePoint (bytes.length + 1) [] bytes

end ConfigGate.Text.Charset.Escaped
