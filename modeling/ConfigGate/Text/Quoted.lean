import ConfigGate.Text.PrintableTable

namespace ConfigGate.Text

/-- The character may stand for itself in a message. -/
def isPrintable (c : Char) : Bool :=
  if c.toNat < 0x7F then 0x20 ≤ c.toNat
  else printableRanges.any fun (first, last) => first ≤ c.toNat && c.toNat ≤ last

/-- A number in small hexadecimal digits, with leading zeros up to the given width. -/
def hexPadded (width n : Nat) : List Char :=
  let digits := Nat.toDigits 16 n
  List.replicate (width - digits.length) '0' ++ digits

/-- How one character is written between the quotation marks `mark`. The mark and the backslash take
a backslash before them, the three common controls have letters of their own, and any other
character that cannot be printed is written as its code point in the shortest of three widths. -/
def quoteChar (mark c : Char) : List Char :=
  if c = mark || c = '\\' then ['\\', c]
  else if c = '\n' then ['\\', 'n']
  else if c = '\r' then ['\\', 'r']
  else if c = '\t' then ['\\', 't']
  else if isPrintable c then [c]
  else if c.toNat ≤ 0xFF then '\\' :: 'x' :: hexPadded 2 c.toNat
  else if c.toNat ≤ 0xFFFF then '\\' :: 'u' :: hexPadded 4 c.toNat
  else '\\' :: 'U' :: hexPadded 8 c.toNat

/-- The quotation mark for a text. It is the apostrophe unless the text has one and has no double
quote. -/
def quotationMark (text : List Char) : Char :=
  if text.contains '\'' && !text.contains '"' then '"' else '\''

/-- A text between quotation marks on one line of printable characters, so that a message can show
names with controls in them. -/
def quoted (text : String) : String :=
  let chars := text.toList
  let mark := quotationMark chars
  String.ofList (mark :: chars.flatMap (quoteChar mark) ++ [mark])

end ConfigGate.Text
