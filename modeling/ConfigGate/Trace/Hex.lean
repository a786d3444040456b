import ConfigGate.Text.Blank
import ConfigGate.Text.Digit
import ConfigGate.Text.Quoted

/-! Hexadecimal numbers as trace headers may spell them. The digits of every script are allowed, as
are a sign, a base prefix, blanks at the ends, and single underscores between digits. -/
namespace ConfigGate.Trace

/-- A decimal digit of any script becomes the ASCII digit of the same value. -/
def asciiDigit (c : Char) : Char :=
  match Text.decimalValue? c with
  | some value => Char.ofNat (0x30 + value)
  | none => c

def isHexDigit (c : Char) : Bool :=
  ('0' ≤ c && c ≤ '9') || ('a' ≤ c && c ≤ 'f') || ('A' ≤ c && c ≤ 'F')

/-- At least one digit, with at most one underscore between two digits. -/
def isDigitRun : List Char → Bool
  | [] => false
  | [c] => isHexDigit c
  | c :: '_' :: rest => isHexDigit c && isDigitRun rest
  | c :: rest => isHexDigit c && isDigitRun rest

/-- A text without its leading sign. -/
def dropSign : List Char → List Char
  | '+' :: rest => rest
  | '-' :: rest => rest
  | text => text

/-- A text without the base prefix and the underscore that may follow it. -/
def dropBasePrefix : List Char → List Char
  | '0' :: x :: '_' :: rest => if x = 'x' || x = 'X' then rest else '0' :: x :: '_' :: rest
  | '0' :: x :: rest => if x = 'x' || x = 'X' then rest else '0' :: x :: rest
  | text => text

/-- The text spells a hexadecimal number. -/
def spellsHex (text : List Char) : Bool :=
  isDigitRun (dropBasePrefix (dropSign (Text.trimWhile Text.isSpace (text.map asciiDigit))))

/-- The text spells a hexadecimal number and has the given length in characters. -/
def isHex (text : String) (length : Nat) : Bool :=
  text.length == length && spellsHex text.toList

end ConfigGate.Trace
