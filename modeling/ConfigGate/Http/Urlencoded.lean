import ConfigGate.Json.Reader
import ConfigGate.Text.Quoted
import ConfigGate.Text.Utf8

/-! Query strings and url-encoded forms as texts: pairs joined by ampersands, with percent escapes
for bytes and plus signs for spaces. -/
namespace ConfigGate.Http.Urlencoded

/-- The bytes of an ASCII text in which a percent sign and two hexadecimal digits stand for a byte.
A percent sign without two digits stands for itself. -/
def percentBytes : List Char → Bytes → Bytes
  | [], found => found.reverse
  | '%' :: a :: b :: rest, found =>
    match Json.hexDigit? a, Json.hexDigit? b with
    | some high, some low => percentBytes rest (UInt8.ofNat (high * 16 + low) :: found)
    | _, _ => percentBytes (a :: b :: rest) (0x25 :: found)
  | c :: rest, found => percentBytes rest (UInt8.ofNat c.toNat :: found)

def isAscii (c : Char) : Bool := c.toNat < 0x80

/-- Resolve the percent escapes of a text. The bytes of each stretch of ASCII characters are read as
UTF-8 on their own, and other characters stand for themselves. -/
def unescape (text : List Char) : List Char :=
  (text.splitBy fun a b => isAscii a == isAscii b).flatMap fun stretch =>
    if stretch.all isAscii then (Text.Utf8.decodeLossy (percentBytes stretch [])).toList
    else stretch

/-- A name or value of a form as the text that it stands for. -/
def decodePart (part : List Char) : String :=
  String.ofList (unescape (part.map fun c => if c = '+' then ' ' else c))

/-- The name and the value of one field. A field without an equals sign has the empty value. -/
def decodeField (part : List Char) : String × String :=
  let (name, rest) := part.span (· != '=')
  (decodePart name, decodePart (rest.drop 1))

/-- The fields of a form as they are sent. Nothing between two ampersands is no field. -/
def sentFields (text : List Char) : List (List Char) :=
  (text.splitOn '&').filter (! ·.isEmpty)

/-- The fields of a form in their order. -/
def fields (text : List Char) : List (String × String) :=
  (sentFields text).map decodeField

/-- The percent escape of a byte. -/
def escapeByte (b : UInt8) : List Char :=
  '%' :: (Text.hexPadded 2 b.toNat).map Char.toUpper

/-- Replace by percent escapes the bytes of all characters that are not to be kept. -/
def escape (keeps : Char → Bool) (text : List Char) : List Char :=
  text.flatMap fun c =>
    if keeps c then [c] else (Text.Utf8.encode (String.singleton c)).flatMap escapeByte

end ConfigGate.Http.Urlencoded
