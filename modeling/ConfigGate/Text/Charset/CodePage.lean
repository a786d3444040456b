import ConfigGate.Text.Charset.Basic

namespace ConfigGate.Text.Charset

/-- A charset in which every byte stands for one character: the characters of the lower and of the upper
half of the bytes, in their order. The replacement character stands at bytes that have none. -/
structure CodePage where
  name : String
  /-- Other names that the code page goes by. -/
  aliases : List String
  low : String
  high : String
deriving DecidableEq, Repr

namespace CodePage

/-- The hundred and twenty-eight characters of ASCII. -/
def ascii : String := String.ofList ((List.range 128).map Char.ofNat)

/-- The controls that many code pages have at the beginning of their upper half. -/
def controls : String := String.ofList ((List.range 32).map fun n => Char.ofNat (0x80 + n))

/-- The characters in the order of their bytes. -/
def characters (page : CodePage) : Array Char := (page.low ++ page.high).toList.toArray

/-- The character that a byte stands for. -/
def character? (characters : Array Char) (b : UInt8) : Option Char :=
  characters[b.toNat]?.filter (· != '\uFFFD')

/-- Read bytes one by one. -/
def read (page : CodePage) (bytes : Bytes) : Except Defect (List Char) :=
  let characters := page.characters
  match bytes.mapM (character? characters) with
  | some text => .ok text
  | none => .error .malformed

end CodePage

end ConfigGate.Text.Charset
