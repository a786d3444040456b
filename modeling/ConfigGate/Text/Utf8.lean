namespace ConfigGate

/-- A sequence of bytes: the contents of a file or the body of a request. -/
abbrev Bytes := List UInt8

namespace Text.Utf8

/-- The UTF-8 form of a text. -/
def encode (text : String) : Bytes :=
  text.toList.flatMap String.utf8EncodeChar

/-- What is wrong with a sequence of bytes that is no character. -/
inductive Defect where
  /-- No character starts with this byte. -/
  | startByte
  /-- The byte that follows cannot continue the character. -/
  | continuation
  /-- The bytes end inside the character. -/
  | truncated
deriving DecidableEq, Repr

/-- A sequence of bytes that is no character: its first byte, where it starts, and how many bytes
belong to it. -/
structure Malformed where
  defect : Defect
  firstByte : UInt8
  position : Nat
  width : Nat
deriving DecidableEq, Repr

/-- A decoded piece of the input. -/
inductive Piece where
  | char (c : Char)
  | malformed (m : Malformed)
deriving DecidableEq, Repr

/-- A character of which some bytes have been read. The next byte must lie between `lower` and
`upper`; the bounds exclude overlong forms, surrogates and code points that are too large, so these
are found at the second byte. -/
structure Pending where
  firstByte : UInt8
  code : Nat
  missing : Nat
  lower : UInt8
  upper : UInt8
  width : Nat

/-- The decoder between two bytes: the number of bytes read, the character that has been begun, and
the pieces found so far, latest first. -/
structure Decoder where
  position : Nat
  pending : Option Pending
  pieces : List Piece

/-- The decoder before the first byte. -/
def Decoder.initial : Decoder := ⟨0, none, []⟩

/-- Read a byte where a character may begin. -/
def Decoder.begin (d : Decoder) (b : UInt8) : Decoder :=
  let start (code missing : Nat) (lower upper : UInt8) : Decoder :=
    { d with position := d.position + 1, pending := some ⟨b, code, missing, lower, upper, 1⟩ }
  let n := b.toNat
  if n < 0x80 then ⟨d.position + 1, none, .char (Char.ofNat n) :: d.pieces⟩
  else if n < 0xC2 then
    ⟨d.position + 1, none, .malformed ⟨.startByte, b, d.position, 1⟩ :: d.pieces⟩
  else if n < 0xE0 then start (n - 0xC0) 1 0x80 0xBF
  else if n = 0xE0 then start 0 2 0xA0 0xBF
  else if n = 0xED then start 0xD 2 0x80 0x9F
  else if n < 0xF0 then start (n - 0xE0) 2 0x80 0xBF
  else if n = 0xF0 then start 0 3 0x90 0xBF
  else if n < 0xF4 then start (n - 0xF0) 3 0x80 0xBF
  else if n = 0xF4 then start 4 3 0x80 0x8F
  else ⟨d.position + 1, none, .malformed ⟨.startByte, b, d.position, 1⟩ :: d.pieces⟩

/-- Read one byte. A byte that cannot continue the character that has been begun ends it as
malformed and is read again as the beginning of the next one. -/
def Decoder.step (d : Decoder) (b : UInt8) : Decoder :=
  match d.pending with
  | none => d.begin b
  | some p =>
    if p.lower ≤ b && b ≤ p.upper then
      let code := p.code * 64 + (b.toNat - 0x80)
      if p.missing ≤ 1 then ⟨d.position + 1, none, .char (Char.ofNat code) :: d.pieces⟩
      else
        { d with
          position := d.position + 1
          pending := some ⟨p.firstByte, code, p.missing - 1, 0x80, 0xBF, p.width + 1⟩ }
    else
      let bad := ⟨.continuation, p.firstByte, d.position - p.width, p.width⟩
      ({ d with pending := none, pieces := .malformed bad :: d.pieces } : Decoder).begin b

/-- The pieces in their order, after the last byte. -/
def Decoder.finish (d : Decoder) : List Piece :=
  match d.pending with
  | none => d.pieces.reverse
  | some p =>
    (.malformed ⟨.truncated, p.firstByte, d.position - p.width, p.width⟩ :: d.pieces).reverse

/-- Split bytes into characters and malformed sequences. -/
def pieces (bytes : Bytes) : List Piece :=
  (bytes.foldl Decoder.step Decoder.initial).finish

/-- Read bytes as text with the replacement character for every malformed sequence. -/
def decodeLossy (bytes : Bytes) : String :=
  String.ofList <| (pieces bytes).map fun
    | .char c => c
    | .malformed _ => '\uFFFD'

/-- The characters before the first malformed sequence, latest first, or that sequence. -/
def collect : List Piece → List Char → Except Malformed (List Char)
  | [], found => .ok found.reverse
  | .char c :: rest, found => collect rest (c :: found)
  | .malformed m :: _, _ => .error m

/-- Read bytes as text, or say which bytes are the first that are none. -/
def decode (bytes : Bytes) : Except Malformed String :=
  (collect (pieces bytes) []).map String.ofList

/-- The bytes are the UTF-8 form of a text. -/
def decode? (bytes : Bytes) : Option String :=
  (decode bytes).toOption

end Text.Utf8

end ConfigGate
