import ConfigGate.Http.Form.Basic
import ConfigGate.Text.Charset

/-! Forms in parts. Each part has header lines of its own, then an empty line, then its data, and ends
at a line that begins with two hyphens and the boundary. A form that breaks off has the parts that
are complete. -/
namespace ConfigGate.Http.Form.Multipart

def carriageReturn : UInt8 := 0x0D

def lineFeed : UInt8 := 0x0A

def hyphen : UInt8 := 0x2D

def lineEnd : Bytes := [carriageReturn, lineFeed]

def hyphens : Bytes := [hyphen, hyphen]

/-- The number of header lines that a part may have. -/
def maxHeaders : Nat := 8

/-- The number of bytes that a header line may have. -/
def maxHeaderLength : Nat := 4224

/-- The number of bytes that a boundary may have. -/
def maxBoundaryLength : Nat := 256

/-- Take an expected beginning off a text. Nothing is found if the text ends before it is complete. -/
def expect : (beginning text : Bytes) → Except Fault (Option Bytes)
  | [], text => .ok (some text)
  | _, [] => .ok none
  | e :: beginning, b :: text => if e = b then expect beginning text else .error .malformed

/-- The bytes that the name of a header may have. -/
def isTokenByte (b : UInt8) : Bool :=
  (0x30 ≤ b && b ≤ 0x39) || (0x41 ≤ b && b ≤ 0x5A) || (0x5E ≤ b && b ≤ 0x7A) ||
    b == 0x21 || (0x23 ≤ b && b ≤ 0x27) || b == 0x2A || b == 0x2B || b == 0x2D || b == 0x2E ||
    b == 0x7C || b == 0x7E

/-- What is left of the text after the line of one header, with its name and value. -/
def readHeader (text : Bytes) : Except Fault (Option ((String × String) × Bytes)) :=
  if maxHeaderLength < (text.takeWhile (· != carriageReturn)).length then .error .malformed
  else
    let (name, rest) := text.span isTokenByte
    match rest with
    | [] => .ok none
    | colon :: rest =>
      if colon ≠ 0x3A || name.isEmpty then .error .malformed
      else
        let (value, rest) := (rest.dropWhile (· == 0x20)).span (· != carriageReturn)
        (expect lineEnd rest).map fun found => found.map fun rest =>
          ((Text.lower (String.ofList (byteText name)), String.ofList (byteText value)), rest)

/-- The headers up to the empty line, and what is left after it. `found` holds the headers so far, latest
first, and `left` tells how many there may be yet. -/
def readHeaders : (left : Nat) → (found : Headers) → Bytes → Except Fault (Option (Headers × Bytes))
  | _, _, [] => .ok none
  | left, found, b :: rest =>
    if b = carriageReturn then
      (expect lineEnd (b :: rest)).map fun rest => rest.map fun rest => (found.reverse, rest)
    else
      match left with
      | 0 => .error .malformed
      | left + 1 => do
        match ← readHeader (b :: rest) with
        | none => return none
        | some (header, rest) => readHeaders left (header :: found) rest

/-- How the data of a part ends. -/
inductive DataEnd where
  /-- Another part follows. -/
  | next (rest : Bytes)
  | last
  /-- The form breaks off here. -/
  | cut
deriving DecidableEq, Repr

def isPadding (b : UInt8) : Bool := b == 0x20 || b == 0x09

/-- What a boundary after data stands for, as what follows it tells. Spaces and tabs may follow it if its
line ends after them. If it is not at the end of its line, it is data. -/
def afterBoundary : Bytes → Except Fault (Option DataEnd)
  | [] => .ok (some .cut)
  | b :: rest =>
    if b = carriageReturn then
      match rest with
      | [] => .ok (some .cut)
      | c :: rest => .ok (if c = lineFeed then some (.next rest) else none)
    else if b = hyphen then
      match rest with
      | [] => .ok (some .cut)
      | c :: _ => .ok (if c = hyphen then some .last else none)
    else if isPadding b then
      (expect lineEnd (rest.dropWhile isPadding)).map fun
        | some rest => some (.next rest)
        | none => some .cut
    else .ok none

/-- The data up to a delimiter, and how it ends. What may be the beginning of a delimiter at the end of the
text is no data. `passed` holds the bytes before the text, latest first. -/
def readData (delimiter : Bytes) : (passed text : Bytes) → Except Fault (Bytes × DataEnd)
  | passed, [] => .ok (passed.reverse, .cut)
  | passed, b :: text =>
    if delimiter.isPrefixOf (b :: text) then
      match afterBoundary ((b :: text).drop delimiter.length) with
      | .error fault => .error fault
      | .ok (some dataEnd) => .ok (passed.reverse, dataEnd)
      | .ok none => readData delimiter (b :: passed) text
    else if (b :: text).isPrefixOf delimiter then .ok (passed.reverse, .cut)
    else readData delimiter (b :: passed) text

/-- The bytes of a text that stands for bytes. -/
def bytesOfText (text : String) : Bytes :=
  text.toList.map fun c => UInt8.ofNat c.toNat

/-- How a form is to be read. -/
structure Layout where
  boundary : Bytes
  charset : Text.Charset

namespace Layout

/-- The layout that a media type tells. -/
def ofMediaType (type : MediaType) : Except Fault Layout :=
  match type.parameter? "boundary" with
  | none => .error .noBoundary
  | some boundary =>
    if maxBoundaryLength < boundary.length then .error .malformed
    else .ok ⟨bytesOfText boundary, .ofName ((type.parameter? "charset").getD "utf-8")⟩

def opening (layout : Layout) : Bytes := hyphens ++ layout.boundary

def delimiter (layout : Layout) : Bytes := lineEnd ++ layout.opening

/-- Read a name or value. -/
def decode (layout : Layout) (bytes : Bytes) : Except Fault String :=
  match layout.charset.readOrBytes bytes with
  | some text => .ok (String.ofList text)
  | none => .error .unreadable

end Layout

/-- The fields of a form, latest first, with the numbers of texts and uploads among them. -/
structure Found where
  fields : Fields
  texts : Nat
  uploads : Nat

/-- What the headers of a part tell: the name of the field, and the name of the file if it is an
upload. -/
structure Disposition where
  name : String
  file : Option String

namespace Found

def beginText (found : Found) : Except Fault Found :=
  if maxItems < found.texts + 1 then .error .tooManyFields
  else .ok { found with texts := found.texts + 1 }

def beginUpload (found : Found) : Except Fault Found :=
  if maxItems < found.uploads + 1 then .error .tooManyUploads
  else .ok { found with uploads := found.uploads + 1 }

/-- Note that a part with these headers begins. -/
def begin (found : Found) (layout : Layout) (headers : Headers) :
    Except Fault (Disposition × Found) := do
  let disposition := MediaType.parse ((headers.reverse.lookup "content-disposition").getD "")
  match disposition.parameter? "name" with
  | none => throw .namelessPart
  | some name =>
    let name ← layout.decode (bytesOfText name)
    match disposition.parameter? "filename" with
    | none => return (⟨name, none⟩, ← found.beginText)
    | some file =>
      let found ← found.beginUpload
      return (⟨name, some (← layout.decode (bytesOfText file))⟩, found)

def add (found : Found) (name : String) (value : FieldValue) : Found :=
  { found with fields := (name, value) :: found.fields }

end Found

/-- The value of a part. -/
def Disposition.value (disposition : Disposition) (layout : Layout) (data : Bytes) :
    Except Fault FieldValue :=
  match disposition.file with
  | none => (layout.decode data).map .text
  | some file => .ok (if file = "" && data.isEmpty then .unchosen else .upload)

/-- The fields of the parts from here on. The text begins with the headers of a part. Each part takes
at least one byte, so a fuel of one more than the number of bytes is enough. -/
def readParts (layout : Layout) : Nat → Found → Bytes → Except Fault Found
  | 0, found, _ => .ok found
  | fuel + 1, found, text => do
    match ← readHeaders maxHeaders [] text with
    | none => return found
    | some (headers, text) =>
      let (disposition, found) ← found.begin layout headers
      let (data, dataEnd) ← readData layout.delimiter [] text
      if disposition.file.isNone && maxLength < data.length then throw .partTooLong
      match dataEnd with
      | .cut => return found
      | .last => return found.add disposition.name (← disposition.value layout data)
      | .next rest =>
        readParts layout fuel (found.add disposition.name (← disposition.value layout data)) rest

/-- The text from the first boundary on. A text that begins with the end of a line may have anything
without a hyphen before it. -/
def dropPreamble (body : Bytes) : Bytes :=
  if lineEnd.any fun b => body.head? = some b then body.dropWhile (· != hyphen) else body

/-- The fields of a form. After the last boundary anything may follow. -/
def read (type : MediaType) (body : Bytes) : Except Fault Fields := do
  let layout ← Layout.ofMediaType type
  match ← expect layout.opening (dropPreamble body) with
  | none => return []
  | some text =>
    if text.head? = some hyphen then
      let _ ← expect hyphens text
      return []
    else
      match ← expect lineEnd text with
      | none => return []
      | some text =>
        let found ← readParts layout (text.length + 1) ⟨[], 0, 0⟩ text
        return found.fields.reverse

end ConfigGate.Http.Form.Multipart
