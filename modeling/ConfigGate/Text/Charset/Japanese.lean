import ConfigGate.Text.Charset.Japanese.CodePage932
import ConfigGate.Text.Charset.Japanese.JisX0208
import ConfigGate.Text.Charset.Japanese.JisX0212
import ConfigGate.Text.Charset.Japanese.JisX0213

/-! Charsets for Japanese. The same rows of characters are written in two ways: as two bytes of the upper
half, after a mark for the second plane, or as a first byte that covers two rows and leaves room for syllables
of one byte. -/
namespace ConfigGate.Text.Charset

/-- The editions of JIS X 0213. -/
inductive Edition where
  | first
  | second
deriving DecidableEq, Repr

/-- The charsets for Japanese. -/
inductive Japanese where
  | shifted
  /-- The shifted charset with the rows of makers of computers and of users. -/
  | codePage932
  | shiftedExtended (edition : Edition)
  | upper
  | upperExtended (edition : Edition)
deriving DecidableEq, Repr

namespace Japanese

/-- A character of ASCII, or the yen sign and the overline in the places of two of them. -/
def roman (b : UInt8) : Char :=
  if b = 0x5C then '¥' else if b = 0x7E then '‾' else Char.ofNat b.toNat

/-- The syllable of half width of a byte in the upper half. -/
def halfWidth? (b : UInt8) : Option Char :=
  if 0xA1 ≤ b && b ≤ 0xDF then some (Char.ofNat (0xFEC0 + b.toNat)) else none

/-- The characters of JIS X 0213 that are a letter and a mark, in its first plane. -/
def marked : List (Nat × Nat × String) := [
  (4, 87, "か\u309a"), (4, 88, "き\u309a"), (4, 89, "く\u309a"), (4, 90, "け\u309a"),
  (4, 91, "こ\u309a"), (5, 87, "カ\u309a"), (5, 88, "キ\u309a"), (5, 89, "ク\u309a"),
  (5, 90, "ケ\u309a"), (5, 91, "コ\u309a"), (5, 92, "セ\u309a"), (5, 93, "ツ\u309a"),
  (5, 94, "ト\u309a"), (6, 88, "ㇷ\u309a"), (11, 36, "æ\u0300"), (11, 40, "ɔ\u0300"),
  (11, 41, "ɔ\u0301"), (11, 42, "ʌ\u0300"), (11, 43, "ʌ\u0301"), (11, 44, "ə\u0300"),
  (11, 45, "ə\u0301"), (11, 46, "ɚ\u0300"), (11, 47, "ɚ\u0301"), (11, 69, "˩˥"), (11, 70, "˥˩")]

/-- The cells of the first plane of JIS X 0213 that its first edition leaves empty. -/
def isLater (row cell : Nat) : Bool :=
  [(14, 1), (15, 94), (47, 52), (47, 94), (84, 7), (94, 90), (94, 91), (94, 92), (94, 93),
    (94, 94)].contains (row, cell)

/-- The text in a cell of the first plane of JIS X 0213. -/
def firstPlane? (edition : Edition) (row cell : Nat) : Option (List Char) :=
  if edition = .first && isLater row cell then none
  else
    let single := Grid.jisX0208.get? row cell <|> Grid.jisX0213First.get? row cell
    match single with
    | some c => some [c]
    | none =>
      (marked.find? fun (r, c, _) => r = row && c = cell).map fun (_, _, text) => text.toList

/-- The text in a cell of the second plane of JIS X 0213. One character has been exchanged since its first
edition. -/
def secondPlane? (edition : Edition) (row cell : Nat) : Option (List Char) :=
  if edition = .first && row = 93 && cell = 27 then some ['鬝']
  else (Grid.jisX0213Second.get? row cell).map fun c => [c]

/-- The row and the cell of two bytes of which the first covers two rows. -/
def shiftedCell? (lead trail : UInt8) : Option (Nat × Nat) := do
  let half ← if 0x81 ≤ lead && lead ≤ 0x9F then some (lead.toNat - 0x81)
    else if 0xE0 ≤ lead && lead ≤ 0xFC then some (lead.toNat - 0xC1)
    else none
  let place ← if 0x40 ≤ trail && trail ≤ 0x7E then some (trail.toNat - 0x40)
    else if 0x80 ≤ trail && trail ≤ 0xFC then some (trail.toNat - 0x41)
    else none
  some (2 * half + place / 94 + 1, place % 94 + 1)

/-- Read a byte of ASCII, a syllable of half width, or a text that two bytes stand for. -/
def readShifted (cell? : Nat → Nat → Option (List Char)) (b : UInt8) (rest : Bytes) :
    Option (List Char × Nat) :=
  if b < 0x80 then some ([Char.ofNat b.toNat], 0)
  else match halfWidth? b, rest with
    | some c, _ => some ([c], 0)
    | none, trail :: _ => do
      let (row, cell) ← shiftedCell? b trail
      (cell? row cell).map fun text => (text, 1)
    | none, [] => none

/-- The character in a cell of code page 932, where the rows from 95 to 114 are for private use. -/
def codePage932Cell? (row cell : Nat) : Option (List Char) :=
  if 95 ≤ row && row ≤ 114 then some [Char.ofNat (0xE000 + (row - 95) * 94 + (cell - 1))]
  else (Grid.codePage932.get? row cell <|> Grid.jisX0208.get? row cell).map fun c => [c]

/-- Read a character of code page 932, in which no byte is without a character. -/
def readCodePage932 (b : UInt8) (rest : Bytes) : Option (List Char × Nat) :=
  if b = 0x80 then some (['\x80'], 0)
  else if b = 0xA0 then some (['\uf8f0'], 0)
  else if 0xFD ≤ b then some ([Char.ofNat (0xF8F1 + (b.toNat - 0xFD))], 0)
  else readShifted codePage932Cell? b rest

/-- The rows of the second plane that follow the ninety-four rows of the first. -/
def secondPlaneRows : List Nat := [1, 8, 3, 4, 5, 12, 13, 14, 15] ++ List.range' 78 17

/-- The text in a cell of the shifted charset for both planes. Two signs of ASCII have their places among
those of full width. -/
def shiftedExtendedCell? (edition : Edition) (row cell : Nat) : Option (List Char) :=
  if row = 1 && cell = 32 then some ['\\']
  else if row = 2 && cell = 18 then some ['~']
  else if row ≤ 94 then firstPlane? edition row cell
  else secondPlaneRows[row - 95]?.bind fun row => secondPlane? edition row cell

/-- Read a character of the shifted charset for both planes. -/
def readShiftedExtended (edition : Edition) (b : UInt8) (rest : Bytes) : Option (List Char × Nat) :=
  if b < 0x80 then some ([roman b], 0) else readShifted (shiftedExtendedCell? edition) b rest

/-- Read a byte of ASCII, a syllable of half width, a text of the first plane or one after a mark. -/
def readUpper (plane? marked? : Nat → Nat → Option (List Char)) (b : UInt8) (rest : Bytes) :
    Option (List Char × Nat) :=
  if b < 0x80 then some ([Char.ofNat b.toNat], 0)
  else if b = 0x8E then
    match rest with
    | trail :: _ => (halfWidth? trail).map fun c => ([c], 1)
    | [] => none
  else if b = 0x8F then
    match rest with
    | lead :: trail :: _ =>
      if lead < 0xA1 || trail < 0xA1 then none
      else (marked? (lead.toNat - 0xA0) (trail.toNat - 0xA0)).map fun text => (text, 2)
    | _ => none
  else
    match rest with
    | trail :: _ =>
      if b < 0xA1 || trail < 0xA1 then none
      else (plane? (b.toNat - 0xA0) (trail.toNat - 0xA0)).map fun text => (text, 1)
    | [] => none

/-- The character in a cell of JIS X 0208, as a text. -/
def jisX0208? (row cell : Nat) : Option (List Char) :=
  (Grid.jisX0208.get? row cell).map fun c => [c]

/-- The character in a cell of JIS X 0212, as a text. -/
def jisX0212? (row cell : Nat) : Option (List Char) :=
  (Grid.jisX0212.get? row cell).map fun c => [c]

/-- The text after a mark where both planes are known: of the second plane, or of JIS X 0212, with which it
shares no cell. -/
def markedExtended? (edition : Edition) (row cell : Nat) : Option (List Char) :=
  secondPlane? edition row cell <|> jisX0212? row cell

/-- Read a text. -/
def read : Japanese → Bytes → Except Defect (List Char)
  | shifted => readEach (readShifted jisX0208?)
  | codePage932 => readEach readCodePage932
  | shiftedExtended edition => readEach (readShiftedExtended edition)
  | upper => readEach (readUpper jisX0208? jisX0212?)
  | upperExtended edition => readEach (readUpper (firstPlane? edition) (markedExtended? edition))

end Japanese

end ConfigGate.Text.Charset
