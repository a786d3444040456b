import ConfigGate.Text.Charset.Chinese.Big5
import ConfigGate.Text.Charset.Chinese.Gb2312
import ConfigGate.Text.Charset.Chinese.Gbk
import ConfigGate.Text.Charset.Chinese.HongKong

/-! Charsets for Chinese. GBK has the characters of GB 2312 and, in the order of their code points, the
ideographs that it lacks. GB 18030 has all characters: those that take four bytes are again in the order of
their code points. -/
namespace ConfigGate.Text.Charset

/-- The charsets for Chinese. -/
inductive Chinese where
  | gb2312
  | gbk
  | gb18030
  /-- GB 2312 in bytes of ASCII, between braces that follow tildes. -/
  | tildes
  | big5
  | codePage950
  | hongKong
deriving DecidableEq, Repr

namespace Chinese

/-- The character of GB 2312 at two bytes. -/
def gb2312? (lead trail : UInt8) : Option Char :=
  if lead < 0xA1 || trail < 0xA1 then none
  else Grid.gb2312.get? (lead.toNat - 0xA0) (trail.toNat - 0xA0)

/-- The place of a byte among those that can be the second one of a pair in GBK. -/
def place? (trail : UInt8) : Option Nat :=
  if 0x40 ≤ trail && trail ≤ 0x7E then some (trail.toNat - 0x40)
  else if 0x80 ≤ trail && trail ≤ 0xFE then some (trail.toNat - 0x41)
  else none

/-- The first block of ideographs without those of GB 2312, and a few that have two code points. -/
def furtherIdeographs : Array Char :=
  let common := Grid.characters (Grid.gb2312.filter (16 ≤ ·.row))
  let doubled := "\uf92c\uf979\uf995\uf9e7\uf9f1\ufa0c\ufa0d\ufa0e\ufa0f\ufa11\ufa13\ufa14\ufa18" ++
    "\ufa1f\ufa20\ufa21\ufa23\ufa24\ufa27\ufa28\ufa29"
  (remaining common 0x4E00 0x9FA6 ++ doubled.toList).toArray

/-- The ideograph that lies before the rows of GB 2312 or beside them. -/
def furtherIdeograph? (lead trail : UInt8) : Option Char := do
  let place ← place? trail
  if 0x81 ≤ lead && lead ≤ 0xA0 then furtherIdeographs[(lead.toNat - 0x81) * 190 + place]?
  else if 0xAA ≤ lead && place < 96 then
    furtherIdeographs[32 * 190 + (lead.toNat - 0xAA) * 96 + place]?
  else none

/-- The character of GBK at two bytes. It differs from GB 2312 at two signs. -/
def gbk? (lead trail : UInt8) : Option Char :=
  if lead = 0xA1 && trail = 0xA4 then some '·'
  else if lead = 0xA1 && trail = 0xAA then some '—'
  else gb2312? lead trail <|> Grid.gbkSigns.get? lead.toNat trail.toNat <|>
    furtherIdeograph? lead trail

/-- The code point in one of the three areas that GB 18030 leaves to its users. -/
def userDefined? (lead trail : UInt8) : Option Nat := do
  let place ← place? trail
  if 0xAA ≤ lead && lead ≤ 0xAF && 96 ≤ place then
    some (0xE000 + (lead.toNat - 0xAA) * 94 + (place - 96))
  else if 0xF8 ≤ lead && lead ≤ 0xFE && 96 ≤ place then
    some (0xE234 + (lead.toNat - 0xF8) * 94 + (place - 96))
  else if 0xA1 ≤ lead && lead ≤ 0xA7 && place < 96 then
    some (0xE4C6 + (lead.toNat - 0xA1) * 96 + place)
  else none

/-- The pairs of bytes that neither GBK nor the users of GB 18030 have. -/
def freePairs : List (UInt8 × UInt8) :=
  let leads : List UInt8 := [0xA2, 0xA3, 0xA4, 0xA5, 0xA6, 0xA7, 0xA8, 0xA9, 0xD7, 0xFE]
  let trails := (List.range' 0x40 0xBF).map UInt8.ofNat |>.filter (place? · |>.isSome)
  leads.flatMap fun lead =>
    (trails.map fun trail => (lead, trail)).filter fun (lead, trail) =>
      (userDefined? lead trail).isNone && (gbk? lead trail).isNone

/-- The character at a code point for private use, which may have been given another one since. -/
def privateUse (code : Nat) : Char :=
  (Grid.reassigned.get? (code / 0x100) (code % 0x100)).getD (Char.ofNat code)

/-- The character of GB 18030 at two bytes. -/
def gb18030? (lead trail : UInt8) : Option Char :=
  gbk? lead trail <|> (userDefined? lead trail).map Char.ofNat <|>
    (freePairs.idxOf? (lead, trail)).map fun place => privateUse (0xE766 + place)

/-- The characters up to U+FFFF that take four bytes in GB 18030: all that do not take one or two. -/
def fourByteCharacters : Array Char :=
  let pairs := '·' :: '—' :: Grid.gb2312.characters.erase '・' ++ Grid.gbkSigns.characters ++
    furtherIdeographs.toList ++ (List.range' 0xE000 0x865).map privateUse
  (remaining pairs 0x80 0x10000).toArray

/-- The character of GB 18030 at four bytes, of which the second is a digit. -/
def fourBytes? (a b c d : UInt8) : Option Char :=
  if a < 0x81 || a = 0xFF || c < 0x81 || c = 0xFF || d < 0x30 || 0x39 < d then none
  else
    let tail := ((b.toNat - 0x30) * 126 + (c.toNat - 0x81)) * 10 + (d.toNat - 0x30)
    if a < 0x85 then fourByteCharacters[(a.toNat - 0x81) * 12600 + tail]?
    else if a < 0x90 then none
    else
      let code := 0x10000 + (a.toNat - 0x90) * 12600 + tail
      if code < 0x110000 then some (Char.ofNat code) else none

/-- Read a character of GB 18030. -/
def readGb18030 (b : UInt8) (rest : Bytes) : Option (List Char × Nat) :=
  match rest with
  | digit :: more =>
    if 0x80 ≤ b && 0x30 ≤ digit && digit ≤ 0x39 then
      match more with
      | c :: d :: _ => (fourBytes? b digit c d).map fun character => ([character], 3)
      | _ => none
    else readPair gb18030? b rest
  | [] => readPair gb18030? b rest

/-- Read what a text with tildes begins with, outside of the braces or inside of them. A tilde before the
end of a line joins it to the next. -/
def readTildes (isInside : Bool) (b : UInt8) (rest : Bytes) : Except Defect (Step Bool) :=
  if b = 0x7E then
    match isInside, rest with
    | false, 0x7E :: _ => .ok ⟨false, ['~'], 1⟩
    | false, 0x7B :: _ => .ok ⟨true, [], 1⟩
    | false, 0x0A :: _ => .ok ⟨false, [], 1⟩
    | true, 0x7D :: _ => .ok ⟨false, [], 1⟩
    | _, _ => .error .malformed
  else if 0x80 ≤ b then .error .malformed
  else if isInside then
    match rest with
    | [] => .error .malformed
    | trail :: _ =>
      match gb2312? (b + 0x80) (trail + 0x80) with
      | some c => .ok ⟨true, [c], 1⟩
      | none => .error .malformed
  else .ok ⟨false, [Char.ofNat b.toNat], 0⟩

/-- The character of Big5 at two bytes. -/
def big5? (lead trail : UInt8) : Option Char := Grid.big5.get? lead.toNat trail.toNat

/-- The character of code page 950 at two bytes. -/
def codePage950? (lead trail : UInt8) : Option Char :=
  Grid.codePage950.get? lead.toNat trail.toNat <|> big5? lead trail

/-- The text that stands for two bytes in Hong Kong. Big5 is not used in the area from C6A1 to C8FE, and
four letters have two marks. -/
def hongKong? (lead trail : UInt8) : Option (List Char) :=
  let pair := lead.toNat * 0x100 + trail.toNat
  if pair = 0x8862 then some ['Ê', '\u0304']
  else if pair = 0x8864 then some ['Ê', '\u030c']
  else if pair = 0x88A3 then some ['ê', '\u0304']
  else if pair = 0x88A5 then some ['ê', '\u030c']
  else
    let own := Grid.hongKong.get? lead.toNat trail.toNat
    (if 0xC6A1 ≤ pair && pair < 0xC900 then own else own <|> big5? lead trail).map fun c => [c]

/-- Read a text of one character or of a letter with its mark. -/
def readHongKong (b : UInt8) (rest : Bytes) : Option (List Char × Nat) :=
  if b < 0x80 then some ([Char.ofNat b.toNat], 0)
  else match rest with
    | trail :: _ => (hongKong? b trail).map fun text => (text, 1)
    | [] => none

/-- Read a text. -/
def read : Chinese → Bytes → Except Defect (List Char)
  | gb2312 => readEach (readPair gb2312?)
  | gbk => readEach (readPair gbk?)
  | gb18030 => readEach readGb18030
  | tildes => readSteps readTildes false []
  | big5 => readEach (readPair big5?)
  | codePage950 => readEach (readPair codePage950?)
  | hongKong => readEach readHongKong

end Chinese

end ConfigGate.Text.Charset
