import ConfigGate.Text.Charset.Chinese
import ConfigGate.Text.Charset.Japanese
import ConfigGate.Text.Charset.Korean

/-! Charsets of seven bits in which escape sequences call for sets of characters. Up to three sets are at
hand: the one that plain bytes are taken from, one that is shifted to, and one for single characters. -/
namespace ConfigGate.Text.Charset

/-- A set of characters that can be called for. -/
inductive CharacterSet where
  | ascii
  /-- ASCII with a yen sign and an overline. -/
  | roman
  /-- Syllables of half width. -/
  | halfWidth
  /-- The accented letters of western Europe. -/
  | western
  | greek
  | gb2312
  | ksX1001
  | jisX0208
  | jisX0212
  | jisX0213First (edition : Edition)
  | jisX0213Second
deriving DecidableEq, Repr

namespace CharacterSet

/-- The character of a byte in the upper half of the Greek alphabet, as it first was. -/
def greek? (b : UInt8) : Option Char :=
  if b < 0xA0 then some (Char.ofNat b.toNat)
  else if b = 0xA1 then some '‘'
  else if b = 0xA2 then some '’'
  else if b = 0xAF then some '―'
  else if [0xA4, 0xA5, 0xAA, 0xAE, 0xD2, 0xFF].contains b then none
  else if b < 0xB4 || [0xB7, 0xBB, 0xBD].contains b then some (Char.ofNat b.toNat)
  else some (Char.ofNat (0x2D0 + b.toNat))

/-- What the bytes from `b` on stand for in a set, and how many of those after it belong to it. Sets for
single characters cannot be used for anything else. -/
def read (set : CharacterSet) (b : UInt8) (rest : Bytes) : Option (List Char × Nat) :=
  let wide (cell? : Nat → Nat → Option (List Char)) : Option (List Char × Nat) :=
    match rest with
    | [] => none
    | trail :: _ => (cell? (b.toNat - 0x20) (trail.toNat - 0x20)).map fun text => (text, 1)
  let grid (grid : Grid) := wide fun row cell => (grid.get? row cell).map fun c => [c]
  match set with
  | ascii => some ([Char.ofNat b.toNat], 0)
  | roman => some ([Japanese.roman b], 0)
  | halfWidth => (Japanese.halfWidth? (b + 0x80)).map fun c => ([c], 0)
  | western => none
  | greek => none
  | gb2312 => grid Grid.gb2312
  | ksX1001 => grid Grid.ksX1001
  | jisX0208 => grid Grid.jisX0208
  | jisX0212 => grid Grid.jisX0212
  | jisX0213First edition => wide fun row cell =>
    if row = 2 && cell = 18 then some ['~'] else Japanese.firstPlane? edition row cell
  | jisX0213Second => wide (Japanese.secondPlane? .second)

/-- The single character that a byte stands for in a set. Other sets than these three are not meant for
single characters. -/
def single (set : CharacterSet) (b : UInt8) : Except Defect Char :=
  match set with
  | ascii => if b < 0x80 then .ok (Char.ofNat b.toNat) else .error .malformed
  | western => if b < 0x80 then .ok (Char.ofNat (b.toNat + 0x80)) else .error .malformed
  | greek =>
    match greek? (b + 0x80) with
    | some c => .ok c
    | none => .error .malformed
  | _ => .error .refused

end CharacterSet

/-- How a set is called for: by the last byte of a sequence, which is another one for sets in which a
character takes two bytes. -/
structure Designation where
  isWide : Bool
  last : UInt8
  set : CharacterSet
deriving DecidableEq, Repr

/-- The charsets with escape sequences. -/
inductive Designated where
  | korean
  | japanese
  | japanese1
  | japanese2
  | japanese3
  | japanese2004
  | japaneseExtended
deriving DecidableEq, Repr

namespace Designated

/-- The call for JIS X 0208. -/
def jisX0208 : Designation := ⟨true, 0x42, .jisX0208⟩

/-- The call for the first edition of JIS X 0208. -/
def jisX0208Old : Designation := ⟨true, 0x40, .jisX0208⟩

def jisX0212 : Designation := ⟨true, 0x44, .jisX0212⟩

def roman : Designation := ⟨false, 0x4A, .roman⟩

def halfWidth : Designation := ⟨false, 0x49, .halfWidth⟩

def ksX1001 : Designation := ⟨true, 0x43, .ksX1001⟩

/-- The sets that a charset has apart from ASCII. -/
def designations : Designated → List Designation
  | korean => [ksX1001]
  | japanese => [jisX0208, roman, jisX0208Old]
  | japanese1 => [jisX0208, jisX0212, roman, jisX0208Old]
  | japanese2 => [jisX0208, jisX0212, ksX1001, ⟨true, 0x41, .gb2312⟩, roman, jisX0208Old,
      ⟨false, 0x41, .western⟩, ⟨false, 0x46, .greek⟩]
  | japanese3 => [jisX0208, ⟨true, 0x4F, .jisX0213First .first⟩, ⟨true, 0x50, .jisX0213Second⟩]
  | japanese2004 => [jisX0208, ⟨true, 0x51, .jisX0213First .second⟩, ⟨true, 0x50, .jisX0213Second⟩]
  | japaneseExtended => [jisX0208, jisX0212, roman, halfWidth, jisX0208Old]

/-- The set that a charset has under the last byte of a sequence. -/
def set? (charset : Designated) (isWide : Bool) (last : UInt8) : Option CharacterSet :=
  if !isWide && last = 0x42 then some .ascii
  else (charset.designations.find? fun d => d.isWide == isWide && d.last = last).map (·.set)

/-- The sets at hand, and how the next byte is taken. -/
structure State where
  plain : CharacterSet
  shifted : CharacterSet
  alone : CharacterSet
  isShifted : Bool
  /-- A sequence that calls for nothing has begun, and its bytes stand for themselves. -/
  isForeign : Bool
deriving DecidableEq, Repr

def State.initial : State := ⟨.ascii, .ascii, .ascii, false, false⟩

/-- The last byte of a sequence. -/
def isLast (b : UInt8) : Bool := 0x40 ≤ b && b ≤ 0x5A

/-- A call for a set, after the escape character: the state that follows, and the number of bytes. -/
def call? (charset : Designated) (state : State) : Bytes → Option (State × Nat)
  | 0x24 :: 0x28 :: last :: _ =>
    (charset.set? true last).map fun set => ({ state with plain := set }, 3)
  | 0x24 :: 0x29 :: last :: _ =>
    (charset.set? true last).map fun set => ({ state with shifted := set }, 3)
  | 0x24 :: last :: _ => (charset.set? true last).map fun set => ({ state with plain := set }, 2)
  | 0x28 :: last :: _ => (charset.set? false last).map fun set => ({ state with plain := set }, 2)
  | 0x29 :: last :: _ => (charset.set? false last).map fun set => ({ state with shifted := set }, 2)
  | 0x2E :: last :: _ =>
    if charset = japanese2 then
      (charset.set? false last).map fun set => ({ state with alone := set }, 2)
    else none
  | _ => none

/-- A call for the revised edition of JIS X 0208, after the escape character. It consists of two sequences, of
which the first says that it is the revised one. Any other one does that is not complete. -/
def revisedCall? (state : State) : Bytes → Option (State × Nat)
  | kind :: b :: 0x1B :: 0x24 :: 0x42 :: _ =>
    if !isLast b || (kind = 0x26 && b = 0x40) then some ({ state with plain := .jisX0208 }, 5)
    else none
  | _ => none

/-- Read what follows an escape character: a call, a single character, or a sequence that stands for
itself. -/
def readEscape (charset : Designated) (state : State) (rest : Bytes) : Except Defect (Step State) :=
  match rest with
  | [] => .error .malformed
  | kind :: more =>
    if [0x24, 0x26, 0x28, 0x29, 0x2E].contains kind then
      let revised? := if charset = korean then none else revisedCall? state rest
      match revised? <|> charset.call? state rest with
      | some (state, used) => .ok ⟨state, [], used⟩
      | none => .error .malformed
    else if charset = japanese2 && kind = 0x4E then
      match more with
      | [] => .error .malformed
      | b :: _ => (state.alone.single b).map fun c => ⟨state, [c], 2⟩
    else .ok ⟨{ state with isForeign := true }, ['\x1b'], 0⟩

/-- Read what a byte and those after it begin with. Only the Korean charset shifts, and the end of a line
ends what is shifted. -/
def next (charset : Designated) (state : State) (b : UInt8) (rest : Bytes) :
    Except Defect (Step State) :=
  let itself := [Char.ofNat b.toNat]
  if state.isForeign then .ok ⟨{ state with isForeign := !isLast b }, itself, 0⟩
  else if b = 0x1B then charset.readEscape state rest
  else if charset = korean && b = 0x0E then .ok ⟨{ state with isShifted := true }, [], 0⟩
  else if charset = korean && b = 0x0F then .ok ⟨{ state with isShifted := false }, [], 0⟩
  else if b = 0x0A then .ok ⟨{ state with isShifted := false }, itself, 0⟩
  else if b < 0x20 then .ok ⟨state, itself, 0⟩
  else if 0x80 ≤ b then .error .malformed
  else
    match (if state.isShifted then state.shifted else state.plain).read b rest with
    | some (text, used) => .ok ⟨state, text, used⟩
    | none => .error .malformed

/-- Read a text. -/
def read (charset : Designated) (bytes : Bytes) : Except Defect (List Char) :=
  readSteps charset.next State.initial [] bytes

end Designated

end ConfigGate.Text.Charset
