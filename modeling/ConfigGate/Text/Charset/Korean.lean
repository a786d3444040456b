import ConfigGate.Text.Charset.Korean.KsX1001

/-! Charsets for Korean. A syllable is made up of an initial, a medial and perhaps a final letter, and the
syllables have their code points in the order of these. -/
namespace ConfigGate.Text.Charset

/-- The letters that a syllable can begin with. -/
def initialLetters : List Char := "ㄱㄲㄴㄷㄸㄹㅁㅂㅃㅅㅆㅇㅈㅉㅊㅋㅌㅍㅎ".toList

/-- The vowels. -/
def medialLetters : List Char := "ㅏㅐㅑㅒㅓㅔㅕㅖㅗㅘㅙㅚㅛㅜㅝㅞㅟㅠㅡㅢㅣ".toList

/-- The letters that a syllable can end with. -/
def finalLetters : List Char := "ㄱㄲㄳㄴㄵㄶㄷㄹㄺㄻㄼㄽㄾㄿㅀㅁㅂㅄㅅㅆㅇㅈㅊㅋㅌㅍㅎ".toList

/-- The letter that stands where there is none. -/
def fillerLetter : Char := '\u3164'

/-- The syllable of three letters, of which the last may be the filler. -/
def syllable? (initial medial final : Char) : Option Char := do
  let initial ← initialLetters.idxOf? initial
  let medial ← medialLetters.idxOf? medial
  let final ← (fillerLetter :: finalLetters).idxOf? final
  some (Char.ofNat (0xAC00 + (initial * 21 + medial) * 28 + final))

/-- The charsets for Korean. -/
inductive Korean where
  /-- The charset of KS X 1001, in which syllables that it lacks are spelt out. -/
  | spelt
  /-- KS X 1001 and the other syllables in the order of their code points. -/
  | unified
  /-- Five bits for each letter of a syllable. -/
  | composed
deriving DecidableEq, Repr

namespace Korean

/-- The character of KS X 1001 at two bytes. -/
def ksX1001? (lead trail : UInt8) : Option Char :=
  if lead < 0xA1 || trail < 0xA1 then none
  else Grid.ksX1001.get? (lead.toNat - 0xA0) (trail.toNat - 0xA0)

/-- A character, or a syllable that is spelt out: the filler and three letters, each of two bytes. -/
def readSpelt (b : UInt8) (rest : Bytes) : Option (List Char × Nat) :=
  match b, rest with
  | 0xA4, 0xD4 :: more =>
    match more with
    | 0xA4 :: initial :: 0xA4 :: medial :: 0xA4 :: final :: _ => do
      let initial ← ksX1001? 0xA4 initial
      let medial ← ksX1001? 0xA4 medial
      let final ← ksX1001? 0xA4 final
      (syllable? initial medial final).map fun c => ([c], 7)
    | _ => none
  | _, _ => readPair ksX1001? b rest

/-- The syllables that KS X 1001 does not have. -/
def furtherSyllables : Array Char :=
  (remaining Grid.ksX1001.characters 0xAC00 0xD7A4).toArray

/-- The place of a byte among the letters and the upper half, from which the second byte of a further
syllable comes. -/
def place? (trail : UInt8) : Option Nat :=
  if 0x41 ≤ trail && trail ≤ 0x5A then some (trail.toNat - 0x41)
  else if 0x61 ≤ trail && trail ≤ 0x7A then some (trail.toNat - 0x61 + 26)
  else if 0x81 ≤ trail && trail ≤ 0xFE then some (trail.toNat - 0x81 + 52)
  else none

/-- The syllable that lies before the rows of KS X 1001 or beside them. -/
def furtherSyllable? (lead trail : UInt8) : Option Char := do
  let place ← place? trail
  if 0x81 ≤ lead && lead ≤ 0xA0 then furtherSyllables[(lead.toNat - 0x81) * 178 + place]?
  else if 0xA1 ≤ lead && place < 84 then
    furtherSyllables[32 * 178 + (lead.toNat - 0xA1) * 84 + place]?
  else none

/-- The character at two bytes where all syllables have pairs of their own. -/
def unified? (lead trail : UInt8) : Option Char :=
  ksX1001? lead trail <|> furtherSyllable? lead trail

/-- The letters of one place in a syllable by their five bits, of which some numbers are left out. -/
def letterOf? (letters : List Char) (numbers skipped : List Nat) (number : Nat) : Option Char :=
  ((numbers.filter (!skipped.contains ·)).zip letters).lookup number

def initialOf? : Nat → Option Char :=
  letterOf? (fillerLetter :: initialLetters) (List.range' 1 20) []

def medialOf? : Nat → Option Char :=
  letterOf? (fillerLetter :: medialLetters) (List.range' 2 28) [8, 9, 16, 17, 24, 25]

def finalOf? : Nat → Option Char :=
  letterOf? (fillerLetter :: finalLetters) (List.range' 1 29) [18]

/-- A syllable in fifteen bits, or a letter alone beside two fillers. -/
def composedSyllable? (lead trail : UInt8) : Option Char := do
  let bits := lead.toNat * 0x100 + trail.toNat
  let initial ← initialOf? (bits / 0x400 % 32)
  let medial ← medialOf? (bits / 32 % 32)
  let final ← finalOf? (bits % 32)
  if initial = fillerLetter then
    if medial = fillerLetter then some (if final = fillerLetter then '\u3000' else final)
    else if final = fillerLetter then some medial
    else none
  else if medial = fillerLetter then if final = fillerLetter then some initial else none
  else syllable? initial medial final

/-- The signs and the ideographs of KS X 1001, of which each first byte covers two rows. The letters have
their places among the syllables. -/
def composedSign? (lead trail : UInt8) : Option Char := do
  let half ← if 0xD9 ≤ lead && lead ≤ 0xDE then some (lead.toNat - 0xD9)
    else if 0xE0 ≤ lead && lead ≤ 0xF9 then some (lead.toNat - 0xE0)
    else none
  let place ← if 0x31 ≤ trail && trail ≤ 0x7E then some (trail.toNat - 0x31)
    else if 0x91 ≤ trail && trail ≤ 0xFE then some (trail.toNat - 0x43)
    else none
  let first := if lead < 0xE0 then 1 else 42
  if lead = 0xDA && 0xA1 ≤ trail && trail ≤ 0xD3 then none
  else Grid.ksX1001.get? (first + 2 * half + place / 94) (place % 94 + 1)

/-- The character at two bytes where syllables are made up of bits. -/
def composed? (lead trail : UInt8) : Option Char :=
  if lead < 0xD8 then composedSyllable? lead trail else composedSign? lead trail

/-- Read a text. -/
def read : Korean → Bytes → Except Defect (List Char)
  | spelt => readEach readSpelt
  | unified => readEach (readPair unified?)
  | composed => readEach (readPair composed?)

end Korean

end ConfigGate.Text.Charset
