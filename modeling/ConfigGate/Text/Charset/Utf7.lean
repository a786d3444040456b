import ConfigGate.Text.Charset.Wide

/-! The charset that shifts between ASCII and stretches in base 64, which hold units of two bytes. A plus
sign begins a stretch, and a character that is no digit of the base ends it. -/
namespace ConfigGate.Text.Charset.Utf7

/-- The value of a digit in base 64. -/
def digit? (b : UInt8) : Option Nat :=
  if 0x41 ≤ b && b ≤ 0x5A then some (b.toNat - 0x41)
  else if 0x61 ≤ b && b ≤ 0x7A then some (b.toNat - 0x61 + 26)
  else if 0x30 ≤ b && b ≤ 0x39 then some (b.toNat - 0x30 + 52)
  else if b = 0x2B then some 62
  else if b = 0x2F then some 63
  else none

/-- What has been read in a stretch and is no unit yet. -/
structure Shift where
  /-- The number of bits that are left over, and the number that they make up. -/
  bits : Nat
  pending : Nat
  /-- A high surrogate that waits for a low one. -/
  surrogate : Option Nat

namespace Shift

def empty : Shift := ⟨0, 0, none⟩

/-- The bits that are left over only fill up the last digit. -/
def isPadding (shift : Shift) : Bool := shift.bits < 6 && shift.pending = 0

/-- Take a unit in. A surrogate that is alone is replaced. -/
def unit (shift : Shift) (unit : Nat) (found : List Char) : Shift × List Char :=
  match shift.surrogate with
  | some high =>
    if isLowSurrogate unit then ({ shift with surrogate := none }, joinSurrogates high unit :: found)
    else if isHighSurrogate unit then
      ({ shift with surrogate := some unit }, character high :: found)
    else ({ shift with surrogate := none }, character unit :: character high :: found)
  | none =>
    if isHighSurrogate unit then ({ shift with surrogate := some unit }, found)
    else (shift, character unit :: found)

/-- Take a digit in. -/
def digit (shift : Shift) (value : Nat) (found : List Char) : Shift × List Char :=
  let bits := shift.bits + 6
  let pending := shift.pending * 64 + value
  if bits < 16 then ({ shift with bits, pending }, found)
  else
    let divisor := Nat.pow 2 (bits - 16)
    ({ shift with bits := bits - 16, pending := pending % divisor } : Shift).unit
      (pending / divisor) found

end Shift

def isAscii (b : UInt8) : Bool := b < 0x80

/-- Read a byte outside of the stretches, or the plus sign that begins one. A plus sign and a hyphen
stand for a plus sign. -/
def readPlain (found : List Char) (b : UInt8) (rest : Bytes) :
    Except Defect (Option Shift × List Char × Bytes) :=
  if b = 0x2B then
    match rest with
    | 0x2D :: rest => .ok (none, '+' :: found, rest)
    | next :: _ =>
      if (digit? next).isSome then .ok (some .empty, found, rest) else .error .malformed
    | [] => .ok (some .empty, found, [])
  else if isAscii b then .ok (none, Char.ofNat b.toNat :: found, rest)
  else .error .malformed

theorem length_le_of_readPlain {found found' : List Char} {b : UInt8} {rest rest' : Bytes}
    {shift : Option Shift} (h : readPlain found b rest = .ok (shift, found', rest')) :
    rest'.length ≤ rest.length := by
  unfold readPlain at h
  split at h
  · split at h
    · simp only [Except.ok.injEq, Prod.mk.injEq] at h
      simp [← h.2.2]
    · split at h
      · simp only [Except.ok.injEq, Prod.mk.injEq] at h
        simp [← h.2.2]
      · cases h
    · simp only [Except.ok.injEq, Prod.mk.injEq] at h
      simp [← h.2.2]
  · split at h
    · simp only [Except.ok.injEq, Prod.mk.injEq] at h
      simp [← h.2.2]
    · cases h

/-- Read the bytes in or outside of a stretch. A stretch must not end in the middle of a unit. A hyphen
at its end is not part of the text. -/
def readFrom (shift : Option Shift) (found : List Char) (bytes : Bytes) :
    Except Defect (List Char) :=
  match shift, bytes with
  | none, [] => .ok found.reverse
  | some shift, [] =>
    if shift.isPadding && shift.surrogate.isNone then .ok found.reverse else .error .malformed
  | none, b :: rest =>
    match _h : readPlain found b rest with
    | .error defect => .error defect
    | .ok (shift, found, rest) => readFrom shift found rest
  | some shift, b :: rest =>
    match digit? b with
    | some value =>
      let (shift, found) := shift.digit value found
      readFrom (some shift) found rest
    | none =>
      if !shift.isPadding then .error .malformed
      else
        let found :=
          match shift.surrogate with
          | some high => if isAscii b then character high :: found else found
          | none => found
        if b = 0x2D then readFrom none found rest
        else
          match _h : readPlain found b rest with
          | .error defect => .error defect
          | .ok (shift, found, rest) => readFrom shift found rest
termination_by bytes.length
decreasing_by
  · have := length_le_of_readPlain _h
    simp only [List.length_cons]
    omega
  · simp
  · simp
  · have := length_le_of_readPlain _h
    simp only [List.length_cons]
    omega

def read (bytes : Bytes) : Except Defect (List Char) :=
  readFrom none [] bytes

end ConfigGate.Text.Charset.Utf7
