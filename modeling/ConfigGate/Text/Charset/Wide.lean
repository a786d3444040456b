import ConfigGate.Text.Charset.Basic

/-! Charsets whose units are two or four bytes wide. A text may begin with a mark that tells the order
of the bytes of a unit. -/
namespace ConfigGate.Text.Charset

/-- Which byte of a unit comes first: the least significant one, or the most significant one. -/
inductive ByteOrder where
  | little
  | big
deriving DecidableEq, Repr

/-- The number that two bytes stand for. -/
def ByteOrder.unit (order : ByteOrder) (a b : UInt8) : Nat :=
  match order with
  | .little => b.toNat * 0x100 + a.toNat
  | .big => a.toNat * 0x100 + b.toNat

/-- The number that four bytes stand for. -/
def ByteOrder.wideUnit (order : ByteOrder) (a b c d : UInt8) : Nat :=
  match order with
  | .little => order.unit c d * 0x10000 + order.unit a b
  | .big => order.unit a b * 0x10000 + order.unit c d

def isHighSurrogate (unit : Nat) : Bool := 0xD800 ≤ unit && unit < 0xDC00

def isLowSurrogate (unit : Nat) : Bool := 0xDC00 ≤ unit && unit < 0xE000

/-- The character that two surrogates make up. -/
def joinSurrogates (high low : Nat) : Char :=
  Char.ofNat (0x10000 + (high - 0xD800) * 0x400 + (low - 0xDC00))

namespace Utf16

/-- Read units of two bytes. Surrogates stand for something only in pairs. `found` holds the
characters so far, latest first. -/
def readUnits (order : ByteOrder) : (found : List Char) → Bytes → Except Defect (List Char)
  | found, [] => .ok found.reverse
  | _, [_] => .error .malformed
  | found, a :: b :: rest =>
    let unit := order.unit a b
    if isHighSurrogate unit then
      match rest with
      | c :: d :: rest =>
        let next := order.unit c d
        if isLowSurrogate next then readUnits order (joinSurrogates unit next :: found) rest
        else .error .malformed
      | _ => .error .malformed
    else if isLowSurrogate unit then .error .malformed
    else readUnits order (Char.ofNat unit :: found) rest

/-- Read a text. Where the order is not known, a mark at the beginning tells it, and without a mark the
least significant byte comes first. -/
def read (order : Option ByteOrder) (bytes : Bytes) : Except Defect (List Char) :=
  match order, bytes with
  | some order, _ => readUnits order [] bytes
  | none, 0xFF :: 0xFE :: rest => readUnits .little [] rest
  | none, 0xFE :: 0xFF :: rest => readUnits .big [] rest
  | none, _ => readUnits .little [] bytes

end Utf16

namespace Utf32

/-- Read units of four bytes. -/
def readUnits (order : ByteOrder) : (found : List Char) → Bytes → Except Defect (List Char)
  | found, [] => .ok found.reverse
  | found, a :: b :: c :: d :: rest =>
    let unit := order.wideUnit a b c d
    if unit.isValidChar then readUnits order (Char.ofNat unit :: found) rest
    else .error .malformed
  | _, _ => .error .malformed

/-- Read a text. Where the order is not known, a mark at the beginning tells it, and without a mark the
least significant byte comes first. -/
def read (order : Option ByteOrder) (bytes : Bytes) : Except Defect (List Char) :=
  match order, bytes with
  | some order, _ => readUnits order [] bytes
  | none, 0xFF :: 0xFE :: 0 :: 0 :: rest => readUnits .little [] rest
  | none, 0 :: 0 :: 0xFE :: 0xFF :: rest => readUnits .big [] rest
  | none, _ => readUnits .little [] bytes

end Utf32

end ConfigGate.Text.Charset
