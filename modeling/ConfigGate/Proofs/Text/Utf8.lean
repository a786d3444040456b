import ConfigGate.Text.Utf8
import Mathlib.Algebra.GroupWithZero.Nat
import Mathlib.Tactic.SplitIfs

/-! The lossy reading of bytes and ASCII. A byte of ASCII is always read as its own character, whatever
stands before it, and no other bytes are read as one. A text is therefore cut at ASCII separators in the
same way before and after it is read. What has been encoded is read back without loss. -/
namespace ConfigGate.Text.Utf8

/-- The character that a piece is shown as. -/
def Piece.shown : Piece → Char
  | .char c => c
  | .malformed _ => '\uFFFD'

/-- What is shown of bytes that follow a character that has been begun. -/
def readLossy (pending : Option Pending) (bytes : Bytes) : List Char :=
  (bytes.foldl Decoder.step ⟨0, pending, []⟩).finish.map Piece.shown

theorem decodeLossy_eq (bytes : Bytes) : (decodeLossy bytes).toList = readLossy none bytes := by
  unfold decodeLossy readLossy pieces
  rw [String.toList_ofList]
  congr 1

/-- What is shown after one byte, and the character that has been begun then. -/
def shownAt (pending : Option Pending) (b : UInt8) : List Char :=
  ((Decoder.step ⟨0, pending, []⟩ b).pieces.map Piece.shown).reverse

def pendingAfter (pending : Option Pending) (b : UInt8) : Option Pending :=
  (Decoder.step ⟨0, pending, []⟩ b).pending

/-- What has been begun is no ASCII: its next byte is none, and neither is what it stands for. -/
structure Pending.IsWide (p : Pending) : Prop where
  missing : 1 ≤ p.missing
  lower : 0x80 ≤ p.lower.toNat
  code : 0x80 ≤ (p.code * 64 + (p.lower.toNat - 0x80)) * 64 ^ (p.missing - 1)

/-- What a first byte does, whatever stands before it. -/
inductive Begins (b : UInt8) : Prop
  /-- It is shown as a character of ASCII. -/
  | ascii (hAscii : b.toNat < 0x80) (h : ∀ d : Decoder,
      d.begin b = ⟨d.position + 1, none, .char (Char.ofNat b.toNat) :: d.pieces⟩)
  /-- It is shown as malformed. -/
  | malformed (hHigh : 0x80 ≤ b.toNat) (h : ∀ d : Decoder, d.begin b =
      ⟨d.position + 1, none, .malformed ⟨.startByte, b, d.position, 1⟩ :: d.pieces⟩)
  /-- It begins a wide character. -/
  | wide (p : Pending) (hHigh : 0x80 ≤ b.toNat) (hWide : p.IsWide) (h : ∀ d : Decoder,
      d.begin b = ⟨d.position + 1, some p, d.pieces⟩)

theorem begins (b : UInt8) : Begins b := by
  -- One case for each branch of the decoder.
  by_cases h1 : b.toNat < 0x80
  · refine .ascii h1 fun d => ?_
    unfold Decoder.begin
    dsimp only
    rw [if_pos h1]
  have hHigh : 0x80 ≤ b.toNat := by omega
  by_cases h2 : b.toNat < 0xC2
  · refine .malformed hHigh fun d => ?_
    unfold Decoder.begin
    dsimp only
    rw [if_neg h1, if_pos h2]
  have wide (code missing : Nat) (lower upper : UInt8) (hMissing : 1 ≤ missing)
      (hLower : 0x80 ≤ lower.toNat)
      (hCode : 0x80 ≤ (code * 64 + (lower.toNat - 0x80)) * 64 ^ (missing - 1))
      (h : ∀ d : Decoder, d.begin b =
        ⟨d.position + 1, some ⟨b, code, missing, lower, upper, 1⟩, d.pieces⟩) : Begins b :=
    .wide ⟨b, code, missing, lower, upper, 1⟩ hHigh ⟨hMissing, hLower, hCode⟩ h
  by_cases h3 : b.toNat < 0xE0
  · refine wide (b.toNat - 0xC0) 1 0x80 0xBF (by decide) (by decide) (by simp; omega) fun d => ?_
    unfold Decoder.begin
    dsimp only
    rw [if_neg h1, if_neg h2, if_pos h3]
  by_cases h4 : b.toNat = 0xE0
  · refine wide 0 2 0xA0 0xBF (by decide) (by decide) (by decide) fun d => ?_
    unfold Decoder.begin
    dsimp only
    rw [if_neg h1, if_neg h2, if_neg h3, if_pos h4]
  by_cases h5 : b.toNat = 0xED
  · refine wide 0xD 2 0x80 0x9F (by decide) (by decide) (by decide) fun d => ?_
    unfold Decoder.begin
    dsimp only
    rw [if_neg h1, if_neg h2, if_neg h3, if_neg h4, if_pos h5]
  by_cases h6 : b.toNat < 0xF0
  · refine wide (b.toNat - 0xE0) 2 0x80 0xBF (by decide) (by decide) (by simp; omega) fun d => ?_
    unfold Decoder.begin
    dsimp only
    rw [if_neg h1, if_neg h2, if_neg h3, if_neg h4, if_neg h5, if_pos h6]
  by_cases h7 : b.toNat = 0xF0
  · refine wide 0 3 0x90 0xBF (by decide) (by decide) (by decide) fun d => ?_
    unfold Decoder.begin
    dsimp only
    rw [if_neg h1, if_neg h2, if_neg h3, if_neg h4, if_neg h5, if_neg h6, if_pos h7]
  by_cases h8 : b.toNat < 0xF4
  · refine wide (b.toNat - 0xF0) 3 0x80 0xBF (by decide) (by decide) (by simp; omega) fun d => ?_
    unfold Decoder.begin
    dsimp only
    rw [if_neg h1, if_neg h2, if_neg h3, if_neg h4, if_neg h5, if_neg h6, if_neg h7, if_pos h8]
  by_cases h9 : b.toNat = 0xF4
  · refine wide 4 3 0x80 0x8F (by decide) (by decide) (by decide) fun d => ?_
    unfold Decoder.begin
    dsimp only
    rw [if_neg h1, if_neg h2, if_neg h3, if_neg h4, if_neg h5, if_neg h6, if_neg h7, if_neg h8, if_pos h9]
  refine .malformed hHigh fun d => ?_
  unfold Decoder.begin
  dsimp only
  rw [if_neg h1, if_neg h2, if_neg h3, if_neg h4, if_neg h5, if_neg h6, if_neg h7, if_neg h8, if_neg h9]

/-- Nothing that is shown depends on what has been read before the pending character. -/
theorem step_eq (d : Decoder) (b : UInt8) :
    (d.step b).pieces.map Piece.shown =
        (shownAt d.pending b).reverse ++ d.pieces.map Piece.shown ∧
      (d.step b).pending = pendingAfter d.pending b := by
  have hBegin (d : Decoder) :
      (d.begin b).pieces.map Piece.shown =
          (Decoder.begin ⟨0, none, []⟩ b).pieces.map Piece.shown ++ d.pieces.map Piece.shown ∧
        (d.begin b).pending = (Decoder.begin ⟨0, none, []⟩ b).pending := by
    obtain ⟨_, h⟩ | ⟨_, h⟩ | ⟨_, _, _, h⟩ := begins b <;> rw [h, h] <;> exact ⟨rfl, rfl⟩
  obtain ⟨position, pending, pieces⟩ := d
  unfold shownAt pendingAfter
  rw [List.reverse_reverse]
  cases pending with
  | none => exact hBegin ⟨position, none, pieces⟩
  | some p =>
      unfold Decoder.step
      dsimp only
      split
      · split <;> exact ⟨rfl, rfl⟩
      · have hBad (position : Nat) (pieces : List Piece) := hBegin ⟨position, none,
          .malformed ⟨.continuation, p.firstByte, position - p.width, p.width⟩ :: pieces⟩
        rw [(hBad position pieces).1, (hBad position pieces).2, (hBad 0 []).1, (hBad 0 []).2]
        simp [Piece.shown]

theorem foldl_step (bytes : Bytes) (d : Decoder) :
    (bytes.foldl Decoder.step d).finish.map Piece.shown =
      (d.pieces.map Piece.shown).reverse ++ readLossy d.pending bytes := by
  induction bytes generalizing d with
  | nil =>
      obtain ⟨position, pending, pieces⟩ := d
      cases pending <;> simp [readLossy, Decoder.finish, Piece.shown]
  | cons b rest ih =>
      obtain ⟨hPieces, hPending⟩ := step_eq d b
      have hRest : readLossy d.pending (b :: rest) =
          shownAt d.pending b ++ readLossy (pendingAfter d.pending b) rest :=
        ih (Decoder.step ⟨0, d.pending, []⟩ b)
      rw [List.foldl_cons, ih, hPieces, hPending, hRest]
      simp

@[simp] theorem readLossy_nil (pending : Option Pending) :
    readLossy pending [] = if pending.isSome then ['\uFFFD'] else [] := by
  cases pending <;> rfl

theorem readLossy_cons (pending : Option Pending) (b : UInt8) (rest : Bytes) :
    readLossy pending (b :: rest) =
      shownAt pending b ++ readLossy (pendingAfter pending b) rest := by
  rw [readLossy, List.foldl_cons, foldl_step]
  rfl

/-- A number is that of its character, or the character is the empty one. -/
theorem toNat_ofNat (n : Nat) : (Char.ofNat n).toNat = n ∨ (Char.ofNat n).toNat = 0 := by
  by_cases hValid : n.isValidChar
  · left
    rw [Char.ofNat, dif_pos hValid]
    rfl
  · right
    rw [Char.ofNat, dif_neg hValid]
    rfl

/-- A byte is the number of its character. -/
theorem toNat_byteChar (b : UInt8) : (Char.ofNat b.toNat).toNat = b.toNat := by
  have hValid : b.toNat.isValidChar := .inl (by have := b.toNat_lt; omega)
  rw [Char.ofNat, dif_pos hValid]
  rfl

theorem byteChar_inj {b b' : UInt8} (h : Char.ofNat b.toNat = Char.ofNat b'.toNat) : b = b' := by
  rw [← UInt8.toNat_inj, ← toNat_byteChar b, ← toNat_byteChar b', h]

namespace Pending.IsWide

variable {p : Pending} {b : UInt8}

/-- The last byte completes a character beyond ASCII, or the empty one if the code is none. -/
theorem char (hWide : p.IsWide) (hLower : p.lower.toNat ≤ b.toNat) (hLast : p.missing ≤ 1) :
    (Char.ofNat (p.code * 64 + (b.toNat - 0x80))).toNat = 0 ∨
      0x80 ≤ (Char.ofNat (p.code * 64 + (b.toNat - 0x80))).toNat := by
  have hCode := hWide.code
  rw [show p.missing - 1 = 0 by omega, Nat.pow_zero, Nat.mul_one] at hCode
  have hChar := toNat_ofNat (p.code * 64 + (b.toNat - 0x80))
  omega

/-- Any byte before the last one leaves the character wide. -/
theorem next (hWide : p.IsWide) (hLower : p.lower.toNat ≤ b.toNat) (hMore : ¬ p.missing ≤ 1) :
    Pending.IsWide ⟨p.firstByte, p.code * 64 + (b.toNat - 0x80), p.missing - 1, 0x80, 0xBF,
      p.width + 1⟩ where
  missing := by
    dsimp only
    omega
  lower := Nat.le_refl _
  code := by
    have hPower : 64 * 64 ^ (p.missing - 1 - 1) = 64 ^ (p.missing - 1) := by
      rw [← Nat.pow_succ', Nat.succ_eq_add_one, Nat.sub_add_cancel (by omega)]
    dsimp only
    rw [show (0x80 : UInt8).toNat - 0x80 = 0 from rfl, Nat.add_zero, Nat.mul_assoc, hPower]
    exact Nat.le_trans hWide.code (Nat.mul_le_mul_right _ (by omega))

end Pending.IsWide

/-- A byte of ASCII ends what has been begun and stands for itself. Any other byte shows no character of
ASCII, unless it is the empty one. -/
theorem shownAt_cases {pending : Option Pending} (hPending : ∀ p ∈ pending, p.IsWide) (b : UInt8) :
    (b.toNat < 0x80 ∧ pendingAfter pending b = none ∧
        shownAt pending b = readLossy pending [] ++ [Char.ofNat b.toNat]) ∨
      0x80 ≤ b.toNat ∧ (∀ p ∈ pendingAfter pending b, p.IsWide) ∧
        ∀ c ∈ shownAt pending b, c.toNat = 0 ∨ 0x80 ≤ c.toNat := by
  unfold shownAt pendingAfter
  cases pending with
  | none =>
      rw [show Decoder.step ⟨0, none, []⟩ b = Decoder.begin ⟨0, none, []⟩ b from rfl]
      obtain ⟨hAscii, h⟩ | ⟨hHigh, h⟩ | ⟨p, hHigh, hWide, h⟩ := begins b
      · rw [h]
        exact .inl ⟨hAscii, rfl, rfl⟩
      · rw [h]
        exact .inr ⟨hHigh, by simp, by simp [Piece.shown]⟩
      · rw [h]
        exact .inr ⟨hHigh, by simpa using hWide, by simp⟩
  | some p =>
      have hWide := hPending p rfl
      generalize hResult : Decoder.step ⟨0, some p, []⟩ b = result
      unfold Decoder.step at hResult
      dsimp only at hResult
      split at hResult
      · rename_i hBounds
        simp only [Bool.and_eq_true, decide_eq_true_eq, UInt8.le_iff_toNat_le] at hBounds
        have hHigh : 0x80 ≤ b.toNat := Nat.le_trans hWide.lower hBounds.1
        split at hResult
        · rename_i hLast
          subst hResult
          exact .inr ⟨hHigh, by simp, by simpa [Piece.shown] using hWide.char hBounds.1 hLast⟩
        · rename_i hMore
          subst hResult
          exact .inr ⟨hHigh, by simpa using hWide.next hBounds.1 hMore, by simp⟩
      · obtain ⟨hAscii, h⟩ | ⟨hHigh, h⟩ | ⟨p', hHigh, hWide', h⟩ := begins b
        · rw [h] at hResult
          subst hResult
          exact .inl ⟨hAscii, rfl, rfl⟩
        · rw [h] at hResult
          subst hResult
          exact .inr ⟨hHigh, by simp, by simp [Piece.shown]⟩
        · rw [h] at hResult
          subst hResult
          exact .inr ⟨hHigh, by simpa using hWide', by simp [Piece.shown]⟩

/-- A byte of ASCII cuts the text. -/
theorem readLossy_append {pending : Option Pending} (hPending : ∀ p ∈ pending, p.IsWide)
    (front : Bytes) {b : UInt8} (hAscii : b.toNat < 0x80) (back : Bytes) :
    readLossy pending (front ++ b :: back) =
      readLossy pending front ++ Char.ofNat b.toNat :: readLossy none back := by
  induction front generalizing pending with
  | nil =>
      rcases shownAt_cases hPending b with ⟨_, hAfter, hShown⟩ | ⟨hWide, _⟩
      · rw [List.nil_append, readLossy_cons, hAfter, hShown]
        simp
      · omega
  | cons first rest ih =>
      have hAfter : ∀ p ∈ pendingAfter pending first, p.IsWide := by
        rcases shownAt_cases hPending first with ⟨_, hNone, _⟩ | ⟨_, hWide, _⟩
        · simp [hNone]
        · exact hWide
      rw [List.cons_append, readLossy_cons, ih hAfter, readLossy_cons, List.append_assoc]

theorem decodeLossy_append (front : Bytes) {b : UInt8} (hAscii : b.toNat < 0x80) (back : Bytes) :
    (decodeLossy (front ++ b :: back)).toList =
      (decodeLossy front).toList ++ Char.ofNat b.toNat :: (decodeLossy back).toList := by
  simp only [decodeLossy_eq]
  exact readLossy_append (by simp) front hAscii back

/-- Bytes of ASCII are read one by one. -/
theorem decodeLossy_ascii_append {front : Bytes} (hAscii : ∀ b ∈ front, b.toNat < 0x80) (back : Bytes) :
    (decodeLossy (front ++ back)).toList =
      front.map (fun b => Char.ofNat b.toNat) ++ (decodeLossy back).toList := by
  induction front with
  | nil => rfl
  | cons b rest ih =>
      have hRest := ih fun b' hMem => hAscii b' (List.mem_cons_of_mem b hMem)
      have hFirst := decodeLossy_append [] (hAscii b (List.mem_cons_self)) (rest ++ back)
      rw [List.nil_append, hRest] at hFirst
      exact hFirst

/-- A character of ASCII is shown exactly if its byte is there. -/
theorem mem_decodeLossy {c : Char} (hPositive : 0 < c.toNat) (hAscii : c.toNat < 0x80) (bytes : Bytes) :
    c ∈ (decodeLossy bytes).toList ↔ UInt8.ofNat c.toNat ∈ bytes := by
  have hByte (b : UInt8) : c = Char.ofNat b.toNat ↔ UInt8.ofNat c.toNat = b := by
    constructor
    · intro hSame
      have hCode : c.toNat = b.toNat := by
        have := toNat_ofNat b.toNat
        rw [← hSame] at this
        omega
      rw [hCode, UInt8.ofNat_toNat]
    · rintro rfl
      rw [UInt8.toNat_ofNat_of_lt' (by simp [UInt8.size]; omega), Char.ofNat_toNat]
  have hMark : c ≠ '\uFFFD' := by
    rintro rfl
    exact absurd hAscii (by decide)
  suffices h : ∀ pending : Option Pending, (∀ p ∈ pending, p.IsWide) →
      (c ∈ readLossy pending bytes ↔ UInt8.ofNat c.toNat ∈ bytes) by
    rw [decodeLossy_eq]
    exact h none (by simp)
  induction bytes with
  | nil =>
      intro pending _
      cases pending <;> simp [hMark]
  | cons b rest ih =>
      intro pending hPending
      rw [readLossy_cons, List.mem_append, List.mem_cons]
      rcases shownAt_cases hPending b with ⟨_, hAfter, hShown⟩ | ⟨hWide, hAfter, hShown⟩
      · have hFirst : c ∈ shownAt pending b ↔ UInt8.ofNat c.toNat = b := by
          rw [hShown, List.mem_append, List.mem_singleton, hByte]
          cases pending <;> simp [hMark]
        rw [hFirst, hAfter, ih none (by simp)]
      · have hFirst : c ∉ shownAt pending b := by
          intro hMem
          have := hShown c hMem
          omega
        have hOther : UInt8.ofNat c.toNat ≠ b := by
          rintro rfl
          rw [UInt8.toNat_ofNat_of_lt' (by simp [UInt8.size]; omega)] at hWide
          omega
        simp [hFirst, hOther, ih _ hAfter]

/-- The text is cut at a separator where the bytes are. -/
theorem splitOn_decodeLossy {sep : UInt8} (hPositive : 0 < sep.toNat) (hAscii : sep.toNat < 0x80)
    (bytes : Bytes) :
    (decodeLossy bytes).toList.splitOn (Char.ofNat sep.toNat) =
      (bytes.splitOn sep).map fun piece => (decodeLossy piece).toList := by
  have hSep := toNat_byteChar sep
  have hNone {bytes : Bytes} (h : sep ∉ bytes) :
      Char.ofNat sep.toNat ∉ (decodeLossy bytes).toList := by
    rwa [mem_decodeLossy (by omega) (by omega), hSep, UInt8.ofNat_toNat]
  -- On the bytes that follow the first separator.
  induction hSize : bytes.length using Nat.strongRecOn generalizing bytes with
  | ind size ih =>
      by_cases hMem : sep ∈ bytes
      · obtain ⟨front, back, rfl, hFront⟩ := List.eq_append_cons_of_mem hMem
        have hBack := ih back.length (by simp at hSize; omega) back rfl
        rw [decodeLossy_append front hAscii, List.splitOn_append_cons_self,
          List.splitOn_append_cons_self, List.map_append, hBack,
          List.splitOn_eq_singleton (hNone hFront), List.splitOn_eq_singleton hFront]
        rfl
      · rw [List.splitOn_eq_singleton (hNone hMem), List.splitOn_eq_singleton hMem]
        rfl

/-! Reading back what has been encoded -/

/-- The byte may follow the first one of a character. -/
def IsTail (b : UInt8) : Prop := 0x80 ≤ b.toNat ∧ b.toNat ≤ 0xBF

/-- The bytes are read as one character, whatever has been read before. -/
def ReadsAs (bytes : Bytes) (c : Char) : Prop :=
  ∀ position found, bytes.foldl Decoder.step ⟨position, none, found⟩ =
    ⟨position + bytes.length, none, .char c :: found⟩

/-- The bytes complete what has been begun to one character. -/
def Completes (p : Pending) (bytes : Bytes) (c : Char) : Prop :=
  ∀ position found, bytes.foldl Decoder.step ⟨position, some p, found⟩ =
    ⟨position + bytes.length, none, .char c :: found⟩

section

variable {p : Pending} {a b c d : UInt8}

/-- A byte within the bounds of the character that has been begun continues it. -/
theorem step_continue (h : p.lower.toNat ≤ b.toNat ∧ b.toNat ≤ p.upper.toNat) (position : Nat) (found : List Piece) :
    Decoder.step ⟨position, some p, found⟩ b =
      if p.missing ≤ 1 then ⟨position + 1, none, .char (Char.ofNat (p.code * 64 + (b.toNat - 0x80))) :: found⟩
      else ⟨position + 1, some ⟨p.firstByte, p.code * 64 + (b.toNat - 0x80), p.missing - 1, 0x80, 0xBF,
        p.width + 1⟩, found⟩ := by
  have hBounds : (p.lower ≤ b && b ≤ p.upper) = true := by
    simp [UInt8.le_iff_toNat_le, h.1, h.2]
  unfold Decoder.step
  simp only [hBounds, if_true]

theorem completes_one (hMissing : p.missing = 1) (hb : p.lower.toNat ≤ b.toNat ∧ b.toNat ≤ p.upper.toNat) :
    Completes p [b] (Char.ofNat (p.code * 64 + (b.toNat - 0x80))) := by
  intro position found
  rw [List.foldl_cons, step_continue hb, if_pos (by omega)]
  rfl

theorem Completes.cons {char : Char} {rest : Bytes} (hMissing : 2 ≤ p.missing)
    (hb : p.lower.toNat ≤ b.toNat ∧ b.toNat ≤ p.upper.toNat)
    (h : Completes ⟨p.firstByte, p.code * 64 + (b.toNat - 0x80), p.missing - 1, 0x80, 0xBF, p.width + 1⟩ rest char) :
    Completes p (b :: rest) char := by
  intro position found
  rw [List.foldl_cons, step_continue hb, if_neg (by omega), h, List.length_cons, Nat.add_right_comm, Nat.add_assoc]

theorem completes_two (hMissing : p.missing = 2)
    (hb : p.lower.toNat ≤ b.toNat ∧ b.toNat ≤ p.upper.toNat) (hc : IsTail c) :
    Completes p [b, c] (Char.ofNat ((p.code * 64 + (b.toNat - 0x80)) * 64 + (c.toNat - 0x80))) := by
  refine .cons (by omega) hb (completes_one ?_ ?_)
  · simp [hMissing]
  · exact hc

theorem completes_three (hMissing : p.missing = 3)
    (hb : p.lower.toNat ≤ b.toNat ∧ b.toNat ≤ p.upper.toNat) (hc : IsTail c) (hd : IsTail d) :
    Completes p [b, c, d]
      (Char.ofNat (((p.code * 64 + (b.toNat - 0x80)) * 64 + (c.toNat - 0x80)) * 64 + (d.toNat - 0x80))) := by
  refine .cons (by omega) hb (completes_two ?_ ?_ hd)
  · simp [hMissing]
  · exact hc

theorem foldl_step_of_begin {char : Char} {rest : Bytes} {position : Nat} {found : List Piece}
    (hBegin : Decoder.begin ⟨position, none, found⟩ a = ⟨position + 1, some p, found⟩) (h : Completes p rest char) :
    (a :: rest).foldl Decoder.step ⟨position, none, found⟩ =
      ⟨position + (a :: rest).length, none, .char char :: found⟩ := by
  have hStep : Decoder.step ⟨position, none, found⟩ a = ⟨position + 1, some p, found⟩ := hBegin
  rw [List.foldl_cons, hStep, h, List.length_cons, Nat.add_right_comm, Nat.add_assoc]

theorem readsAs_one (ha : a.toNat < 0x80) : ReadsAs [a] (Char.ofNat a.toNat) := by
  intro position found
  have hBegin : Decoder.begin ⟨position, none, found⟩ a = ⟨position + 1, none, .char (Char.ofNat a.toNat) :: found⟩ := by
    unfold Decoder.begin
    dsimp only
    rw [if_pos ha]
  exact hBegin

theorem readsAs_two (ha : 0xC2 ≤ a.toNat ∧ a.toNat < 0xE0) (hb : IsTail b) :
    ReadsAs [a, b] (Char.ofNat ((a.toNat - 0xC0) * 64 + (b.toNat - 0x80))) := by
  intro position found
  have hBegin : Decoder.begin ⟨position, none, found⟩ a =
      ⟨position + 1, some ⟨a, a.toNat - 0xC0, 1, 0x80, 0xBF, 1⟩, found⟩ := by
    unfold Decoder.begin
    dsimp only
    rw [if_neg (by omega), if_neg (by omega), if_pos ha.2]
  exact foldl_step_of_begin hBegin (completes_one rfl hb)

/-- The first byte bounds the second one, so that nothing is encoded in too many bytes, and no
surrogates. -/
theorem readsAs_three (ha : 0xE0 ≤ a.toNat ∧ a.toNat < 0xF0) (hb : IsTail b) (hc : IsTail c)
    (hLower : a.toNat = 0xE0 → 0xA0 ≤ b.toNat) (hUpper : a.toNat = 0xED → b.toNat ≤ 0x9F) :
    ReadsAs [a, b, c]
      (Char.ofNat (((a.toNat - 0xE0) * 64 + (b.toNat - 0x80)) * 64 + (c.toNat - 0x80))) := by
  intro position found
  have hBegin : ∃ lower upper : UInt8,
      Decoder.begin ⟨position, none, found⟩ a =
          ⟨position + 1, some ⟨a, a.toNat - 0xE0, 2, lower, upper, 1⟩, found⟩ ∧
        lower.toNat ≤ b.toNat ∧ b.toNat ≤ upper.toNat := by
    unfold Decoder.begin
    dsimp only
    rw [if_neg (by omega), if_neg (by omega), if_neg (by omega)]
    split_ifs with h1 h2
    · exact ⟨0xA0, 0xBF, by rw [h1], hLower h1, hb.2⟩
    · exact ⟨0x80, 0x9F, by rw [h2], hb.1, hUpper h2⟩
    · exact ⟨0x80, 0xBF, rfl, hb⟩
    all_goals omega
  obtain ⟨lower, upper, hBegin, hBounds⟩ := hBegin
  exact foldl_step_of_begin hBegin (completes_two rfl hBounds hc)

/-- Here the bounds are such that the code is none that is too large. -/
theorem readsAs_four (ha : 0xF0 ≤ a.toNat ∧ a.toNat ≤ 0xF4) (hb : IsTail b) (hc : IsTail c)
    (hd : IsTail d) (hLower : a.toNat = 0xF0 → 0x90 ≤ b.toNat) (hUpper : a.toNat = 0xF4 → b.toNat ≤ 0x8F) :
    ReadsAs [a, b, c, d]
      (Char.ofNat ((((a.toNat - 0xF0) * 64 + (b.toNat - 0x80)) * 64 + (c.toNat - 0x80)) * 64 +
        (d.toNat - 0x80))) := by
  intro position found
  have hBegin : ∃ lower upper : UInt8,
      Decoder.begin ⟨position, none, found⟩ a =
          ⟨position + 1, some ⟨a, a.toNat - 0xF0, 3, lower, upper, 1⟩, found⟩ ∧
        lower.toNat ≤ b.toNat ∧ b.toNat ≤ upper.toNat := by
    unfold Decoder.begin
    dsimp only
    rw [if_neg (by omega), if_neg (by omega), if_neg (by omega), if_neg (by omega), if_neg (by omega),
      if_neg (by omega)]
    split_ifs with h1 h2 h3
    · exact ⟨0x90, 0xBF, by rw [h1], hLower h1, hb.2⟩
    · exact ⟨0x80, 0xBF, rfl, hb⟩
    · exact ⟨0x80, 0x8F, by rw [h3], hb.1, hUpper h3⟩
    · omega
  obtain ⟨lower, upper, hBegin, hBounds⟩ := hBegin
  exact foldl_step_of_begin hBegin (completes_three rfl hBounds hc hd)

end

/-- The bytes of a character are read as it. -/
theorem readsAs_utf8EncodeChar (c : Char) : ReadsAs (String.utf8EncodeChar c) c := by
  have hByte {n : Nat} (h : n < 256) : (UInt8.ofNat n).toNat = n :=
    UInt8.toNat_ofNat_of_lt' (by simpa [UInt8.size] using h)
  have hTail (n : Nat) : IsTail (UInt8.ofNat (n % 64 + 128)) := by
    rw [IsTail, hByte (by omega)]
    omega
  have hChar {n : Nat} (h : n = c.toNat) : Char.ofNat n = c := by rw [h, Char.ofNat_toNat]
  have hValid : c.toNat < 0xD800 ∨ 0xDFFF < c.toNat ∧ c.toNat < 0x110000 := c.valid
  unfold String.utf8EncodeChar
  rw [show c.val.toNat = c.toNat from rfl]
  generalize hCode : c.toNat = v at *
  dsimp only
  split_ifs with h1 h2 h3
  · have hOnly := hByte (n := v) (by omega)
    have h := readsAs_one (a := UInt8.ofNat v) (by omega)
    rwa [hOnly, hChar rfl] at h
  · have hFirst := hByte (n := v / 64 % 32 + 192) (by omega)
    have h := readsAs_two (a := UInt8.ofNat (v / 64 % 32 + 192)) (by omega) (hTail v)
    rwa [hFirst, hByte (by omega), hChar (by omega)] at h
  · have hFirst := hByte (n := v / 4096 % 16 + 224) (by omega)
    have hSecond := hByte (n := v / 64 % 64 + 128) (by omega)
    have h := readsAs_three (a := UInt8.ofNat (v / 4096 % 16 + 224)) (by omega) (hTail (v / 64)) (hTail v) (by omega)
      (by omega)
    rwa [hFirst, hSecond, hByte (by omega), hChar (by omega)] at h
  · have hFirst := hByte (n := v / 262144 % 8 + 240) (by omega)
    have hSecond := hByte (n := v / 4096 % 64 + 128) (by omega)
    have hThird := hByte (n := v / 64 % 64 + 128) (by omega)
    have h := readsAs_four (a := UInt8.ofNat (v / 262144 % 8 + 240)) (by omega) (hTail (v / 4096)) (hTail (v / 64))
      (hTail v) (by omega) (by omega)
    rwa [hFirst, hSecond, hThird, hByte (by omega), hChar (by omega)] at h

theorem foldl_step_encode (chars : List Char) (position : Nat) (found : List Piece) :
    (chars.flatMap String.utf8EncodeChar).foldl Decoder.step ⟨position, none, found⟩ =
      ⟨position + (chars.flatMap String.utf8EncodeChar).length, none, (chars.map Piece.char).reverse ++ found⟩ := by
  induction chars generalizing position found with
  | nil => rfl
  | cons c rest ih =>
      rw [List.flatMap_cons, List.foldl_append, readsAs_utf8EncodeChar, ih]
      simp [Nat.add_assoc]

/-- What has been encoded is read back in whole characters. -/
theorem pieces_encode (text : String) : pieces (encode text) = text.toList.map Piece.char := by
  unfold pieces encode Decoder.initial
  rw [foldl_step_encode]
  simp [Decoder.finish]

theorem decodeLossy_encode (text : String) : decodeLossy (encode text) = text := by
  unfold decodeLossy
  rw [pieces_encode, List.map_map, ← String.toList_inj, String.toList_ofList]
  exact List.map_id _

theorem collect_char (chars found : List Char) :
    collect (chars.map Piece.char) found = .ok (found.reverse ++ chars) := by
  induction chars generalizing found with
  | nil => simp [collect]
  | cons c rest ih => simp [collect, ih]

theorem decode_encode (text : String) : decode (encode text) = .ok text := by
  unfold decode
  rw [pieces_encode, collect_char]
  exact congrArg Except.ok String.ofList_toList

theorem decode?_encode (text : String) : decode? (encode text) = some text := by
  rw [decode?, decode_encode]
  rfl

end ConfigGate.Text.Utf8
