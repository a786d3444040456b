import ConfigGate.Proofs.Http.Urlencoded
import Mathlib.Data.List.SplitBy

/-! Any access can be asked for by a url-encoded text: what has been escaped is decoded as it was. -/
namespace ConfigGate.Http.Urlencoded

open Text Text.Utf8

/-- The character has no meaning of its own in a url-encoded text. -/
def IsOrdinary (c : Char) : Prop := isAscii c ∧ c ∉ ['%', '+', '&', '=']

instance (c : Char) : Decidable (IsOrdinary c) := inferInstanceAs (Decidable (_ ∧ _))

theorem isOrdinary_of_isAlphanum {c : Char} (h : c.isAlphanum) : IsOrdinary c := by
  have hBelow {last : Char} (hLast : last.toNat < 0x80) (hLe : c.val ≤ last.val) : c.toNat < 0x80 :=
    Nat.lt_of_le_of_lt (UInt32.le_iff_toNat_le.mp hLe) hLast
  have hBounds : c.toNat < 0x80 := by
    rcases Bool.or_eq_true_iff.mp h with hAlpha | hDigit
    · rcases Bool.or_eq_true_iff.mp hAlpha with hUpper | hLower
      · exact @hBelow 'Z' (by decide) (of_decide_eq_true hUpper).2
      · exact @hBelow 'z' (by decide) (of_decide_eq_true (Bool.and_eq_true_iff.mp hLower).2)
    · exact @hBelow '9' (by decide) (of_decide_eq_true (Bool.and_eq_true_iff.mp hDigit).2)
  refine ⟨by simpa [isAscii] using hBounds, ?_⟩
  intro hMem
  simp at hMem
  rcases hMem with rfl | rfl | rfl | rfl <;> revert h <;> decide

/-- The digit of an escape. -/
def escapeDigit (n : Nat) : Char := (Nat.digitChar n).toUpper

theorem escapeDigit_spec : ∀ n < 16, Json.hexDigit? (escapeDigit n) = some n ∧ IsOrdinary (escapeDigit n) := by
  decide

theorem escapeByte_eq (b : UInt8) :
    escapeByte b = ['%', escapeDigit (b.toNat / 16), escapeDigit (b.toNat % 16)] := by
  have hByte := b.toNat_lt
  unfold escapeByte hexPadded
  by_cases hSmall : b.toNat < 16
  · rw [Nat.toDigits_of_lt_base hSmall, Nat.div_eq_of_lt hSmall, Nat.mod_eq_of_lt hSmall]
    rfl
  · rw [Nat.toDigits_of_base_le (by decide) (by omega), Nat.toDigits_of_lt_base (by omega)]
    rfl

theorem percentBytes_cons {c : Char} (h : c ≠ '%') (rest : List Char) (found : Bytes) :
    percentBytes (c :: rest) found = percentBytes rest (UInt8.ofNat c.toNat :: found) := by
  rw [percentBytes]
  rintro a b more ⟨rfl, _⟩
  exact absurd rfl h

theorem percentBytes_escapeByte (b : UInt8) (rest : List Char) (found : Bytes) :
    percentBytes (escapeByte b ++ rest) found = percentBytes rest (b :: found) := by
  have hByte := b.toNat_lt
  have hHigh := (escapeDigit_spec (b.toNat / 16) (by omega)).1
  have hLow := (escapeDigit_spec (b.toNat % 16) (by omega)).1
  rw [escapeByte_eq, List.cons_append, List.cons_append, List.cons_append, percentBytes, hHigh, hLow]
  dsimp only
  rw [List.nil_append, Nat.div_add_mod', UInt8.ofNat_toNat]

theorem percentBytes_escapeBytes (bytes : Bytes) (rest : List Char) (found : Bytes) :
    percentBytes (bytes.flatMap escapeByte ++ rest) found = percentBytes rest (bytes.reverse ++ found) := by
  induction bytes generalizing found with
  | nil => rfl
  | cons b more ih =>
      rw [List.flatMap_cons, List.append_assoc, percentBytes_escapeByte, ih, List.reverse_cons,
        List.append_assoc]
      rfl

theorem utf8EncodeChar_ascii {c : Char} (h : isAscii c) :
    String.utf8EncodeChar c = [UInt8.ofNat c.toNat] := by
  have hCode : c.val.toNat ≤ 0x7F := by
    have : c.toNat < 0x80 := by simpa [isAscii] using h
    exact Nat.lt_succ_iff.mp this
  unfold String.utf8EncodeChar
  exact if_pos hCode

/-- A text of ASCII has a byte for each character. -/
theorem byteText_encode {text : List Char} (h : ∀ c ∈ text, isAscii c) :
    byteText (encode (String.ofList text)) = text := by
  unfold byteText encode
  rw [String.toList_ofList]
  induction text with
  | nil => rfl
  | cons c rest ih =>
      obtain ⟨hFirst, hRest⟩ := List.forall_mem_cons.mp h
      have hByte : (UInt8.ofNat c.toNat).toNat = c.toNat :=
        UInt8.toNat_ofNat_of_lt' (by simp [isAscii] at hFirst; simp [UInt8.size]; omega)
      rw [List.flatMap_cons, utf8EncodeChar_ascii hFirst, List.singleton_append, List.map_cons, ih hRest,
        hByte, Char.ofNat_toNat]

/-- A text of ASCII is one stretch. -/
theorem unescape_ascii {text : List Char} (h : ∀ c ∈ text, isAscii c) :
    unescape text = (decodeLossy (percentBytes text [])).toList := by
  cases text with
  | nil => rfl
  | cons c rest =>
    have hChain : List.IsChain (fun a b => (isAscii a == isAscii b) = true) (c :: rest) := by
      refine (List.pairwise_of_forall_mem_list fun a ha b hb => ?_).isChain
      rw [h a ha, h b hb]
      rfl
    rw [unescape, List.splitBy_of_isChain (by simp) hChain, List.flatMap_singleton,
      if_pos (List.all_eq_true.mpr h)]

theorem sentFields_intercalate {sent : List (List Char)} (h : ∀ field ∈ sent, field ≠ [] ∧ '&' ∉ field) :
    sentFields (['&'].intercalate sent) = sent := by
  cases sent with
  | nil => rfl
  | cons first rest =>
    rw [sentFields, List.splitOn_intercalate _ (fun field hMem => (h field hMem).2) (by simp)]
    exact List.filter_eq_self.mpr fun field hMem => by simpa using (h field hMem).1

/-- A field as it is sent. -/
def field (keeps : Char → Bool) (name value : String) : List Char :=
  name.toList ++ '=' :: escape keeps value.toList

/-- A text that asks for an access. -/
def written (keeps : Char → Bool) (access : ConfigGate.Request) : List Char :=
  ['&'].intercalate
    ((access.file.map (field keeps "file")).toList ++ (access.contents.map (field keeps "contents")).toList)

/-- The access that the fields of a text ask for. -/
def asked (text : List Char) : ConfigGate.Request :=
  ⟨lastValue (fields text) "file", lastValue (fields text) "contents"⟩

section

-- What may stand as it is, is up to whoever writes the text.
variable {keeps : Char → Bool} (hKeeps : ∀ c, keeps c → IsOrdinary c)
include hKeeps

/-- The bytes of an escaped text are those of the text. -/
theorem percentBytes_escape (text : List Char) (found : Bytes) :
    percentBytes (escape keeps text) found = found.reverse ++ text.flatMap String.utf8EncodeChar := by
  induction text generalizing found with
  | nil => simp [escape, percentBytes]
  | cons c rest ih =>
      unfold escape at ih ⊢
      rw [List.flatMap_cons, List.flatMap_cons]
      split
      · rename_i hKept
        obtain ⟨hAscii, hOther⟩ := hKeeps c hKept
        rw [List.singleton_append, percentBytes_cons (by simp at hOther; exact hOther.1), ih,
          utf8EncodeChar_ascii hAscii]
        simp
      · rw [percentBytes_escapeBytes, ih]
        simp [encode]

theorem mem_escape {text : List Char} {c : Char} (h : c ∈ escape keeps text) :
    isAscii c ∧ c ∉ ['+', '&', '='] := by
  obtain ⟨d, _, hMem⟩ := List.mem_flatMap.mp h
  split at hMem
  · rename_i hKept
    rw [List.mem_singleton.mp hMem]
    exact (hKeeps d hKept).imp_right fun hNot hOther => hNot (.tail _ hOther)
  · obtain ⟨b, _, hByte⟩ := List.mem_flatMap.mp hMem
    have hDigit {n : Nat} (hn : n < 16) : isAscii (escapeDigit n) ∧ escapeDigit n ∉ ['+', '&', '='] :=
      (escapeDigit_spec n hn).2.imp_right fun hNot hOther => hNot (.tail _ hOther)
    have hLimit := b.toNat_lt
    rw [escapeByte_eq] at hByte
    simp only [List.mem_cons, List.not_mem_nil, or_false] at hByte
    rcases hByte with rfl | rfl | rfl
    · decide
    · exact hDigit (by omega)
    · exact hDigit (by omega)

theorem decodePart_escape (text : String) :
    decodePart (escape keeps text.toList) = text := by
  have hPlus : (escape keeps text.toList).map (fun c => if c = '+' then ' ' else c) =
      (escape keeps text.toList).map id := by
    refine List.map_congr_left fun c hMem => if_neg ?_
    rintro rfl
    exact (mem_escape hKeeps hMem).2 (by simp)
  rw [decodePart, hPlus, List.map_id, unescape_ascii fun c hMem => (mem_escape hKeeps hMem).1,
    percentBytes_escape hKeeps, String.ofList_toList]
  exact decodeLossy_encode text

/-- Every access can be asked for. -/
theorem asked_written (access : ConfigGate.Request) : asked (written keeps access) = access := by
  have hField {name : String} (hName : '=' ∉ name.toList ∧ '&' ∉ name.toList)
      (hDecoded : decodePart name.toList = name) (value : String) :
      decodeField (field keeps name value) = (name, value) ∧ field keeps name value ≠ [] ∧
        '&' ∉ field keeps name value := by
    refine ⟨?_, by simp [field], ?_⟩
    · rw [field, decodeField_append hName.1 (.inr ⟨_, rfl⟩), hDecoded, List.drop_one, List.tail_cons,
        decodePart_escape hKeeps]
    · rw [field, List.mem_append, List.mem_cons]
      rintro (hMem | hMem | hMem)
      · exact hName.2 hMem
      · cases hMem
      · exact (mem_escape hKeeps hMem).2 (by simp)
  have hFile := @hField "file" (by decide) (by decide)
  have hContents := @hField "contents" (by decide) (by decide)
  obtain ⟨file, contents⟩ := access
  have hFields : fields (written keeps ⟨file, contents⟩) =
      (file.map fun value => ("file", value)).toList ++
        (contents.map fun value => ("contents", value)).toList := by
    unfold fields written
    rw [sentFields_intercalate]
    · cases file <;> cases contents <;> simp [(hFile _).1, (hContents _).1]
    · cases file <;> cases contents <;> simp [(hFile _).2, (hContents _).2]
  unfold asked
  rw [hFields]
  cases file <;> cases contents <;> rfl

theorem isAscii_written (access : ConfigGate.Request) : ∀ c ∈ written keeps access, isAscii c := by
  have hField {name : String} (hName : name.toList.all isAscii) (value : String) :
      ∀ c ∈ field keeps name value, isAscii c := by
    refine List.forall_mem_append.mpr ⟨List.all_eq_true.mp hName, List.forall_mem_cons.mpr ⟨rfl, ?_⟩⟩
    exact fun c hMem => (mem_escape hKeeps hMem).1
  have hFile := @hField "file" (by decide)
  have hContents := @hField "contents" (by decide)
  obtain ⟨_ | file, _ | contents⟩ := access
  · simp [written]
  · simpa [written] using hContents contents
  · simpa [written] using hFile file
  · have hBoth : written keeps ⟨some file, some contents⟩ =
        field keeps "file" file ++ '&' :: field keeps "contents" contents := by
      simp [written]
    rw [hBoth]
    exact List.forall_mem_append.mpr ⟨hFile file, List.forall_mem_cons.mpr ⟨rfl, hContents contents⟩⟩

end

end ConfigGate.Http.Urlencoded
