import ConfigGate.Http.Form
import ConfigGate.Proofs.Log.Masking
import ConfigGate.Proofs.Text.Pieces
import ConfigGate.Proofs.Text.Utf8
import Mathlib.Data.List.Forall2
import Mathlib.Data.List.SplitBy
import Mathlib.Data.List.TakeDrop

/-! The fields called `contents` in url-encoded texts. The name of such a field is written in ASCII
without blanks, so that the text has the same fields of this name whether its bytes are taken for
characters or are read as UTF-8, and whether the blanks around it are left or trimmed. -/
namespace ConfigGate.Http.Urlencoded

open Text Text.Utf8

variable {field other text : List Char} {c : Char}

/-- A byte that is there already stays. -/
private theorem mem_percentBytes_found {b : UInt8} (text : List Char) (found : Bytes) (h : b ∈ found) :
    b ∈ percentBytes text found := by
  induction text, found using percentBytes.induct with
  | case1 found => simpa [percentBytes] using h
  | case2 a b' rest found high low hLow hHigh ih =>
      rw [percentBytes, hHigh, hLow]
      exact ih (.tail _ h)
  | case3 a b' rest found hNone ih =>
      rw [percentBytes]
      split
      · rename_i hHigh hLow
        exact (hNone _ _ hHigh hLow).elim
      · exact ih (.tail _ h)
  | case4 c rest found hNone ih =>
      rw [percentBytes]
      · exact ih (.tail _ h)
      · exact hNone

/-- The byte of a character that no escape takes part in stays. -/
private theorem mem_percentBytes (hPercent : c ≠ '%') (hDigit : Json.hexDigit? c = none)
    (text : List Char) (found : Bytes) (h : c ∈ text) :
    UInt8.ofNat c.toNat ∈ percentBytes text found := by
  induction text, found using percentBytes.induct with
  | case1 found => cases h
  | case2 a b rest found high low hLow hHigh ih =>
      rw [percentBytes, hHigh, hLow]
      refine ih ?_
      rcases List.mem_cons.mp h with rfl | h
      · exact absurd rfl hPercent
      rcases List.mem_cons.mp h with rfl | h
      · rw [hDigit] at hHigh
        cases hHigh
      rcases List.mem_cons.mp h with rfl | h
      · rw [hDigit] at hLow
        cases hLow
      · exact h
  | case3 a b rest found hNone ih =>
      rw [percentBytes]
      split
      · rename_i hHigh hLow
        exact (hNone _ _ hHigh hLow).elim
      · exact ih ((List.mem_cons.mp h).resolve_left hPercent)
  | case4 d rest found hNone ih =>
      rw [percentBytes]
      · rcases List.mem_cons.mp h with rfl | h
        · exact mem_percentBytes_found rest _ (.head _)
        · exact ih h
      · exact hNone

/-- A character that no escape takes part in is decoded as itself. -/
theorem mem_decodePart (hPositive : 0 < c.toNat) (hPlus : c ≠ '+') (hPercent : c ≠ '%')
    (hDigit : Json.hexDigit? c = none) (h : c ∈ text) : c ∈ (decodePart text).toList := by
  have hMap : c ∈ text.map fun d => if d = '+' then ' ' else d :=
    List.mem_map.mpr ⟨c, h, if_neg hPlus⟩
  rw [← List.flatten_splitBy (fun a b => isAscii a == isAscii b) (text.map _),
    List.mem_flatten] at hMap
  obtain ⟨stretch, hStretch, hMem⟩ := hMap
  rw [decodePart, String.toList_ofList, unescape, List.mem_flatMap]
  refine ⟨stretch, hStretch, ?_⟩
  split
  · rename_i hAscii
    have hLow : c.toNat < 0x80 := by
      simpa [isAscii] using List.all_eq_true.mp hAscii c hMem
    exact (mem_decodeLossy hPositive hLow _).mpr (mem_percentBytes hPercent hDigit _ _ hMem)
  · exact hMem

/-- Neither a blank nor a character beyond ASCII takes part in an escape. -/
theorem mem_decodePart_of_outside (hOutside : 0 < c.toNat ∧ c.toNat ≤ 0x20 ∨ 0x80 ≤ c.toNat)
    (hMem : c ∈ text) : c ∈ (decodePart text).toList := by
  have hPlus : c ≠ '+' := by
    rintro rfl
    revert hOutside
    decide
  have hPercent : c ≠ '%' := by
    rintro rfl
    revert hOutside
    decide
  have hBetween (first last : Char) (h : 0x20 < first.toNat ∧ last.toNat < 0x80) :
      ¬ (first ≤ c ∧ c ≤ last) := by
    rintro ⟨hFirst, hLast⟩
    have hLower : first.toNat ≤ c.toNat := hFirst
    have hUpper : c.toNat ≤ last.toNat := hLast
    omega
  have hDigit : Json.hexDigit? c = none := by
    unfold Json.hexDigit?
    rw [if_neg (hBetween _ _ (by decide)), if_neg (hBetween _ _ (by decide)),
      if_neg (hBetween _ _ (by decide))]
  exact mem_decodePart (by omega) hPlus hPercent hDigit hMem

/-- However `contents` is escaped, it is written in ASCII without blanks. -/
theorem plain_of_decodePart (hDecoded : decodePart text = "contents") (hMem : c ∈ text) :
    c.toNat < 0x80 ∧ isBlank c = false := by
  refine Classical.byContradiction fun hNot => ?_
  have hOutside : 0 < c.toNat ∧ c.toNat ≤ 0x20 ∨ 0x80 ≤ c.toNat := by
    by_cases hLow : c.toNat < 0x80
    · have hBlank : isBlank c = true := by simpa [hLow] using hNot
      simp [isBlank] at hBlank
      omega
    · exact .inr (by omega)
  have hShown := mem_decodePart_of_outside hOutside hMem
  rw [hDecoded] at hShown
  have hLetters : "contents".toList.all fun d => 0x20 < d.toNat && d.toNat < 0x80 := by decide
  have hLetter := List.all_eq_true.mp hLetters c hShown
  simp only [Bool.and_eq_true, decide_eq_true_eq] at hLetter
  omega

/-- The field is called `contents`. -/
def IsContents (field : List Char) : Prop := (decodeField field).1 = "contents"

instance (field : List Char) : Decidable (IsContents field) := inferInstanceAs (Decidable (_ = _))

/-- The name is written in ASCII, without blanks. -/
theorem IsContents.shape (h : IsContents field) : ∃ name value,
    field = name ++ value ∧ decodePart name = "contents" ∧ '=' ∉ name ∧ name ≠ [] ∧
      (∀ c ∈ name, c.toNat < 0x80 ∧ isBlank c = false) ∧ (value = [] ∨ ∃ rest, value = '=' :: rest) := by
  unfold IsContents decodeField at h
  rw [List.span_eq_takeWhile_dropWhile] at h
  dsimp only at h
  refine ⟨field.takeWhile (· != '='), field.dropWhile (· != '='), List.takeWhile_append_dropWhile.symm,
    h, ?_, ?_, ?_, ?_⟩
  · intro hMem
    simpa using List.all_eq_true.mp List.all_takeWhile _ hMem
  · intro hEmpty
    rw [hEmpty] at h
    exact absurd h (by decide)
  · exact fun c hMem => plain_of_decodePart h hMem
  · rcases hValue : field.dropWhile (· != '=') with _ | ⟨d, rest⟩
    · exact .inl rfl
    · have hFirst := List.head?_dropWhile_not (· != '=') field
      rw [hValue] at hFirst
      have hEquals : d = '=' := by simpa using hFirst
      exact .inr ⟨rest, by rw [hEquals]⟩

/-- The name ends at the first equals sign. -/
theorem decodeField_append {name value : List Char} (hEquals : '=' ∉ name)
    (hValue : value = [] ∨ ∃ rest, value = '=' :: rest) :
    decodeField (name ++ value) = (decodePart name, decodePart (value.drop 1)) := by
  have hAll : ∀ c ∈ name, (c != '=') = true := by
    rintro c hMem
    simpa using fun hSame : c = '=' => hEquals (hSame ▸ hMem)
  unfold decodeField
  rw [List.span_eq_takeWhile_dropWhile, List.takeWhile_append_of_pos hAll,
    List.dropWhile_append_of_pos hAll]
  obtain rfl | ⟨rest, rfl⟩ := hValue <;> simp

/-- Only the name decides. -/
theorem isContents_of_name {name value : List Char} (hName : decodePart name = "contents")
    (hEquals : '=' ∉ name) (hValue : value = [] ∨ ∃ rest, value = '=' :: rest) :
    IsContents (name ++ value) := by
  unfold IsContents
  rw [decodeField_append hEquals hValue]
  exact hName

/-! Trimming -/

theorem IsContents.dropWhile_eq (h : IsContents field) : field.dropWhile isBlank = field := by
  obtain ⟨name, value, rfl, _, _, hNe, hPlain, _⟩ := h.shape
  obtain ⟨c, rest, rfl⟩ := List.exists_cons_of_ne_nil hNe
  rw [List.cons_append, List.dropWhile_cons_of_neg]
  simpa using (hPlain c (.head _)).2

theorem IsContents.trimEnd (h : IsContents field) :
    IsContents (field.reverse.dropWhile isBlank).reverse := by
  obtain ⟨name, value, rfl, hName, hEquals, hNe, hPlain, rfl | ⟨rest, rfl⟩⟩ := h.shape
  · have hSame : (name ++ []).reverse.dropWhile isBlank = name.reverse := by
      obtain ⟨init, last, rfl⟩ := (List.eq_nil_or_concat name).resolve_left hNe
      rw [List.append_nil, List.concat_eq_append, List.reverse_append, List.reverse_singleton,
        List.singleton_append, List.dropWhile_cons_of_neg]
      simpa using (hPlain last (by simp)).2
    rw [hSame, List.reverse_reverse, ← List.append_nil name]
    exact isContents_of_name hName hEquals (.inl rfl)
  · rw [List.reverse_append, List.reverse_cons, List.append_assoc, List.singleton_append,
      dropWhile_append_cons (by decide), List.reverse_append, List.reverse_cons,
      List.reverse_reverse, List.append_assoc, List.singleton_append]
    exact isContents_of_name hName hEquals (.inr ⟨_, rfl⟩)

/-- Two fields that are alike but for the contents. -/
def Alike (field other : List Char) : Prop := field = other ∨ IsContents field ∧ IsContents other

/-- Two texts whose fields are alike but for the contents. -/
def AlikeFields (text other : List Char) : Prop :=
  List.Forall₂ Alike (text.splitOn '&') (other.splitOn '&')

namespace Alike

theorem dropWhile (h : Alike field other) :
    Alike (field.dropWhile isBlank) (other.dropWhile isBlank) := by
  rcases h with rfl | ⟨hField, hOther⟩
  · exact .inl rfl
  · rw [hField.dropWhile_eq, hOther.dropWhile_eq]
    exact .inr ⟨hField, hOther⟩

theorem trimEnd (h : Alike field other) :
    Alike (field.reverse.dropWhile isBlank).reverse (other.reverse.dropWhile isBlank).reverse := by
  rcases h with rfl | ⟨hField, hOther⟩
  · exact .inl rfl
  · exact .inr ⟨hField.trimEnd, hOther.trimEnd⟩

theorem symm (h : Alike field other) : Alike other field :=
  h.imp Eq.symm And.symm

theorem isEmpty_eq (h : Alike field other) : field.isEmpty = other.isEmpty := by
  have hNonempty {field : List Char} (h : IsContents field) : field.isEmpty = false := by
    rw [List.isEmpty_eq_false_iff]
    rintro rfl
    exact absurd h (by decide)
  rcases h with rfl | ⟨hField, hOther⟩
  · rfl
  · rw [hNonempty hField, hNonempty hOther]

end Alike

namespace AlikeFields

theorem symm (h : AlikeFields text other) : AlikeFields other text :=
  List.Forall₂.flip (h.imp fun _ _ => Alike.symm)

/-- Blanks at the ends make no difference. -/
theorem trim (h : AlikeFields text other) :
    AlikeFields (trimWhile isBlank text) (trimWhile isBlank other) := by
  have hHead {R : List Char → List Char → Prop} {f : List Char → List Char}
      (hf : ∀ a b, R a b → R (f a) (f b)) {l l' : List (List Char)} (h : List.Forall₂ R l l') :
      List.Forall₂ R (l.modifyHead f) (l'.modifyHead f) := by
    cases h with
    | nil => exact .nil
    | cons hFirst hRest => exact .cons (hf _ _ hFirst) hRest
  have hReverse {R S : List Char → List Char → Prop} (hR : ∀ a b, R a b → S a.reverse b.reverse)
      {l l' : List (List Char)} (h : List.Forall₂ R l l') :
      List.Forall₂ S (l.map List.reverse).reverse (l'.map List.reverse).reverse := by
    rw [List.forall₂_reverse_iff, List.forall₂_map_left_iff, List.forall₂_map_right_iff]
    exact h.imp hR
  unfold AlikeFields trimWhile at *
  rw [splitOn_reverse, splitOn_reverse, splitOn_dropWhile (by decide), splitOn_dropWhile (by decide),
    splitOn_reverse, splitOn_reverse, splitOn_dropWhile (by decide), splitOn_dropWhile (by decide)]
  have hFront := hHead (fun _ _ => Alike.dropWhile) h
  -- Backwards, two fields are alike if they are so forwards.
  have hBack := hReverse (S := fun a b => Alike a.reverse b.reverse)
    (fun a b hAlike => by rwa [List.reverse_reverse, List.reverse_reverse]) hFront
  refine hReverse (fun _ _ hAlike => hAlike) (hHead (fun a b hAlike => ?_) hBack)
  simpa using hAlike.trimEnd

theorem isEmpty_eq (h : AlikeFields text other) : text.isEmpty = other.isEmpty := by
  have hEmpty {text : List Char} (h : AlikeFields [] text) : text = [] := by
    rcases text with _ | ⟨c, rest⟩
    · rfl
    unfold AlikeFields at h
    rw [List.splitOn_nil, List.splitOn_cons_eq_if_modifyHead] at h
    rcases hRest : rest.splitOn '&' with _ | ⟨piece, more⟩
    · exact absurd hRest (List.splitOn_ne_nil _ _)
    rw [hRest] at h
    split at h
    · cases h with
      | cons _ hMore => cases hMore
    · cases h with
      | cons hFirst _ => exact absurd hFirst.isEmpty_eq (by simp)
  rcases text with _ | ⟨c, rest⟩
  · rw [hEmpty h]
  · rcases other with _ | ⟨d, rest'⟩
    · exact absurd (hEmpty h.symm) (by simp)
    · rfl

/-- The log shows the same of the fields. -/
theorem fields (h : AlikeFields text other) :
    List.Forall₂ Log.ShownAlike (Urlencoded.fields text) (Urlencoded.fields other) := by
  have hSent : List.Forall₂ Alike (sentFields text) (sentFields other) :=
    List.rel_filter (fun _ _ hAlike => by simp only [hAlike.isEmpty_eq]) h
  refine List.rel_map ?_ hSent
  rintro field other (rfl | ⟨hField, hOther⟩)
  · exact ⟨rfl, .inl rfl⟩
  · refine ⟨hField.trans hOther.symm, .inr ?_⟩
    rw [show (decodeField field).1 = "contents" from hField]
    decide

end AlikeFields

/-! Bytes -/

/-- The name is the same in characters and in bytes. -/
theorem IsContents.decodeLossy {bytes : Bytes} (h : IsContents (byteText bytes)) :
    IsContents (decodeLossy bytes).toList := by
  obtain ⟨name, value, hParts, hName, hEquals, _, hPlain, hValue⟩ := h.shape
  obtain ⟨nameBytes, valueBytes, rfl, rfl, rfl⟩ := List.map_eq_append_iff.mp hParts
  have hAscii : ∀ b ∈ nameBytes, b.toNat < 0x80 := by
    intro b hMem
    rw [← toNat_byteChar b]
    exact (hPlain _ (List.mem_map_of_mem hMem)).1
  rw [decodeLossy_ascii_append hAscii]
  refine isContents_of_name hName hEquals ?_
  rcases valueBytes with _ | ⟨b, rest⟩
  · exact .inl rfl
  · obtain hNil | ⟨restText, hCons⟩ := hValue
    · cases hNil
    · have hFirst : Char.ofNat b.toNat = Char.ofNat (0x3D : UInt8).toNat := (List.cons.inj hCons).1
      have hEq := byteChar_inj hFirst
      subst hEq
      exact .inr ⟨_, decodeLossy_append [] (by decide) rest⟩

theorem Alike.decodeLossy {bytes bytes' : Bytes} (h : Alike (byteText bytes) (byteText bytes')) :
    Alike (decodeLossy bytes).toList (decodeLossy bytes').toList := by
  rcases h with hSame | ⟨h, h'⟩
  · rw [List.map_injective_iff.mpr (fun _ _ => byteChar_inj) hSame]
    exact .inl rfl
  · exact .inr ⟨h.decodeLossy, h'.decodeLossy⟩

/-- Fields that are alike as they are sent are alike as they are read. -/
theorem AlikeFields.decodeLossy {bytes bytes' : Bytes}
    (h : AlikeFields (byteText bytes) (byteText bytes')) :
    AlikeFields (decodeLossy bytes).toList (decodeLossy bytes').toList := by
  have hPieces (bytes : Bytes) :
      (byteText bytes).splitOn '&' = (bytes.splitOn 0x26).map byteText :=
    @splitOn_map _ _ _ _ _ _ 0x26 bytes _ fun _ _ => byteChar_inj
  have hRead (bytes : Bytes) : (Utf8.decodeLossy bytes).toList.splitOn '&' =
      (bytes.splitOn 0x26).map fun piece => (Utf8.decodeLossy piece).toList :=
    @splitOn_decodeLossy 0x26 (by decide) (by decide) bytes
  unfold AlikeFields at *
  rw [hPieces, hPieces, List.forall₂_map_left_iff, List.forall₂_map_right_iff] at h
  rw [hRead, hRead, List.forall₂_map_left_iff, List.forall₂_map_right_iff]
  exact h.imp fun _ _ => Alike.decodeLossy

end ConfigGate.Http.Urlencoded
