import ConfigGate.Json.Reader

/-! The JSON texts of a list of names. A name has many texts, since a character may stand for itself or be
escaped in several ways, and blanks may stand between the signs. The reader takes all of them for the same
list. -/
namespace ConfigGate.Json

open Text (Point Wide)

variable {limits : Limits}

section Strings

variable {opening : Nat} {rest : List Char} {found : List Point}

/-- An escape of one letter is read as what it stands for. -/
theorem readString_of_shortEscape {x c : Char} (h : shortEscape? x = some c) :
    readString limits opening ('\\' :: x :: rest) found = readString limits opening rest (.char c :: found) := by
  have hNoUnit : x ≠ 'u' := by
    rintro rfl
    cases h
  rw [readString.eq_def]
  simp [hNoUnit, h]

/-- An escape of four digits is read as its character, unless it is half of a surrogate pair. At least the
closing quote must follow it. -/
theorem readString_of_fourHex {a b c d : Char} {unit : Nat} (h : fourHex? a b c d = some unit)
    (hHigh : isHighSurrogate unit = false) (hLow : isLowSurrogate unit = false) (hRest : rest ≠ []) :
    readString limits opening ('\\' :: 'u' :: a :: b :: c :: d :: rest) found =
      readString limits opening rest (.char (Char.ofNat unit) :: found) := by
  have hUnit (remaining : Nat) : unitPoint limits unit remaining = .ok (.char (Char.ofNat unit)) := by
    have hNoHalf : ¬ (0xD800 ≤ unit ∧ unit < 0xE000) := by
      simp only [isHighSurrogate, isLowSurrogate, Bool.and_eq_false_iff, decide_eq_false_iff_not] at hHigh hLow
      omega
    simp [unitPoint, hHigh, hLow, Point.ofNat_of_not_half hNoHalf]
  obtain ⟨next, rest, rfl⟩ := List.exists_cons_of_ne_nil hRest
  rw [readString.eq_def]
  split <;> grind

/-- Two escapes that are the halves of a surrogate pair are read as one character. -/
theorem readString_of_pair {a b c d e f g h : Char} {high low : Nat} (hFirst : fourHex? a b c d = some high)
    (hHigh : isHighSurrogate high) (hSecond : fourHex? e f g h = some low) (hLow : isLowSurrogate low)
    (hRest : rest ≠ []) :
    readString limits opening
        ('\\' :: 'u' :: a :: b :: c :: d :: '\\' :: 'u' :: e :: f :: g :: h :: rest) found =
      readString limits opening rest
        (.char (Char.ofNat (0x10000 + (high - 0xD800) * 0x400 + (low - 0xDC00))) :: found) := by
  obtain ⟨next, rest, rfl⟩ := List.exists_cons_of_ne_nil hRest
  rw [readString, hFirst]
  simp only [hHigh, hSecond, hLow, if_true]

theorem readString_of_plain {c : Char} (hQuote : c ≠ '"') (hBackslash : c ≠ '\\') (h : 0x20 ≤ c.toNat) :
    readString limits opening (c :: rest) found = readString limits opening rest (.char c :: found) := by
  rw [readString.eq_def]
  split <;> grind

/-- The ways to write a character in a string: as it is, as an escape of one letter, with the four digits of
its code, or with those of the two halves of its surrogate pair. -/
inductive SpellsChar : Char → List Char → Prop
  | plain {c : Char} (hQuote : c ≠ '"') (hBackslash : c ≠ '\\') (h : 0x20 ≤ c.toNat) : SpellsChar c [c]
  | short {x c : Char} (h : shortEscape? x = some c) : SpellsChar c ['\\', x]
  | unit {a b c d : Char} {unit : Nat} (h : fourHex? a b c d = some unit) (hHigh : isHighSurrogate unit = false)
      (hLow : isLowSurrogate unit = false) : SpellsChar (Char.ofNat unit) ['\\', 'u', a, b, c, d]
  | pair {a b c d e f g h : Char} {high low : Nat} (hFirst : fourHex? a b c d = some high)
      (hHigh : isHighSurrogate high) (hSecond : fourHex? e f g h = some low) (hLow : isLowSurrogate low) :
      SpellsChar (Char.ofNat (0x10000 + (high - 0xD800) * 0x400 + (low - 0xDC00)))
        ['\\', 'u', a, b, c, d, '\\', 'u', e, f, g, h]

/-- The ways to write characters one after the other. -/
inductive SpellsChars : List Char → List Char → Prop
  | nil : SpellsChars [] []
  | cons {c : Char} {chars spelled more : List Char} (hChar : SpellsChar c spelled) (hMore : SpellsChars chars more) :
      SpellsChars (c :: chars) (spelled ++ more)

/-- The ways to write a text as a string. -/
inductive SpellsText : String → List Char → Prop
  | quoted {name : String} {spelled : List Char} (h : SpellsChars name.toList spelled) :
      SpellsText name ('"' :: spelled ++ ['"'])

/-- A character is read however it is written, if anything follows. -/
theorem readString_of_spellsChar {c : Char} {spelled : List Char} (h : SpellsChar c spelled) (hRest : rest ≠ []) :
    readString limits opening (spelled ++ rest) found = readString limits opening rest (.char c :: found) := by
  cases h with
  | plain hQuote hBackslash h => exact readString_of_plain hQuote hBackslash h
  | short h => exact readString_of_shortEscape h
  | unit h hHigh hLow => exact readString_of_fourHex h hHigh hLow hRest
  | pair hFirst hHigh hSecond hLow => exact readString_of_pair hFirst hHigh hSecond hLow hRest

/-- A string is read up to its closing quote, and what follows it is left. -/
theorem readString_of_spellsChars {chars spelled : List Char} (h : SpellsChars chars spelled) :
    readString limits opening (spelled ++ '"' :: rest) found = .ok (found.reverse ++ Point.ofChars chars, rest) := by
  induction h generalizing found with
  | nil => rw [List.nil_append, Point.ofChars_nil, List.append_nil, readString]
  | cons hChar _ ih =>
      rw [List.append_assoc, readString_of_spellsChar hChar (by simp), ih]
      simp

end Strings

section Blanks

theorem skipSeparators_of_not {c : Char} (h : isSeparator c = false) (rest : List Char) :
    skipSeparators (c :: rest) = c :: rest := by
  simp [skipSeparators, h]

/-- Nothing but blanks. -/
def IsBlank (text : List Char) : Prop := ∀ c ∈ text, isSeparator c

theorem isBlank_nil : IsBlank [] := by simp [IsBlank]

theorem skipSeparators_append {blanks : List Char} (h : IsBlank blanks) (rest : List Char) :
    skipSeparators (blanks ++ rest) = skipSeparators rest :=
  List.dropWhile_append_of_pos h

theorem skipSeparators_of_isBlank {blanks : List Char} (h : IsBlank blanks) : skipSeparators blanks = [] := by
  have hSkip := skipSeparators_append h []
  rwa [List.append_nil] at hSkip

/-- What stands before a sign is skipped. -/
theorem skipSeparators_append_cons {blanks : List Char} (h : IsBlank blanks) {c : Char}
    (hSign : isSeparator c = false) (rest : List Char) : skipSeparators (blanks ++ c :: rest) = c :: rest := by
  rw [skipSeparators_append h, skipSeparators_of_not hSign]

end Blanks

section Lists

variable {depth fuel : Nat} {name : String} {names : List String} {text rest : List Char}

/-- The ways to write the items of a list that has some, between its brackets. -/
inductive SpellsItems : List String → List Char → Prop
  | last {name : String} {before text after : List Char} (hBefore : IsBlank before) (hText : SpellsText name text)
      (hAfter : IsBlank after) : SpellsItems [name] (before ++ text ++ after)
  | next {name : String} {names : List String} {before text after rest : List Char} (hBefore : IsBlank before)
      (hText : SpellsText name text) (hAfter : IsBlank after) (hRest : SpellsItems names rest) :
      SpellsItems (name :: names) (before ++ text ++ after ++ ',' :: rest)

/-- The JSON texts of a list of names. -/
inductive SpellsList : List String → List Char → Prop
  | empty {before inside after : List Char} (hBefore : IsBlank before) (hInside : IsBlank inside)
      (hAfter : IsBlank after) : SpellsList [] (before ++ '[' :: inside ++ ']' :: after)
  | items {names : List String} {before items after : List Char} (hBefore : IsBlank before)
      (hItems : SpellsItems names items) (hAfter : IsBlank after) :
      SpellsList names (before ++ '[' :: items ++ ']' :: after)

/-- More blanks may stand before the first item. -/
theorem SpellsItems.blank {blanks : List Char} (hBlank : IsBlank blanks) (h : SpellsItems names text) :
    SpellsItems names (blanks ++ text) := by
  have hMore {before : List Char} (hBefore : IsBlank before) : IsBlank (blanks ++ before) := by
    intro c hMem
    rcases List.mem_append.mp hMem with hMem | hMem
    · exact hBlank c hMem
    · exact hBefore c hMem
  cases h with
  | last hBefore hText hAfter =>
      simpa only [List.append_assoc] using SpellsItems.last (hMore hBefore) hText hAfter
  | next hBefore hText hAfter hRest =>
      simpa only [List.append_assoc] using SpellsItems.next (hMore hBefore) hText hAfter hRest

theorem readValue_of_spellsText (h : SpellsText name text) (rest : List Char) :
    readValue limits (fuel + 1) depth (text ++ rest) = .ok (.text name, rest) := by
  obtain ⟨hChars⟩ := h
  simp [readValue, readString_of_spellsChars hChars, Wide.ofText]

/-- A string begins with a quote, before which nothing is skipped. -/
theorem skipSeparators_of_spellsText (h : SpellsText name text) (rest : List Char) :
    skipSeparators (text ++ rest) = text ++ rest := by
  obtain ⟨_⟩ := h
  exact skipSeparators_of_not rfl _

section

variable {before after : List Char} (hBefore : IsBlank before) (hText : SpellsText name text)
  (hAfter : IsBlank after)

include hBefore hText hAfter

/-- The bracket after an item closes the list. -/
theorem readItems_last (found : List Value) :
    readItems limits (fuel + 2) depth (skipSeparators (before ++ text ++ after ++ ']' :: rest)) found =
      .ok (.list (found.reverse ++ [.text name]), rest) := by
  rw [List.append_assoc, List.append_assoc, skipSeparators_append hBefore, skipSeparators_of_spellsText hText,
    readItems, readValue_of_spellsText hText]
  dsimp only
  rw [skipSeparators_append_cons hAfter rfl]
  simp

/-- After a comma there is another item. -/
theorem readItems_next (found : List Value) :
    readItems limits (fuel + 2) depth (skipSeparators (before ++ text ++ after ++ ',' :: rest)) found =
      readItems limits (fuel + 1) depth (skipSeparators rest) (.text name :: found) := by
  rw [List.append_assoc, List.append_assoc, skipSeparators_append hBefore, skipSeparators_of_spellsText hText,
    readItems, readValue_of_spellsText hText]
  dsimp only
  rw [skipSeparators_append_cons hAfter rfl]
  rfl

end

/-- Each item takes one unit of fuel, and its value another one. -/
theorem readItems_of_spellsItems (h : SpellsItems names text) {found : List Value} (hFuel : names.length < fuel) :
    readItems limits fuel depth (skipSeparators (text ++ ']' :: rest)) found =
      .ok (.list (found.reverse ++ names.map fun (name : String) => .text name), rest) := by
  induction h generalizing fuel found with
  | last hBefore hText hAfter =>
      rw [List.length_singleton] at hFuel
      obtain ⟨fuel, rfl⟩ := Nat.exists_eq_add_of_le' hFuel
      exact readItems_last hBefore hText hAfter found
  | next hBefore hText hAfter _ ih =>
      rw [List.length_cons] at hFuel
      have hTwo : 2 ≤ fuel := by omega
      obtain ⟨fuel, rfl⟩ := Nat.exists_eq_add_of_le' hTwo
      rw [List.append_assoc, List.cons_append, readItems_next hBefore hText hAfter, ih (by omega)]
      simp

/-- A list that has items is read item by item. -/
theorem readValue_list (h : ∀ rest, skipSeparators text ≠ ']' :: rest) :
    readValue limits (fuel + 1) (depth + 1) ('[' :: text) =
      readItems limits fuel depth (skipSeparators text) [] := by
  rw [readValue.eq_def]
  dsimp only
  split <;> simp_all

/-- There are no more items than characters. -/
theorem length_le_of_spellsItems (h : SpellsItems names text) : names.length ≤ text.length := by
  induction h with
  | last _ hText _ =>
      obtain ⟨_⟩ := hText
      simp only [List.length_append, List.length_cons, List.length_nil]
      omega
  | next _ _ _ _ ih =>
      simp only [List.length_append, List.length_cons]
      omega

/-- The items begin with a quote, after blanks. -/
theorem skipSeparators_of_spellsItems (h : SpellsItems names text) (rest last : List Char) :
    skipSeparators (text ++ rest) ≠ ']' :: last := by
  have hQuote {name : String} {before text : List Char} (hBefore : IsBlank before) (hText : SpellsText name text)
      (rest : List Char) : skipSeparators (before ++ (text ++ rest)) ≠ ']' :: last := by
    rw [skipSeparators_append hBefore, skipSeparators_of_spellsText hText]
    obtain ⟨_⟩ := hText
    simp
  cases h with
  | last hBefore hText _ =>
      rw [List.append_assoc, List.append_assoc]
      exact hQuote hBefore hText _
  | next hBefore hText _ _ =>
      rw [List.append_assoc, List.append_assoc, List.append_assoc]
      exact hQuote hBefore hText _

/-- A document is its value, if nothing but blanks stands around it. -/
theorem readChars_of_readValue {before after : List Char} {c : Char} {value : Value} (hBefore : IsBlank before)
    (hSign : isSeparator c = false) (hMark : c ≠ '\uFEFF') (hAfter : IsBlank after)
    (h : readValue limits (2 * (before ++ c :: text).length + 2) limits.depth (c :: text) = .ok (value, after)) :
    readChars limits (before ++ c :: text) = .ok value := by
  unfold readChars
  split
  · rename_i hText
    cases before with
    | nil => exact absurd (List.cons.inj hText).1 hMark
    | cons first _ =>
        have hFirst := hBefore first (by simp)
        rw [(List.cons.inj hText).1] at hFirst
        exact absurd hFirst (by decide)
  · dsimp only
    rw [skipSeparators_append_cons hBefore hSign, h]
    dsimp only
    rw [skipSeparators_of_isBlank hAfter]

/-- Every JSON text of a list of names is read as this list. -/
theorem readChars_of_spellsList (hDepth : 0 < limits.depth) (h : SpellsList names text) :
    readChars limits text = .ok (.list (names.map fun (name : String) => .text name)) := by
  obtain ⟨depth, hDepth⟩ := Nat.exists_eq_add_of_le' hDepth
  cases h with
  | empty hBefore hInside hAfter =>
      rw [List.append_assoc, List.cons_append]
      refine readChars_of_readValue hBefore rfl (by decide) hAfter ?_
      cases hEmpty : limits.countsEmpty <;>
        simp [hDepth, readValue, skipSeparators_append_cons hInside (c := ']') rfl, hEmpty]
  | items hBefore hItems hAfter =>
      rw [List.append_assoc, List.cons_append]
      refine readChars_of_readValue hBefore rfl (by decide) hAfter ?_
      have hLength := length_le_of_spellsItems hItems
      rw [hDepth, readValue_list (skipSeparators_of_spellsItems hItems _), readItems_of_spellsItems hItems]
      · rfl
      · simp only [List.length_append, List.length_cons]
        omega

end Lists

end ConfigGate.Json
