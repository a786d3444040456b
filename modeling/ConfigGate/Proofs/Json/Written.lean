import ConfigGate.Json.Writer
import ConfigGate.Proofs.Json.Spelled
import Mathlib.Tactic.SplitIfs

/-! What has been written as JSON is read back: a string with everything that follows it, and an object
of texts member by member. The text that is written for a list of names is one of its texts. -/
namespace ConfigGate.Json

open Text (Point Wide)

section Strings

/-- The four digits of a control character stand for its number. -/
theorem hexPadded_control : ∀ n < 0x20,
    Text.hexPadded 4 n = ['0', '0', Nat.digitChar (n / 16), Nat.digitChar (n % 16)] ∧
      fourHex? '0' '0' (Nat.digitChar (n / 16)) (Nat.digitChar (n % 16)) = some n := by
  decide

/-- What is written for a character is one of the ways to write it. -/
theorem spellsChar_escapeChar (c : Char) : SpellsChar c (escapeChar c) := by
  unfold escapeChar
  split_ifs with hQuote hBackslash hLine hReturn hTab hBackspace hForm hControl
  · subst hQuote
    exact .short rfl
  · subst hBackslash
    exact .short rfl
  · subst hLine
    exact .short rfl
  · subst hReturn
    exact .short rfl
  · subst hTab
    exact .short rfl
  · subst hBackspace
    exact .short rfl
  · subst hForm
    exact .short rfl
  · obtain ⟨hDigits, hCode⟩ := hexPadded_control c.toNat hControl
    have hHigh : isHighSurrogate c.toNat = false := by
      simp only [isHighSurrogate, Bool.and_eq_false_iff, decide_eq_false_iff_not]
      omega
    have hLow : isLowSurrogate c.toNat = false := by
      simp only [isLowSurrogate, Bool.and_eq_false_iff, decide_eq_false_iff_not]
      omega
    have hUnit := SpellsChar.unit hCode hHigh hLow
    rw [Char.ofNat_toNat] at hUnit
    rw [hDigits]
    exact hUnit
  · exact .plain hQuote hBackslash (Nat.le_of_not_lt hControl)

theorem spellsChars_flatMap_escapeChar (chars : List Char) : SpellsChars chars (chars.flatMap escapeChar) := by
  induction chars with
  | nil => exact .nil
  | cons c chars ih =>
      rw [List.flatMap_cons]
      exact .cons (spellsChar_escapeChar c) ih

/-- The characters of a string. -/
def writeString (text : String) : List Char :=
  '"' :: text.toList.flatMap escapeChar ++ ['"']

/-- A text of characters is written in characters. -/
theorem writeText_ofText (text : String) : writeText text = Point.ofChars (writeString text) := by
  have hChars (chars : List Char) :
      (Point.ofChars chars).flatMap escapePoint = Point.ofChars (chars.flatMap escapeChar) := by
    induction chars with
    | nil => rfl
    | cons c rest ih => simp [escapePoint, ih]
  simp [writeText, writeString, Wide.ofText, hChars]

theorem spellsText_writeString (text : String) : SpellsText text (writeString text) :=
  .quoted (spellsChars_flatMap_escapeChar text.toList)

end Strings

section Lists

/-- The characters of the items after the first, up to the closing bracket. -/
def itemChars : List String → List Char
  | [] => [']']
  | name :: rest => ',' :: ' ' :: writeString name ++ itemChars rest

/-- The characters of a list of names. -/
def listChars : List String → List Char
  | [] => ['[', ']']
  | name :: rest => '[' :: writeString name ++ itemChars rest

theorem itemPoints_names (names : List String) :
    itemPoints (names.map fun (name : String) => .text name) = Point.ofChars (itemChars names) := by
  induction names with
  | nil => rfl
  | cons name rest ih => simp [itemPoints, itemChars, Value.points, writeText_ofText, ih]

/-- A list of names is written in characters. -/
theorem render_names (names : List String) :
    (Value.list (names.map fun (name : String) => .text name)).render = String.ofList (listChars names) := by
  rw [Value.render, Wide.ofText_ofList, Wide.mk.injEq]
  cases names with
  | nil => rfl
  | cons name rest => simp [listChars, Value.points, writeText_ofText, itemPoints_names]

/-- The items that are written after the opening bracket, and the closing bracket after them. -/
theorem spellsItems_itemChars (name : String) (names : List String) :
    ∃ items, SpellsItems (name :: names) items ∧ writeString name ++ itemChars names = items ++ [']'] := by
  induction names generalizing name with
  | nil =>
      refine ⟨_, .last isBlank_nil (spellsText_writeString name) isBlank_nil, ?_⟩
      simp [itemChars]
  | cons next names ih =>
      obtain ⟨items, hItems, hWritten⟩ := ih next
      have hSpace : IsBlank [' '] := by simp [IsBlank, isSeparator]
      refine ⟨_, .next isBlank_nil (spellsText_writeString name) isBlank_nil (hItems.blank hSpace), ?_⟩
      rw [itemChars]
      simp [hWritten]

/-- What is written for a list of names is one of its texts. -/
theorem spellsList_listChars (names : List String) : SpellsList names (listChars names) := by
  cases names with
  | nil => exact .empty isBlank_nil isBlank_nil isBlank_nil
  | cons name names =>
      obtain ⟨items, hItems, hWritten⟩ := spellsItems_itemChars name names
      have hList := SpellsList.items isBlank_nil hItems isBlank_nil
      rw [listChars, List.cons_append, hWritten]
      exact hList

end Lists

section Objects

variable {limits : Limits} {depth fuel : Nat} {found : List (Wide × Value)}

theorem skipSeparators_space (rest : List Char) : skipSeparators (' ' :: rest) = skipSeparators rest := rfl

theorem writeString_append (text : String) (rest : List Char) :
    writeString text ++ rest = '"' :: (text.toList.flatMap escapeChar ++ '"' :: rest) := by
  simp [writeString]

/-- A string is read back from how it is written, and what follows it is left. -/
theorem readString_flatMap_escapeChar {opening : Nat} {before : List Point} {rest : List Char} (chars : List Char) :
    readString limits opening (chars.flatMap escapeChar ++ '"' :: rest) before =
      .ok (before.reverse ++ Point.ofChars chars, rest) :=
  readString_of_spellsChars (spellsChars_flatMap_escapeChar chars)

/-- Nothing is skipped before a string. -/
@[simp] theorem skipSeparators_writeString (text : String) (rest : List Char) :
    skipSeparators (writeString text ++ rest) = writeString text ++ rest :=
  skipSeparators_of_spellsText (spellsText_writeString text) rest

theorem readValue_writeString (text : String) (rest : List Char) :
    readValue limits (fuel + 1) depth (writeString text ++ rest) = .ok (.text text, rest) :=
  readValue_of_spellsText (spellsText_writeString text) rest

/-- The members whose values are the texts of the entries. -/
def ofTexts (entries : List (String × String)) : List (Wide × Value) :=
  entries.map fun (k, v) => (↑k, .text v)

@[simp] theorem ofTexts_cons (name value : String) (entries : List (String × String)) :
    ofTexts ((name, value) :: entries) = (↑name, .text value) :: ofTexts entries := rfl

/-- A member with what follows its value. -/
def writtenMember (name value : String) (rest : List Char) : List Char :=
  writeString name ++ ':' :: ' ' :: (writeString value ++ rest)

/-- The characters of the members after the first, up to the closing brace. -/
def memberChars : List (String × String) → List Char
  | [] => ['\x7d']
  | (name, value) :: rest => ',' :: ' ' :: writtenMember name value (memberChars rest)

/-- The characters of an object whose members are texts. -/
def objectChars : List (String × String) → List Char
  | [] => ['\x7b', '\x7d']
  | (name, value) :: rest => '\x7b' :: writtenMember name value (memberChars rest)

theorem memberPoints_ofTexts (entries : List (String × String)) :
    memberPoints (ofTexts entries) = Point.ofChars (memberChars entries) := by
  induction entries with
  | nil => rfl
  | cons entry rest ih =>
      obtain ⟨name, value⟩ := entry
      simp [memberPoints, memberChars, writtenMember, Value.points, writeText_ofText, ih]

/-- An object of texts is written in characters. -/
theorem render_ofTexts (entries : List (String × String)) :
    (Value.object (ofTexts entries)).render = String.ofList (objectChars entries) := by
  rw [Value.render, Wide.ofText_ofList, Wide.mk.injEq]
  cases entries with
  | nil => rfl
  | cons entry rest =>
      obtain ⟨name, value⟩ := entry
      simp [objectChars, writtenMember, Value.points, writeText_ofText, memberPoints_ofTexts]

theorem readMembers_last (name value : String) (rest : List Char) :
    readMembers limits (fuel + 2) depth (writtenMember name value ('\x7d' :: rest)) found =
      .ok (.object (found.reverse ++ [((name : Wide), .text value)]), rest) := by
  rw [writtenMember, writeString_append, readMembers]
  simp [readString_flatMap_escapeChar, skipSeparators_of_not (c := ':') rfl, skipSeparators_of_not (c := '\x7d') rfl,
    skipSeparators_space, readValue_writeString, Wide.ofText]

theorem readMembers_next (name value name' value' : String) (rest : List Char) :
    readMembers limits (fuel + 2) depth (writtenMember name value (',' :: ' ' :: writtenMember name' value' rest))
        found =
      readMembers limits (fuel + 1) depth (writtenMember name' value' rest) (((name : Wide), .text value) :: found) := by
  rw [writtenMember, writeString_append, readMembers]
  simp [readString_flatMap_escapeChar, skipSeparators_of_not (c := ':') rfl, skipSeparators_of_not (c := ',') rfl,
    skipSeparators_space, readValue_writeString, writtenMember, Wide.ofText]

/-- Each member takes one unit of fuel, and its value another one. -/
theorem readMembers_written (name value : String) (entries : List (String × String))
    (hFuel : entries.length + 2 ≤ fuel) :
    readMembers limits fuel depth (writtenMember name value (memberChars entries)) found =
      .ok (.object (found.reverse ++ ofTexts ((name, value) :: entries)), []) := by
  induction entries generalizing fuel name value found with
  | nil =>
      obtain ⟨fuel, rfl⟩ := Nat.exists_eq_add_of_le' hFuel
      exact readMembers_last name value []
  | cons entry entries ih =>
      obtain ⟨name', value'⟩ := entry
      rw [List.length_cons] at hFuel
      obtain ⟨fuel, rfl⟩ := Nat.exists_eq_add_of_le' hFuel
      rw [memberChars, ← Nat.add_assoc fuel, readMembers_next, ih _ _ (by omega)]
      simp

/-- Every member has a character of its own in the writing. -/
theorem length_le_memberChars (entries : List (String × String)) : entries.length ≤ (memberChars entries).length := by
  induction entries with
  | nil => exact Nat.zero_le _
  | cons entry rest ih =>
      simp only [memberChars, writtenMember, List.length_cons, List.length_append]
      omega

theorem readValue_empty (rest : List Char) :
    readValue limits (fuel + 1) (depth + 1) ('\x7b' :: '\x7d' :: rest) = .ok (.object [], rest) := by
  cases hEmpty : limits.countsEmpty <;> simp [readValue, skipSeparators_of_not (c := '\x7d') rfl, hEmpty]

theorem readValue_object {text : List Char} (h : ∀ rest, skipSeparators text ≠ '\x7d' :: rest) :
    readValue limits (fuel + 1) (depth + 1) ('\x7b' :: text) =
      readMembers limits fuel depth (skipSeparators text) [] := by
  rw [readValue.eq_def]
  dsimp only
  split <;> simp_all

/-- An object whose members are texts is read back from its writing, member by member. -/
theorem readChars_objectChars (hDepth : 0 < limits.depth) (entries : List (String × String)) :
    readChars limits (objectChars entries) = .ok (.object (ofTexts entries)) := by
  obtain ⟨depth, hDepth⟩ := Nat.exists_eq_add_of_le' hDepth
  cases entries with
  | nil =>
      refine readChars_of_readValue isBlank_nil rfl (by decide) isBlank_nil ?_
      rw [hDepth]
      exact readValue_empty []
  | cons entry entries =>
      obtain ⟨name, value⟩ := entry
      have hBlank (rest : List Char) : skipSeparators (writtenMember name value rest) = writtenMember name value rest :=
        skipSeparators_writeString name _
      have hFuel := length_le_memberChars entries
      refine readChars_of_readValue isBlank_nil rfl (by decide) isBlank_nil ?_
      rw [hDepth, readValue_object, hBlank, readMembers_written]
      · rfl
      · simp only [writtenMember, writeString, List.length_append, List.length_cons]
        omega
      · intro rest hClosing
        rw [hBlank, writtenMember, writeString_append] at hClosing
        cases hClosing

end Objects

end ConfigGate.Json
