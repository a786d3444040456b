import ConfigGate.Proofs.Text.Blank
import ConfigGate.Trace.Hex

/-! Which texts spell a hexadecimal number: those of a grammar with blanks, a sign, a base prefix and groups of
digits. A text of nothing but hexadecimal digits is one of them. -/
namespace ConfigGate.Trace

variable {text : List Char} {c : Char}

/-- The ways to begin a number, before its digits. -/
def signs : List (List Char) := [[], ['+'], ['-']]

/-- The ways to tell that hexadecimal digits follow. -/
def basePrefixes : List (List Char) := [[], ['0', 'x'], ['0', 'X'], ['0', 'x', '_'], ['0', 'X', '_']]

/-- Every group has digits in it, and nothing else. -/
def AllDigits (groups : List (List Char)) : Prop :=
  ∀ group ∈ groups, group ≠ [] ∧ ∀ c ∈ group, isHexDigit c

/-- The text spells a hexadecimal number. A digit may be of any script; blanks may stand around the number, a
sign and a base prefix before the digits, and single underscores between them. -/
inductive SpellsNumber (text : List Char) : Prop
  | intro {before sign base after : List Char} {groups : List (List Char)}
      (shape : text.map asciiDigit = before ++ (sign ++ (base ++ ['_'].intercalate groups)) ++ after)
      (blank : ∀ c ∈ before ++ after, Text.isSpace c) (isSign : sign ∈ signs) (isBase : base ∈ basePrefixes)
      (some_group : groups ≠ []) (digits : AllDigits groups)

/-- What holds of the ASCII characters that are hexadecimal digits holds of all hexadecimal digits. -/
theorem forall_isHexDigit {P : Char → Prop} (h : ∀ n < 0x80, isHexDigit (Char.ofNat n) → P (Char.ofNat n))
    (hDigit : isHexDigit c) : P c := by
  have hAscii : c.toNat < 0x80 := by
    simp only [isHexDigit, Bool.or_eq_true, Bool.and_eq_true, decide_eq_true_eq, Char.le_def] at hDigit
    have hCode : c.toNat = c.val.toNat := rfl
    rcases hDigit with (⟨_, hLast⟩ | ⟨_, hLast⟩) | ⟨_, hLast⟩ <;>
      exact hCode ▸ Nat.lt_of_le_of_lt (UInt32.le_iff_toNat_le.mp hLast) (by decide)
  rw [← Char.ofNat_toNat c] at hDigit ⊢
  exact h _ hAscii hDigit

theorem asciiDigit_of_isHexDigit (h : isHexDigit c) : asciiDigit c = c :=
  forall_isHexDigit (P := fun c => asciiDigit c = c) (by decide) h

theorem isSpace_of_isHexDigit (h : isHexDigit c) : Text.isSpace c = false :=
  forall_isHexDigit (P := fun c => Text.isSpace c = false) (by decide) h

theorem ne_of_isHexDigit (h : isHexDigit c) : ∀ other ∈ ['_', '+', '-', 'x', 'X'], c ≠ other := by
  have hNone : ['_', '+', '-', 'x', 'X'].all (! isHexDigit ·) := by decide
  rintro other hMem rfl
  simpa [h] using List.all_eq_true.mp hNone c hMem

theorem allDigits_cons {group : List Char} {groups : List (List Char)} :
    AllDigits (group :: groups) ↔ (group ≠ [] ∧ ∀ c ∈ group, isHexDigit c) ∧ AllDigits groups :=
  List.forall_mem_cons

/-- Nothing but a digit can come first. -/
theorem isHexDigit_of_allDigits (h : AllDigits ((c :: text).splitOn '_')) : isHexDigit c := by
  rw [List.splitOn_cons_eq_if_modifyHead] at h
  split at h
  · exact absurd rfl (allDigits_cons.mp h).1.1
  · obtain ⟨head, tail, hSplit⟩ := List.exists_cons_of_ne_nil (List.splitOn_ne_nil '_' text)
    rw [hSplit] at h
    exact (allDigits_cons.mp h).1.2 c (.head _)

/-- A digit belongs to the first group of what follows it. -/
theorem splitOn_cons_of_isHexDigit (h : isHexDigit c) (text : List Char) :
    (c :: text).splitOn '_' = (text.splitOn '_').modifyHead (c :: ·) := by
  rw [List.splitOn_cons_eq_if_modifyHead, if_neg (by simpa using ne_of_isHexDigit h '_' (by simp))]

/-- The group of a digit that an underscore follows is that digit. -/
theorem allDigits_splitOn_underscore (c : Char) (rest : List Char) :
    AllDigits ((c :: '_' :: rest).splitOn '_') ↔ isHexDigit c ∧ AllDigits (rest.splitOn '_') := by
  have hGroups (h : isHexDigit c) : (c :: '_' :: rest).splitOn '_' = [c] :: rest.splitOn '_' := by
    rw [splitOn_cons_of_isHexDigit h, List.splitOn_cons_eq_if_modifyHead, if_pos (by decide)]
    rfl
  constructor
  · intro h
    have hDigit := isHexDigit_of_allDigits h
    rw [hGroups hDigit] at h
    exact ⟨hDigit, (allDigits_cons.mp h).2⟩
  · rintro ⟨hDigit, hRest⟩
    rw [hGroups hDigit]
    exact allDigits_cons.mpr ⟨by simpa using hDigit, hRest⟩

/-- A digit joins the group of the one behind it. -/
theorem allDigits_splitOn_cons {next : Char} (c : Char) (hNext : next ≠ '_') (rest : List Char) :
    AllDigits ((c :: next :: rest).splitOn '_') ↔ isHexDigit c ∧ AllDigits ((next :: rest).splitOn '_') := by
  obtain ⟨head, tail, hSplit⟩ := List.exists_cons_of_ne_nil (List.splitOn_ne_nil '_' rest)
  have hGroups : (next :: rest).splitOn '_' = (next :: head) :: tail := by
    rw [List.splitOn_cons_eq_if_modifyHead, if_neg (by simpa using hNext), hSplit]
    rfl
  have hWhole (h : isHexDigit c) : (c :: next :: rest).splitOn '_' = (c :: next :: head) :: tail := by
    rw [splitOn_cons_of_isHexDigit h, hGroups]
    rfl
  constructor
  · intro h
    have hDigit := isHexDigit_of_allDigits h
    rw [hWhole hDigit, allDigits_cons] at h
    rw [hGroups, allDigits_cons]
    exact ⟨hDigit, ⟨by simp, (List.forall_mem_cons.mp h.1.2).2⟩, h.2⟩
  · rintro ⟨hDigit, hRest⟩
    rw [hGroups, allDigits_cons] at hRest
    rw [hWhole hDigit, allDigits_cons]
    exact ⟨⟨by simp, List.forall_mem_cons.mpr ⟨hDigit, hRest.1.2⟩⟩, hRest.2⟩

/-- A run of digits is made of groups with single underscores between them. -/
theorem isDigitRun_iff_splitOn : isDigitRun text ↔ AllDigits (text.splitOn '_') := by
  fun_induction isDigitRun text with
  | case1 => simp [AllDigits]
  | case2 c =>
      refine ⟨fun h => ?_, isHexDigit_of_allDigits⟩
      rw [splitOn_cons_of_isHexDigit h]
      simpa [AllDigits] using h
  | case3 c rest ih => rw [Bool.and_eq_true, ih, allDigits_splitOn_underscore]
  | case4 c rest hSome hNext ih =>
      obtain ⟨next, more, rfl⟩ := List.exists_cons_of_ne_nil fun hNone => hSome hNone
      have hNext : next ≠ '_' := fun hUnderscore => hNext more (by rw [hUnderscore])
      rw [Bool.and_eq_true, ih, allDigits_splitOn_cons c hNext]

theorem isDigitRun_iff :
    isDigitRun text ↔ ∃ groups, groups ≠ [] ∧ AllDigits groups ∧ text = ['_'].intercalate groups := by
  rw [isDigitRun_iff_splitOn]
  constructor
  · exact fun h => ⟨_, List.splitOn_ne_nil '_' text, h, (List.intercalate_splitOn '_').symm⟩
  · rintro ⟨groups, hSome, hDigits, rfl⟩
    have hNone : ∀ group ∈ groups, '_' ∉ group := fun group hMem hUnderscore =>
      ne_of_isHexDigit ((hDigits group hMem).2 '_' hUnderscore) '_' (by simp) rfl
    rwa [List.splitOn_intercalate '_' hNone hSome]

/-- Nothing but digits and underscores stands in a run of digits. -/
theorem digit_or_underscore (h : isDigitRun text) : ∀ c ∈ text, isHexDigit c ∨ c = '_' := by
  fun_induction isDigitRun text with
  | case1 => simp
  | case2 c => simpa using .inl h
  | case3 c rest ih =>
      rw [Bool.and_eq_true] at h
      exact List.forall_mem_cons.mpr ⟨.inl h.1, List.forall_mem_cons.mpr ⟨.inr rfl, ih h.2⟩⟩
  | case4 c rest _ _ ih =>
      rw [Bool.and_eq_true] at h
      exact List.forall_mem_cons.mpr ⟨.inl h.1, ih h.2⟩

theorem notMem_of_isDigitRun (h : isDigitRun text) : ∀ other ∈ ['+', '-', 'x', 'X'], other ∉ text := by
  intro other hOther hMem
  rcases digit_or_underscore h other hMem with hDigit | rfl
  · exact ne_of_isHexDigit hDigit other (.tail _ hOther) rfl
  · revert hOther
    decide

theorem dropSign_split (text : List Char) : ∃ sign ∈ signs, text = sign ++ dropSign text := by
  unfold dropSign
  split
  · exact ⟨['+'], by decide, rfl⟩
  · exact ⟨['-'], by decide, rfl⟩
  · exact ⟨[], by decide, rfl⟩

theorem dropBasePrefix_split (text : List Char) : ∃ base ∈ basePrefixes, text = base ++ dropBasePrefix text := by
  have hNone : ∃ base ∈ basePrefixes, text = base ++ text := ⟨[], by decide, rfl⟩
  unfold dropBasePrefix
  split
  · split
    · rename_i x rest hPrefix
      obtain rfl | rfl : x = 'x' ∨ x = 'X' := by simpa using hPrefix
      · exact ⟨['0', 'x', '_'], by decide, rfl⟩
      · exact ⟨['0', 'X', '_'], by decide, rfl⟩
    · exact hNone
  · split
    · rename_i x rest _ hPrefix
      obtain rfl | rfl : x = 'x' ∨ x = 'X' := by simpa using hPrefix
      · exact ⟨['0', 'x'], by decide, rfl⟩
      · exact ⟨['0', 'X'], by decide, rfl⟩
    · exact hNone
  · exact hNone

/-- The sign that stands before a text without signs is dropped, and nothing else. -/
theorem dropSign_append {sign rest : List Char} (hSign : sign ∈ signs) (hRest : ∀ c ∈ ['+', '-'], c ∉ rest) :
    dropSign (sign ++ rest) = rest := by
  have hNone : dropSign rest = rest := by
    unfold dropSign
    split
    · exact absurd (.head _) (hRest '+' (by simp))
    · exact absurd (.head _) (hRest '-' (by simp))
    · rfl
  simp only [signs, List.mem_cons, List.not_mem_nil, or_false] at hSign
  obtain rfl | rfl | rfl := hSign
  · exact hNone
  · rfl
  · rfl

/-- The base prefix that stands before a run of digits is dropped, and nothing else. -/
theorem dropBasePrefix_append {base : List Char} (hBase : base ∈ basePrefixes) (h : isDigitRun text) :
    dropBasePrefix (base ++ text) = text := by
  have hx : 'x' ∉ text := notMem_of_isDigitRun h 'x' (by simp)
  have hX : 'X' ∉ text := notMem_of_isDigitRun h 'X' (by simp)
  have hUnderscore (rest : List Char) : text ≠ '_' :: rest := by
    rintro rfl
    exact absurd (isHexDigit_of_allDigits (isDigitRun_iff_splitOn.mp h)) (by decide)
  simp only [basePrefixes, List.mem_cons, List.not_mem_nil, or_false] at hBase
  obtain rfl | rfl | rfl | rfl | rfl := hBase
  · rw [List.nil_append]
    unfold dropBasePrefix
    have hNeither (x : Char) (hMem : x ∈ text) : ¬ (x = 'x' || x = 'X') := by
      simpa using ⟨fun hSame => hx (hSame ▸ hMem), fun hSame => hX (hSame ▸ hMem)⟩
    split
    · rw [if_neg (hNeither _ (by simp))]
    · rw [if_neg (hNeither _ (by simp))]
    · rfl
  · rw [List.cons_append, List.cons_append, List.nil_append, dropBasePrefix]
    · rfl
    · exact fun rest hRest => hUnderscore rest hRest
  · rw [List.cons_append, List.cons_append, List.nil_append, dropBasePrefix]
    · rfl
    · exact fun rest hRest => hUnderscore rest hRest
  · rfl
  · rfl

/-- No part of a number is a blank. -/
theorem isSpace_of_mem {sign base run : List Char} (hSign : sign ∈ signs) (hBase : base ∈ basePrefixes)
    (hRun : isDigitRun run) : ∀ c ∈ sign ++ (base ++ run), Text.isSpace c = false := by
  have hNone : (signs.flatten ++ basePrefixes.flatten).all (! Text.isSpace ·) := by decide
  have hPart (c : Char) (hMem : c ∈ signs.flatten ++ basePrefixes.flatten) : Text.isSpace c = false := by
    simpa using List.all_eq_true.mp hNone c hMem
  intro c hMem
  rw [List.mem_append, List.mem_append] at hMem
  rcases hMem with hMem | hMem | hMem
  · exact hPart c (List.mem_append_left _ (List.mem_flatten_of_mem hSign hMem))
  · exact hPart c (List.mem_append_right _ (List.mem_flatten_of_mem hBase hMem))
  · rcases digit_or_underscore hRun c hMem with hDigit | rfl
    · exact isSpace_of_isHexDigit hDigit
    · decide

/-- The reader accepts the spellings of numbers and nothing else. -/
theorem spellsHex_iff : spellsHex text ↔ SpellsNumber text := by
  unfold spellsHex
  constructor
  · intro h
    obtain ⟨groups, hSome, hDigits, hRun⟩ := isDigitRun_iff.mp h
    obtain ⟨before, after, hText, hBlank⟩ := Text.trimWhile_between Text.isSpace (text.map asciiDigit)
    obtain ⟨sign, hSign, hSigned⟩ := dropSign_split (Text.trimWhile Text.isSpace (text.map asciiDigit))
    obtain ⟨base, hBase, hPrefixed⟩ :=
      dropBasePrefix_split (dropSign (Text.trimWhile Text.isSpace (text.map asciiDigit)))
    rw [hRun] at hPrefixed
    rw [hPrefixed] at hSigned
    rw [hSigned] at hText
    exact ⟨hText, hBlank, hSign, hBase, hSome, hDigits⟩
  · rintro ⟨hText, hBlank, hSign, hBase, hSome, hDigits⟩
    have hRun := isDigitRun_iff.mpr ⟨_, hSome, hDigits, rfl⟩
    have hNoSign : ∀ c ∈ ['+', '-'], c ∉ basePrefixes.flatten := by simp [basePrefixes]
    have hUnsigned : ∀ c ∈ ['+', '-'], c ∉ _ ++ ['_'].intercalate _ := fun c hMem hIn =>
      (List.mem_append.mp hIn).elim (fun hIn => hNoSign c hMem (List.mem_flatten_of_mem hBase hIn))
        (notMem_of_isDigitRun hRun c (List.mem_append_left ['x', 'X'] hMem))
    have hBlanks := isSpace_of_mem hSign hBase hRun
    rw [hText, Text.trimWhile_around hBlank (fun c hMem => hBlanks c (List.mem_of_mem_head? hMem))
      (fun c hMem => hBlanks c (List.mem_of_mem_getLast? hMem)), dropSign_append hSign hUnsigned,
      dropBasePrefix_append hBase hRun]
    exact hRun

/-- Hexadecimal digits alone spell a number. -/
theorem spellsNumber_of_digits (hSome : text ≠ []) (h : ∀ c ∈ text, isHexDigit c) : SpellsNumber text := by
  have hSame : text.map asciiDigit = text :=
    (List.map_congr_left fun c hMem => asciiDigit_of_isHexDigit (h c hMem)).trans (List.map_id text)
  have hGroup : AllDigits [text] := by simpa [AllDigits] using ⟨hSome, h⟩
  have hShape : text.map asciiDigit = [] ++ ([] ++ ([] ++ ['_'].intercalate [text])) ++ [] := by simp [hSame]
  exact ⟨hShape, by simp, .head _, .head _, by simp, hGroup⟩

end ConfigGate.Trace
