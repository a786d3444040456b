import ConfigGate.Json.Reader
import Mathlib.Data.List.TakeDrop
import Mathlib.Data.List.TakeWhile

/-! What the reader of JSON leaves of a text, how deeply nested its value is, and when it gives up on a text
for another reason than a fault of the text as such. -/
namespace ConfigGate.Json

open Text (Point Wide)

/-- The number of brackets and braces that open a list or an object. -/
def openings (text : List Char) : Nat :=
  text.countP fun c => c = '[' || c = '\x7b'

theorem openings_le_of_suffix {rest text : List Char} (h : rest <:+ text) : openings rest ≤ openings text :=
  h.sublist.countP_le

theorem skipSeparators_suffix (text : List Char) : skipSeparators text <:+ text :=
  List.dropWhile_suffix isSeparator

/-- What follows a character after separators is an end of the text. -/
theorem suffix_of_skipSeparators {c : Char} {rest last : List Char} (h : skipSeparators rest = c :: last) :
    last <:+ rest :=
  (List.suffix_cons c last).trans (h ▸ skipSeparators_suffix rest)

/-- Somewhere in the text more digits stand in a row than the limit for numbers allows. -/
def Limits.IsPassedIn (limits : Limits) (text : List Char) : Prop :=
  ∃ digits negative isInteger, digits <:+: text ∧ (∀ c ∈ digits, c.isDigit) ∧
    limits.numbers.isPassed digits.length negative isInteger

theorem Limits.IsPassedIn.of_suffix {limits : Limits} {rest text : List Char} (h : limits.IsPassedIn rest)
    (hSuffix : rest <:+ text) : limits.IsPassedIn text := by
  obtain ⟨digits, negative, isInteger, hInfix, hDigits, hPassed⟩ := h
  exact ⟨digits, negative, isInteger, hInfix.trans hSuffix.isInfix, hDigits, hPassed⟩

section Strings

variable {α : Type} {text rest : List Char} {result : Except Failure (α × List Char)}

/-- What is read leaves an end of the text, and fails by faults of the text as such alone. -/
def Leaves (text : List Char) : Except Failure (α × List Char) → Prop
  | .ok (_, rest) => rest <:+ text
  | .error failure => failure.fault.isSyntactic

theorem Leaves.of_suffix (h : Leaves rest result) (hSuffix : rest <:+ text) : Leaves text result := by
  cases result with
  | error failure => exact h
  | ok found => exact List.IsSuffix.trans h hSuffix

theorem isSyntactic_of_unitPoint {limits : Limits} {unit remaining : Nat} {failure : Failure}
    (h : unitPoint limits unit remaining = .error failure) : failure.fault.isSyntactic := by
  unfold unitPoint at h
  split at h
  · obtain rfl := Except.error.inj h
    rfl
  · cases h

theorem leaves_readString (limits : Limits) (opening : Nat) (text : List Char) (found : List Point) :
    Leaves text (readString limits opening text found) := by
  fun_induction readString limits opening text found with
  | case1 | case3 | case4 | case5 | case11 | case14 | case15 | case17 => exact rfl
  | case2 rest => exact List.suffix_cons _ _
  | case6 a b c d e f g h next rest found _ _ _ _ _ _ _ ih =>
      exact ih.of_suffix ⟨['\\', 'u', a, b, c, d, '\\', 'u', e, f, g, h], rfl⟩
  | case7 a b c d e f g h next rest found _ _ _ _ _ _ _ failure hUnit => exact isSyntactic_of_unitPoint hUnit
  | case8 a b c d e f g h next rest found _ _ _ _ _ _ _ _ _ ih => exact ih.of_suffix ⟨['\\', 'u', a, b, c, d], rfl⟩
  | case9 a b c d e f g h next rest found _ _ _ _ failure hUnit => exact isSyntactic_of_unitPoint hUnit
  | case10 a b c d e f g h next rest found _ _ _ _ _ _ ih => exact ih.of_suffix ⟨['\\', 'u', a, b, c, d], rfl⟩
  | case12 a b c d next rest found _ _ _ _ failure hUnit => exact isSyntactic_of_unitPoint hUnit
  | case13 a b c d next rest found _ _ _ _ _ _ ih => exact ih.of_suffix ⟨['\\', 'u', a, b, c, d], rfl⟩
  | case16 c rest found _ _ _ _ _ ih => exact ih.of_suffix ⟨['\\', c], rfl⟩
  | case18 c rest found _ _ _ _ _ _ _ ih => exact ih.of_suffix (List.suffix_cons _ _)

end Strings

section Numbers

variable {text rest digits : List Char}

theorem of_spanDigits (h : spanDigits text = (digits, rest)) :
    text = digits ++ rest ∧ ∀ c ∈ digits, c.isDigit := by
  unfold spanDigits at h
  rw [List.span_eq_takeWhile_dropWhile, Prod.mk.injEq] at h
  obtain ⟨rfl, rfl⟩ := h
  exact ⟨(List.takeWhile_append_dropWhile).symm, fun c hMem => List.mem_takeWhile_imp hMem⟩

theorem of_readWhole (h : readWhole text = some (digits, rest)) :
    text = digits ++ rest ∧ ∀ c ∈ digits, c.isDigit := by
  unfold readWhole at h
  split at h
  · obtain ⟨rfl, rfl⟩ := Prod.mk.inj (Option.some.inj h)
    exact ⟨rfl, List.forall_mem_singleton.mpr rfl⟩
  · split at h
    · cases h
    · exact of_spanDigits (Option.some.inj h)

theorem suffix_of_readFraction (h : readFraction text = some (digits, rest)) : rest <:+ text := by
  unfold readFraction at h
  split at h
  · split at h
    · cases h
    · rw [(of_spanDigits (Option.some.inj h)).1]
      exact (List.suffix_append _ _).trans (List.suffix_cons _ _)
  · cases h

theorem suffix_of_readExponent {power : Int} (h : readExponent text = some (power, rest)) : rest <:+ text := by
  unfold readExponent at h
  split at h
  · rename_i e after
    split at h
    · split at h
      rename_i negative digits hSign
      have hDigits : digits <:+ after := by
        split at hSign
        all_goals
          obtain ⟨-, rfl⟩ := Prod.mk.inj hSign
          first | exact List.suffix_cons _ _ | exact List.suffix_rfl
      split at h
      · cases h
      · rename_i hSpan
        obtain ⟨-, rfl⟩ := Prod.mk.inj (Option.some.inj h)
        rw [(of_spanDigits hSpan).1] at hDigits
        exact (List.suffix_append _ _).trans (hDigits.trans (List.suffix_cons _ _))
    · cases h
  · cases h

/-- What may be read at the beginning of a text leaves an end of it. -/
theorem suffix_getD {α : Type} (read : Option (α × List Char)) (text : List Char)
    (h : ∀ a rest, read = some (a, rest) → rest <:+ text) (a : α) : (read.getD (a, text)).2 <:+ text := by
  cases read with
  | none => exact List.suffix_rfl
  | some found => exact h _ _ rfl

end Numbers

section Values

variable {limits : Limits} {depth : Nat} {text rest : List Char} {bound : List Char → Nat}
  {result : Except Failure (Value × List Char)}

/-- What is read leaves an end of the text, and is nested no deeper than the bound for that end. A fault of
another kind than those of the text as such has its cause in the text. -/
def Reads (limits : Limits) (depth : Nat) (text : List Char) (bound : List Char → Nat) :
    Except Failure (Value × List Char) → Prop
  | .ok (value, rest) => rest <:+ text ∧ value.depth ≤ bound rest
  | .error failure => failure.fault.isSyntactic ∨ limits.IsPassedIn text ∨ depth < openings text

theorem reads_readNumber (limits : Limits) (depth : Nat) (text : List Char) :
    Reads limits depth text (fun _ => 0) (readNumber limits text) := by
  unfold readNumber
  split
  rename_i negative unsigned hSign
  have hUnsigned : unsigned <:+ text := by
    split at hSign
    all_goals
      obtain ⟨-, rfl⟩ := Prod.mk.inj hSign
      first | exact List.suffix_cons _ _ | exact List.suffix_rfl
  split
  · exact .inl rfl
  · rename_i whole rest hWhole
    obtain ⟨hText, hDigits⟩ := of_readWhole hWhole
    have hRest : rest <:+ text := (hText ▸ List.suffix_append whole rest).trans hUnsigned
    have hWholeIn : whole <:+: text :=
      (hText ▸ List.prefix_append whole rest).isInfix.trans hUnsigned.isInfix
    have hFraction := suffix_getD (readFraction rest) rest (fun _ _ => suffix_of_readFraction) []
    generalize (readFraction rest).getD ([], rest) = fraction at hFraction ⊢
    have hExponent := suffix_getD (readExponent fraction.2) fraction.2 (fun _ _ => suffix_of_readExponent) 0
    dsimp only
    split
    · rename_i hPassed
      exact .inr (.inl ⟨whole, negative, _, hWholeIn, hDigits, hPassed⟩)
    · split
      · exact ⟨hFraction.trans hRest, Nat.le_refl 0⟩
      · exact ⟨hExponent.trans (hFraction.trans hRest), Nat.le_refl 0⟩

theorem reads_readScalar (limits : Limits) (depth : Nat) (text : List Char) :
    Reads limits depth text (fun _ => 0) (readScalar limits text) := by
  unfold readScalar
  split
  · exact ⟨⟨"null".toList, rfl⟩, Nat.le_refl 0⟩
  · exact ⟨⟨"true".toList, rfl⟩, Nat.le_refl 0⟩
  · exact ⟨⟨"false".toList, rfl⟩, Nat.le_refl 0⟩
  · exact ⟨⟨"NaN".toList, rfl⟩, Nat.le_refl 0⟩
  · exact ⟨⟨"Infinity".toList, rfl⟩, Nat.le_refl 0⟩
  · exact ⟨⟨"-Infinity".toList, rfl⟩, Nat.le_refl 0⟩
  · exact reads_readNumber limits depth text

/-- The levels that have been opened between a text and an end of it. -/
def opened (text rest : List Char) : Nat := openings text - openings rest

theorem opened_le {text middle rest last : List Char} (hMiddle : middle <:+ text) (hLast : last <:+ rest) :
    opened middle rest ≤ opened text last := by
  have hTop := openings_le_of_suffix hMiddle
  have hBottom := openings_le_of_suffix hLast
  unfold opened
  omega

/-- Inside of a bracket there is one level less. -/
theorem opened_cons {c : Char} (hOpening : c = '[' ∨ c = '\x7b') {text rest last : List Char}
    (hRest : rest <:+ text) (hLast : last <:+ rest) : opened rest last + 1 ≤ opened (c :: text) last := by
  have hCons : openings (c :: text) = openings text + 1 := by
    unfold openings
    rw [List.countP_cons_of_pos (by simpa using hOpening)]
  have hTop := openings_le_of_suffix hRest
  have hBottom := openings_le_of_suffix hLast
  unfold opened
  omega

theorem Reads.of_suffix {depth' : Nat} {bound' : List Char → Nat} (h : Reads limits depth rest bound result)
    (hSuffix : rest <:+ text) (hDepth : depth < openings rest → depth' < openings text)
    (hBound : ∀ last, last <:+ rest → bound last ≤ bound' last) : Reads limits depth' text bound' result := by
  cases result with
  | error failure => exact h.imp_right (Or.imp (·.of_suffix hSuffix) hDepth)
  | ok found => exact ⟨h.1.trans hSuffix, h.2.trans (hBound _ h.1)⟩

/-- A value that has been read lies below what was open around it, as far as one goes on. -/
theorem max_depth_le {n : Nat} {middle last : List Char} (before : Nat) (hMiddle : middle <:+ text)
    (hDepth : n ≤ opened middle rest) (hLast : last <:+ rest) : max n before ≤ max before (opened text last) := by
  have hMore := hDepth.trans (opened_le hMiddle hLast)
  omega

/-- A closing bracket after the last value of a list or an object. -/
theorem Reads.closed {n before : Nat} {c : Char} {middle last : List Char} {value : Value} (hMiddle : middle <:+ text)
    (hRest : rest <:+ middle) (hDepth : n ≤ opened middle rest) (hClosing : skipSeparators rest = c :: last)
    (hValue : value.depth = max n before + 1) :
    Reads limits depth text (fun last => max before (opened text last) + 1) (.ok (value, last)) := by
  have hLast := suffix_of_skipSeparators hClosing
  refine ⟨(hLast.trans hRest).trans hMiddle, ?_⟩
  rw [hValue]
  exact Nat.succ_le_succ (max_depth_le before hMiddle hDepth hLast)

/-- Reading on after a comma. The depth of what has been found counts as that of what is opened from here on. -/
theorem Reads.next {n before : Nat} {c : Char} {middle last : List Char} (hMiddle : middle <:+ text)
    (hRest : rest <:+ middle) (hDepth : n ≤ opened middle rest) (hComma : skipSeparators rest = c :: last)
    (h : Reads limits depth (skipSeparators last)
      (fun final => max (max n before) (opened (skipSeparators last) final) + 1) result) :
    Reads limits depth text (fun final => max before (opened text final) + 1) result := by
  have hBegin := (skipSeparators_suffix last).trans (suffix_of_skipSeparators hComma)
  have hSuffix := (hBegin.trans hRest).trans hMiddle
  refine h.of_suffix hSuffix (fun hDeep => hDeep.trans_le (openings_le_of_suffix hSuffix)) fun final hFinal => ?_
  have hHere := max_depth_le before hMiddle hDepth (hFinal.trans hBegin)
  have hThere := opened_le hSuffix (List.suffix_refl final)
  omega

theorem itemDepth_le_iff {items : List Value} {n : Nat} : itemDepth items ≤ n ↔ ∀ v ∈ items, v.depth ≤ n := by
  induction items with
  | nil => simp [itemDepth]
  | cons v rest ih => rw [itemDepth, Nat.max_le, List.forall_mem_cons, ih]

theorem memberDepth_le_iff {members : List (Wide × Value)} {n : Nat} :
    memberDepth members ≤ n ↔ ∀ member ∈ members, member.2.depth ≤ n := by
  induction members with
  | nil => simp [memberDepth]
  | cons member rest ih => rw [memberDepth, Nat.max_le, List.forall_mem_cons, ih]

theorem depth_list_reverse (items : List Value) : (Value.list items.reverse).depth = itemDepth items + 1 := by
  rw [Value.depth, Nat.add_right_cancel_iff]
  refine Nat.le_antisymm (itemDepth_le_iff.mpr fun v hMem => ?_) (itemDepth_le_iff.mpr fun v hMem => ?_)
  · exact itemDepth_le_iff.mp (Nat.le_refl _) v (List.mem_reverse.mp hMem)
  · exact itemDepth_le_iff.mp (Nat.le_refl _) v (List.mem_reverse.mpr hMem)

theorem depth_object_reverse (members : List (Wide × Value)) :
    (Value.object members.reverse).depth = memberDepth members + 1 := by
  rw [Value.depth, Nat.add_right_cancel_iff]
  refine Nat.le_antisymm (memberDepth_le_iff.mpr fun m hMem => ?_) (memberDepth_le_iff.mpr fun m hMem => ?_)
  · exact memberDepth_le_iff.mp (Nat.le_refl _) m (List.mem_reverse.mp hMem)
  · exact memberDepth_le_iff.mp (Nat.le_refl _) m (List.mem_reverse.mpr hMem)

/-- Every reading with this fuel is sound, of a value, of items after others, and of members after others. -/
structure AllRead (limits : Limits) (fuel : Nat) : Prop where
  value : ∀ depth text, Reads limits depth text (opened text) (readValue limits fuel depth text)
  items : ∀ depth text found, Reads limits depth text (fun rest => max (itemDepth found) (opened text rest) + 1)
    (readItems limits fuel depth text found)
  members : ∀ depth text found,
    Reads limits depth text (fun rest => max (memberDepth found) (opened text rest) + 1)
      (readMembers limits fuel depth text found)

variable {fuel : Nat}

theorem AllRead.items_succ (h : AllRead limits fuel) (depth : Nat) (text : List Char) (found : List Value) :
    Reads limits depth text (fun rest => max (itemDepth found) (opened text rest) + 1)
      (readItems limits (fuel + 1) depth text found) := by
  rw [readItems]
  have hItem := h.value depth text
  cases hRead : readValue limits fuel depth text with
  | error failure =>
      rw [hRead] at hItem
      exact hItem
  | ok read =>
      obtain ⟨item, rest⟩ := read
      rw [hRead] at hItem
      obtain ⟨hRest, hDepth⟩ := hItem
      dsimp only
      split
      · rename_i last hClosing
        exact .closed List.suffix_rfl hRest hDepth hClosing (depth_list_reverse _)
      · rename_i last hComma
        exact .next List.suffix_rfl hRest hDepth hComma (h.items depth (skipSeparators last) (item :: found))
      · exact .inl rfl

theorem AllRead.members_succ (h : AllRead limits fuel) (depth : Nat) (text : List Char)
    (found : List (Wide × Value)) :
    Reads limits depth text (fun rest => max (memberDepth found) (opened text rest) + 1)
      (readMembers limits (fuel + 1) depth text found) := by
  rw [readMembers.eq_def]
  dsimp only
  split
  · rename_i start
    have hName := leaves_readString limits ('"' :: start).length start []
    cases hString : readString limits ('"' :: start).length start [] with
    | error failure =>
        rw [hString] at hName
        exact .inl hName
    | ok read =>
        obtain ⟨name, afterName⟩ := read
        rw [hString] at hName
        dsimp only
        split
        · rename_i afterColon hColon
          have hBegin : skipSeparators afterColon <:+ '"' :: start :=
            ((skipSeparators_suffix _).trans (suffix_of_skipSeparators hColon)).trans
              (List.IsSuffix.trans hName (List.suffix_cons _ _))
          have hMember := h.value depth (skipSeparators afterColon)
          cases hRead : readValue limits fuel depth (skipSeparators afterColon) with
          | error failure =>
              rw [hRead] at hMember
              exact hMember.imp_right (Or.imp (·.of_suffix hBegin) (·.trans_le (openings_le_of_suffix hBegin)))
          | ok read =>
              obtain ⟨value, rest⟩ := read
              rw [hRead] at hMember
              obtain ⟨hRest, hDepth⟩ := hMember
              dsimp only
              split
              · rename_i last hClosing
                exact .closed hBegin hRest hDepth hClosing (depth_object_reverse _)
              · rename_i last hComma
                exact .next hBegin hRest hDepth hComma
                  (h.members depth (skipSeparators last) ((⟨name⟩, value) :: found))
              · exact .inl rfl
        · exact .inl rfl
  · exact .inl rfl

/-- An opening bracket is followed by a closing one or by what the list or object has in it. -/
theorem Reads.of_opening {c : Char} (hOpening : c = '[' ∨ c = '\x7b')
    (h : Reads limits depth (skipSeparators text) (fun last => max 0 (opened (skipSeparators text) last) + 1) result) :
    Reads limits (depth + 1) (c :: text) (opened (c :: text)) result := by
  have hSkip := skipSeparators_suffix text
  refine h.of_suffix (hSkip.trans (List.suffix_cons _ _)) (fun hDeep => ?_) fun last hLast => ?_
  · have hMore := opened_cons hOpening hSkip (List.nil_suffix)
    unfold opened at hMore
    simp only [openings, List.countP_nil] at hMore hDeep ⊢
    omega
  · have hMore := opened_cons hOpening hSkip hLast
    omega

/-- An opening bracket with its closing one is one level. -/
theorem Reads.of_empty {opening closing : Char} (hOpening : opening = '[' ∨ opening = '\x7b')
    (hClosing : skipSeparators text = closing :: rest) {value : Value} (hValue : value.depth = 1) :
    Reads limits depth (opening :: text) (opened (opening :: text)) (.ok (value, rest)) := by
  have hRest := suffix_of_skipSeparators hClosing
  have hMore := opened_cons hOpening hRest List.suffix_rfl
  exact ⟨hRest.trans (List.suffix_cons _ _), by omega⟩

theorem AllRead.value_succ (h : AllRead limits fuel) (depth : Nat) (text : List Char) :
    Reads limits depth text (opened text) (readValue limits (fuel + 1) depth text) := by
  rw [readValue.eq_def]
  dsimp only
  split
  · rename_i start
    have hString := leaves_readString limits ('"' :: start).length start []
    cases hRead : readString limits ('"' :: start).length start [] with
    | error failure =>
        rw [hRead] at hString
        exact .inl hString
    | ok read =>
        rw [hRead] at hString
        exact ⟨List.IsSuffix.trans hString (List.suffix_cons _ _), Nat.zero_le _⟩
  · rename_i start
    have hTooDeep : 0 < openings ('[' :: start) := by simp [openings]
    split
    · exact .inr (.inr hTooDeep)
    · rename_i hClosing _
      exact .of_empty (.inl rfl) hClosing rfl
    · exact .inr (.inr hTooDeep)
    · exact .of_opening (.inl rfl) (h.items _ _ [])
  · rename_i start
    have hTooDeep : 0 < openings ('\x7b' :: start) := by simp [openings]
    split
    · exact .inr (.inr hTooDeep)
    · rename_i hClosing _
      exact .of_empty (.inr rfl) hClosing rfl
    · exact .inr (.inr hTooDeep)
    · exact .of_opening (.inr rfl) (h.members _ _ [])
  · exact (reads_readScalar limits depth text).of_suffix List.suffix_rfl id fun _ _ => Nat.zero_le _

theorem allRead (limits : Limits) (fuel : Nat) : AllRead limits fuel := by
  induction fuel with
  | zero =>
      refine ⟨fun _ _ => ?_, fun _ _ _ => ?_, fun _ _ _ => ?_⟩
      · rw [readValue]
        exact .inl rfl
      · rw [readItems]
        exact .inl rfl
      · rw [readMembers]
        exact .inl rfl
  | succ fuel ih => exact ⟨ih.value_succ, ih.items_succ, ih.members_succ⟩

/-- A document is nested no deeper than its text has opening brackets. -/
theorem depth_le_of_readChars {document : Value} (h : readChars limits text = .ok document) :
    document.depth ≤ openings text := by
  have hRead := (allRead limits (2 * text.length + 2)).value limits.depth (skipSeparators text)
  have hSkip := openings_le_of_suffix (skipSeparators_suffix text)
  unfold readChars at h
  split at h
  · cases h
  · dsimp only at h
    split at h
    · cases h
    · rename_i value rest hValue
      rw [hValue] at hRead
      split at h
      · obtain rfl := Except.ok.inj h
        exact (hRead.2.trans (Nat.sub_le _ _)).trans hSkip
      · cases h

/-- A text that is no document has a fault, or an integer that is too long, or more opening brackets than
there may be levels. -/
theorem cause_of_readChars {failure : Failure} (h : readChars limits text = .error failure) :
    failure.fault.isSyntactic ∨ limits.IsPassedIn text ∨ limits.depth < openings text := by
  have hRead := (allRead limits (2 * text.length + 2)).value limits.depth (skipSeparators text)
  have hSkip := skipSeparators_suffix text
  unfold readChars at h
  split at h
  · obtain rfl := Except.error.inj h
    exact .inl rfl
  · dsimp only at h
    split at h
    · rename_i fault hFault
      obtain rfl := Except.error.inj h
      rw [hFault] at hRead
      exact hRead.imp_right (Or.imp (·.of_suffix hSkip) (·.trans_le (openings_le_of_suffix hSkip)))
    · split at h
      · cases h
      · obtain rfl := Except.error.inj h
        exact .inl rfl

end Values

theorem spanDigits_of_all {text : List Char} (h : ∀ c ∈ text, c.isDigit) : spanDigits text = (text, []) := by
  unfold spanDigits
  rw [List.span_eq_takeWhile_dropWhile, List.takeWhile_eq_self_iff.mpr h, List.dropWhile_eq_nil_iff.mpr h]

/-- An integer that is too long is given up, and with it the text. -/
theorem readChars_ones {limits : Limits} {n : Nat} (h : limits.numbers.isPassed (n + 1) false true) :
    readChars limits (List.replicate (n + 1) '1') = .error ⟨.tooManyDigits (n + 1), n + 1⟩ := by
  have hSpan : spanDigits (List.replicate (n + 1) '1') = (List.replicate (n + 1) '1', []) :=
    spanDigits_of_all fun c hMem => by rw [List.eq_of_mem_replicate hMem]; decide
  have hWhole : readWhole (List.replicate (n + 1) '1') = some (List.replicate (n + 1) '1', []) := by
    unfold readWhole
    rw [List.replicate_succ] at hSpan ⊢
    simp [hSpan]
  have hNumber : readNumber limits (List.replicate (n + 1) '1') = .error ⟨.tooManyDigits (n + 1), n + 1⟩ := by
    unfold readNumber
    rw [List.replicate_succ] at hWhole ⊢
    simp [hWhole, readFraction, readExponent, h]
  have hValue (fuel depth : Nat) : readValue limits (fuel + 1) depth (List.replicate (n + 1) '1') =
      .error ⟨.tooManyDigits (n + 1), n + 1⟩ := by
    rw [readValue.eq_def]
    exact hNumber
  have hSkip : skipSeparators (List.replicate (n + 1) '1') = List.replicate (n + 1) '1' := rfl
  unfold readChars
  dsimp only
  rw [hSkip, hValue]
  rfl

end ConfigGate.Json
