import ConfigGate.Proofs.Text.Pieces
import ConfigGate.Proofs.Trace.Hex
import ConfigGate.Trace.Parent

/-! Which headers carry a trace, and that the header for a trace carries it. A header that is read has four
fields, of which the second and the third spell hexadecimal numbers of fixed lengths; numbers may have more
in them than hexadecimal digits. -/
namespace ConfigGate.Trace

variable {header version traceId spanId flags id : String} {text : List Char} {length : Nat}

/-- The header, without the blanks at its ends, is four fields with hyphens between them. -/
structure HasFields (header version traceId spanId flags : String) : Prop where
  joined : Text.strip header = String.intercalate "-" [version, traceId, spanId, flags]
  plain : ∀ field ∈ [version, traceId, spanId, flags], '-' ∉ field.toList

/-- The field has so many characters, all of them hexadecimal digits. -/
structure IsHexField (length : Nat) (field : String) : Prop where
  length_eq : field.length = length
  digits : ∀ c ∈ field.toList, isHexDigit c

/-- The header carries the trace id as its format has it: in the second of four fields, the ids of trace and
span being made of as many hexadecimal digits as they must have. -/
def Carries (header id : String) : Prop :=
  ∃ version spanId flags, HasFields header version id spanId flags ∧
    IsHexField traceIdLength id ∧ IsHexField spanIdLength spanId

/-- The header has four fields whose second and third spell numbers of the right lengths, with something else
than hexadecimal digits in them. -/
def IsLoose (header : String) : Prop :=
  ∃ version traceId spanId flags, HasFields header version traceId spanId flags ∧
    traceId.length = traceIdLength ∧ SpellsNumber traceId.toList ∧
    spanId.length = spanIdLength ∧ SpellsNumber spanId.toList ∧
    ∃ c ∈ traceId.toList ++ spanId.toList, ¬ isHexDigit c

theorem isHex_iff {field : String} :
    isHex field length ↔ field.length = length ∧ SpellsNumber field.toList := by
  rw [isHex, Bool.and_eq_true, beq_iff_eq, spellsHex_iff]

theorem IsHexField.isHex {field : String} (h : IsHexField length field) (hLength : 0 < length) :
    isHex field length := by
  refine isHex_iff.mpr ⟨h.length_eq, spellsNumber_of_digits (fun hEmpty => ?_) h.digits⟩
  rw [← h.length_eq, ← String.length_toList, hEmpty] at hLength
  exact absurd hLength (by decide)

/-- Fields are what stands between the hyphens. -/
theorem hasFields_iff : HasFields header version traceId spanId flags ↔
    (Text.trimWhile Text.isBlank header.toList).splitOn '-' =
      [version.toList, traceId.toList, spanId.toList, flags.toList] := by
  constructor
  · rintro ⟨hJoined, hPlain⟩
    rw [← String.toList_ofList (l := Text.trimWhile Text.isBlank header.toList), ← Text.strip, hJoined,
      String.toList_intercalate]
    exact List.splitOn_intercalate '-' (by simpa using hPlain) (by simp)
  · intro hSplit
    have hJoined : ['-'].intercalate ((Text.trimWhile Text.isBlank header.toList).splitOn '-') =
        Text.trimWhile Text.isBlank header.toList := List.intercalate_splitOn '-'
    rw [hSplit] at hJoined
    refine ⟨?_, fun field hMem hHyphen => ?_⟩
    · rw [Text.strip, ← hJoined, ← String.toList_inj, String.toList_intercalate, String.toList_ofList]
      rfl
    · have hPiece : field.toList ∈ (Text.trimWhile Text.isBlank header.toList).splitOn '-' := by
        rw [hSplit]
        exact List.mem_map_of_mem (f := String.toList) hMem
      exact (Text.mem_of_mem_splitOn hPiece hHyphen).2 rfl

/-- A header has its fields in one way. -/
theorem HasFields.unique {version' traceId' spanId' flags' : String}
    (h : HasFields header version traceId spanId flags) (h' : HasFields header version' traceId' spanId' flags') :
    traceId = traceId' ∧ spanId = spanId' := by
  have hSame := (hasFields_iff.mp h).symm.trans (hasFields_iff.mp h')
  simp only [List.cons.injEq, String.toList_inj] at hSame
  exact ⟨hSame.2.1, hSame.2.2.1⟩

/-- What is read from a header is the second field, if that and the third spell numbers of their lengths. -/
theorem parentTraceId_eq_some_iff : parentTraceId header = some id ↔
    ∃ version spanId flags, HasFields header version id spanId flags ∧
      isHex id traceIdLength ∧ isHex spanId spanIdLength := by
  simp only [hasFields_iff]
  unfold parentTraceId
  constructor
  · intro h
    split at h
    · rename_i version traceId spanId flags hSplit
      dsimp only at h
      split at h
      · rename_i hHex
        obtain rfl := Option.some.inj h
        refine ⟨.ofList version, .ofList spanId, .ofList flags, ?_, Bool.and_eq_true_iff.mp hHex⟩
        simpa only [String.toList_ofList] using hSplit
      · cases h
    · cases h
  · rintro ⟨version, spanId, flags, hSplit, hTrace, hSpan⟩
    rw [hSplit]
    simp [String.ofList_toList, hTrace, hSpan]

/-- The header for a trace and a span has them as its fields, even if there are blanks at their ends. -/
theorem hasFields_parentHeader (hTrace : '-' ∉ traceId.toList) (hSpan : '-' ∉ spanId.toList) (sampled : Bool) :
    HasFields (parentHeader traceId spanId sampled) "00" traceId spanId (if sampled then "01" else "00") := by
  have hChars : (parentHeader traceId spanId sampled).toList =
      '0' :: (['0', '-'] ++ traceId.toList ++ ['-'] ++ spanId.toList ++ ['-', '0']) ++
        [if sampled then '1' else '0'] := by
    cases sampled <;> simp [parentHeader]
  have hFields : (parentHeader traceId spanId sampled).toList =
      ['-'].intercalate ["00".toList, traceId.toList, spanId.toList, (if sampled then "01" else "00").toList] := by
    rw [hChars]
    cases sampled <;> simp [List.intercalate]
  -- Nothing is trimmed, since the header begins and ends with a digit.
  have hTrimmed : Text.trimWhile Text.isBlank (parentHeader traceId spanId sampled).toList =
      (parentHeader traceId spanId sampled).toList := by
    refine Text.trimWhile_eq_self ?_ ?_ <;> rw [hChars]
    · rintro c ⟨⟩
      decide
    · rw [List.getLast?_concat]
      rintro c ⟨⟩
      cases sampled <;> decide
  have hPlain : ∀ field ∈ ["00".toList, traceId.toList, spanId.toList, (if sampled then "01" else "00").toList],
      '-' ∉ field := by
    cases sampled <;> simp [hTrace, hSpan]
  rw [hasFields_iff, hTrimmed, hFields, List.splitOn_intercalate '-' hPlain (by simp)]

/-- The field may stand in a header for an id of so many characters. -/
structure Fits (length : Nat) (field : String) : Prop where
  isHex : isHex field length
  plain : '-' ∉ field.toList

theorem Fits.ne_empty {field : String} (h : Fits length field) (hLength : 0 < length) : field ≠ "" := by
  rintro rfl
  rw [← (isHex_iff.mp h.isHex).1] at hLength
  exact absurd hLength (by decide)

theorem IsHexField.fits {field : String} (h : IsHexField length field) (hLength : 0 < length) : Fits length field where
  isHex := h.isHex hLength
  plain hMem := ne_of_isHexDigit (h.digits '-' hMem) '-' (by simp) rfl

/-- The header is read, and this is the span in it. -/
def ReadsSpan (header spanId : String) : Prop :=
  ∃ version id flags, HasFields header version id spanId flags ∧ parentTraceId header = some id

theorem fits_of_parentTraceId (h : parentTraceId header = some id) : Fits traceIdLength id := by
  obtain ⟨version, spanId, flags, hFields, hTrace, -⟩ := parentTraceId_eq_some_iff.mp h
  exact ⟨hTrace, hFields.plain id (by simp)⟩

theorem ReadsSpan.fits (h : ReadsSpan header spanId) : Fits spanIdLength spanId := by
  obtain ⟨version, id, flags, hFields, hRead⟩ := h
  obtain ⟨version', spanId', flags', hFields', -, hSpan⟩ := parentTraceId_eq_some_iff.mp hRead
  obtain ⟨-, rfl⟩ := hFields.unique hFields'
  exact ⟨hSpan, hFields.plain spanId (by simp)⟩

/-- The trace id that is written into a header is read from it. -/
theorem parentTraceId_parentHeader (hTrace : Fits traceIdLength traceId) (hSpan : Fits spanIdLength spanId)
    (sampled : Bool) : parentTraceId (parentHeader traceId spanId sampled) = some traceId :=
  parentTraceId_eq_some_iff.mpr
    ⟨_, _, _, hasFields_parentHeader hTrace.plain hSpan.plain sampled, hTrace.isHex, hSpan.isHex⟩

theorem parentTraceId_of_carries (h : Carries header id) : parentTraceId header = some id := by
  obtain ⟨version, spanId, flags, hFields, hTrace, hSpan⟩ := h
  exact parentTraceId_eq_some_iff.mpr
    ⟨version, spanId, flags, hFields, hTrace.isHex (by decide), hSpan.isHex (by decide)⟩

/-- A header is read as its format says exactly if it is not loose. -/
theorem parentTraceId_exact_iff (header : String) :
    (∀ id, parentTraceId header = some id ↔ Carries header id) ↔ ¬ IsLoose header := by
  constructor
  · rintro hExact ⟨version, id, spanId, flags, hFields, hTrace, hTraceId, hSpan, hSpanId, c, hMem, hOther⟩
    have hRead : parentTraceId header = some id := parentTraceId_eq_some_iff.mpr
      ⟨version, spanId, flags, hFields, isHex_iff.mpr ⟨hTrace, hTraceId⟩, isHex_iff.mpr ⟨hSpan, hSpanId⟩⟩
    obtain ⟨version', spanId', flags', hFields', hTrace', hSpan'⟩ := (hExact id).mp hRead
    obtain ⟨-, rfl⟩ := hFields.unique hFields'
    rcases List.mem_append.mp hMem with hMem | hMem
    · exact hOther (hTrace'.digits c hMem)
    · exact hOther (hSpan'.digits c hMem)
  · refine fun hStrict id => ⟨fun hRead => ?_, parentTraceId_of_carries⟩
    obtain ⟨version, spanId, flags, hFields, hTrace, hSpan⟩ := parentTraceId_eq_some_iff.mp hRead
    obtain ⟨hTraceLength, hTraceId⟩ := isHex_iff.mp hTrace
    obtain ⟨hSpanLength, hSpanId⟩ := isHex_iff.mp hSpan
    have hDigits : ∀ c ∈ id.toList ++ spanId.toList, isHexDigit c := fun c hMem => by
      by_contra hOther
      exact hStrict
        ⟨version, id, spanId, flags, hFields, hTraceLength, hTraceId, hSpanLength, hSpanId, c, hMem, hOther⟩
    exact ⟨version, spanId, flags, hFields, ⟨hTraceLength, fun c hMem => hDigits c (List.mem_append_left _ hMem)⟩,
      ⟨hSpanLength, fun c hMem => hDigits c (List.mem_append_right _ hMem)⟩⟩

/-- A header whose trace id begins with a base prefix. -/
def prefixedHeader : String := "00-0x7651916cd43dd8448eb211c80319ca-b7ad6b7169203331-01"

/-- A trace id is read from it, though the prefix is no digit. -/
theorem read_of_prefixedHeader : ∃ id, parentTraceId prefixedHeader = some id ∧ ¬ Carries prefixedHeader id := by
  refine ⟨"0x7651916cd43dd8448eb211c80319ca", by decide +kernel, ?_⟩
  rintro ⟨version, spanId, flags, -, hTrace, -⟩
  exact absurd (hTrace.digits 'x' (by decide +kernel)) (by decide)

end ConfigGate.Trace
