import ConfigGate.Log.Preview
import ConfigGate.Proofs.Json.Reader
import ConfigGate.Proofs.Keyed
import ConfigGate.Proofs.Text.Blank
import ConfigGate.Proofs.Text.Utf8
import Mathlib.Order.MinMax

/-! When the log can show the body of a request. Forms it always can, whatever is in them, and any other body
unless it is a document, or begins as one, with very long integers or very many brackets. -/
namespace ConfigGate

namespace Json

theorem memberDepth_lastWins_le (members : List (Text.Wide × Value)) :
    memberDepth (Keyed.lastWins members) ≤ memberDepth members := by
  refine memberDepth_le_iff.mpr fun member hMem => ?_
  exact memberDepth_le_iff.mp (Nat.le_refl _) member (Keyed.mem_of_mem_lastWins hMem)

mutual

theorem Value.depth_distinct_le : ∀ v : Value, v.distinct.depth ≤ v.depth
  | .null | .bool _ | .int _ | .real _ | .text _ => Nat.le_refl _
  | .list items => Nat.succ_le_succ (itemDepth_distinctItems_le items)
  | .object members =>
    Nat.succ_le_succ ((memberDepth_lastWins_le _).trans (memberDepth_distinctMembers_le members))

theorem itemDepth_distinctItems_le : ∀ items : List Value, itemDepth (distinctItems items) ≤ itemDepth items
  | [] => Nat.le_refl _
  | v :: rest => max_le_max v.depth_distinct_le (itemDepth_distinctItems_le rest)

theorem memberDepth_distinctMembers_le :
    ∀ members : List (Text.Wide × Value), memberDepth (distinctMembers members) ≤ memberDepth members
  | [] => Nat.le_refl _
  | (_, v) :: rest => max_le_max v.depth_distinct_le (memberDepth_distinctMembers_le rest)

end

end Json

namespace Log

open Json (Value)

mutual

/-- What is masked is nested no deeper than before. -/
theorem depth_mask_le : ∀ v : Value, (mask v).depth ≤ v.depth
  | .null | .bool _ | .int _ | .real _ | .text _ => Nat.le_refl _
  | .list items => Nat.succ_le_succ (itemDepth_maskItems_le items)
  | .object members => Nat.succ_le_succ (memberDepth_maskMembers_le members)

theorem itemDepth_maskItems_le : ∀ items : List Value, Json.itemDepth (maskItems items) ≤ Json.itemDepth items
  | [] => Nat.le_refl _
  | v :: rest => max_le_max (depth_mask_le v) (itemDepth_maskItems_le rest)

theorem memberDepth_maskMembers_le :
    ∀ members : List (Text.Wide × Value), Json.memberDepth (maskMembers members) ≤ Json.memberDepth members
  | [] => Nat.le_refl _
  | (key, v) :: rest => by
    have hValue : (if isSensitive key then .text maskText else mask v).depth ≤ v.depth := by
      split
      · exact Nat.zero_le _
      · exact depth_mask_le v
    exact max_le_max hValue (memberDepth_maskMembers_le rest)

end

/-- A form is shown whatever is in it. -/
theorem bodyPreview_of_form {contentType : String} (h : "application/x-www-form-urlencoded".isPrefixOf contentType ∨
      "multipart/form-data".isPrefixOf contentType) (body : Bytes) :
    ∃ shown, bodyPreview body contentType = .ok shown := by
  unfold bodyPreview
  dsimp only
  split
  · exact ⟨_, rfl⟩
  · split
    · exact ⟨_, rfl⟩
    · rename_i hUrlencoded
      rw [if_pos (h.resolve_left hUrlencoded)]
      exact ⟨_, rfl⟩

/-- The text has no more opening brackets than masked documents may have levels, and nowhere more digits in
a row than integers may have. -/
structure IsModest (text : List Char) : Prop where
  brackets : Json.openings text ≤ maskedDepth
  digits : ∀ digits, digits <:+: text → (∀ c ∈ digits, c.isDigit) → digits.length ≤ 4300

theorem IsModest.of_infix {part text : List Char} (h : IsModest text) (hInfix : part <:+: text) : IsModest part where
  brackets := hInfix.sublist.countP_le.trans h.brackets
  digits digits hPart := h.digits digits (hPart.trans hInfix)

/-- A modest text is a document that can be masked, or no document because of a fault of its own. -/
theorem bodyPreview_of_isModest {body : Bytes} (h : IsModest (Text.Utf8.decodeLossy body).toList)
    (contentType : String) : ∃ shown, bodyPreview body contentType = .ok shown := by
  have hChars := h.of_infix (Text.trimWhile_infix Text.isBlank _)
  unfold bodyPreview
  dsimp only
  generalize Text.trimWhile Text.isBlank (Text.Utf8.decodeLossy body).toList = chars at hChars ⊢
  split
  · exact ⟨_, rfl⟩
  split
  · exact ⟨_, rfl⟩
  split
  · exact ⟨_, rfl⟩
  cases hRead : Json.readChars Json.documentLimits chars with
  | ok document =>
      have hDepth : (mask document.distinct).depth ≤ maskedDepth :=
        calc (mask document.distinct).depth
          _ ≤ document.distinct.depth := depth_mask_le _
          _ ≤ document.depth := document.depth_distinct_le
          _ ≤ Json.openings chars := Json.depth_le_of_readChars hRead
          _ ≤ maskedDepth := hChars.brackets
      dsimp only
      rw [if_neg (Nat.not_lt.mpr hDepth)]
      exact ⟨_, rfl⟩
  | error failure =>
      have hSyntactic : failure.fault.isSyntactic := by
        rcases Json.cause_of_readChars hRead with hFault | ⟨digits, negative, isInteger, hInfix, hDigits, hPassed⟩ | hDeep
        · exact hFault
        · have hLong : 4300 < digits.length := by
            simp only [Json.documentLimits, Json.NumberLimit.isPassed, Bool.and_eq_true, decide_eq_true_eq] at hPassed
            exact hPassed.2
          exact absurd (hChars.digits digits hInfix hDigits) (Nat.not_le.mpr hLong)
        · exact absurd (hDeep.trans_le hChars.brackets) (by decide)
      dsimp only
      rw [if_pos hSyntactic]
      exact ⟨_, rfl⟩

/-- A number that is too long for an integer is not shown. -/
theorem bodyPreview_ones {n : Nat} (h : 4300 < n) :
    bodyPreview (Text.Utf8.encode (String.ofList (List.replicate n '1'))) "" =
      .error (.unreadable (.tooManyDigits n)) := by
  obtain ⟨n, rfl⟩ : ∃ m, n = m + 1 := ⟨n - 1, by omega⟩
  have hTrimmed : Text.trimWhile Text.isBlank (List.replicate (n + 1) '1') = List.replicate (n + 1) '1' :=
    Text.trimWhile_of_none fun c hMem => by rw [List.eq_of_mem_replicate hMem]; decide
  have hPassed : Json.documentLimits.numbers.isPassed (n + 1) false true := by
    simpa [Json.documentLimits, Json.NumberLimit.isPassed] using h
  have hUrlencoded : "application/x-www-form-urlencoded".isPrefixOf "" = false :=
    Bool.eq_false_iff.mpr fun hPrefix => absurd (String.startsWith_string_iff.mp hPrefix) (by decide)
  have hMultipart : "multipart/form-data".isPrefixOf "" = false :=
    Bool.eq_false_iff.mpr fun hPrefix => absurd (String.startsWith_string_iff.mp hPrefix) (by decide)
  unfold bodyPreview
  rw [Text.Utf8.decodeLossy_encode, String.toList_ofList, hTrimmed]
  simp [hUrlencoded, hMultipart, Json.readChars_ones hPassed, Json.Fault.isSyntactic]

end Log

end ConfigGate
