import ConfigGate.Log.Preview
import ConfigGate.Proofs.Json.Written
import ConfigGate.Proofs.Keyed
import ConfigGate.Proofs.Text.Blank
import ConfigGate.Proofs.Text.Utf8
import Mathlib.Data.List.Nodup

/-! What masking hides of a document, and what it leaves. It hides the values of sensitive members and nothing
else, so that two documents are masked alike exactly if they are the same once these values are deleted. -/
namespace ConfigGate.Log

open Json (Value)
open Text (Wide)

/-- A document of which the values of some members have been deleted. Their names stay in their places. -/
inductive Redacted where
  | null
  | bool (b : Bool)
  | int (n : Int)
  | real (x : Decimal.Binary64)
  | text (s : Wide)
  | list (items : List Redacted)
  | object (members : List (Wide × Option Redacted))

mutual

/-- The document without the values of sensitive members, at every depth. -/
def redact : Value → Redacted
  | .null => .null
  | .bool b => .bool b
  | .int n => .int n
  | .real x => .real x
  | .text s => .text s
  | .list items => .list (redactItems items)
  | .object members => .object (redactMembers members)

def redactItems : List Value → List Redacted
  | [] => []
  | v :: rest => redact v :: redactItems rest

def redactMembers : List (Wide × Value) → List (Wide × Option Redacted)
  | [] => []
  | (key, v) :: rest => (key, if isSensitive key then none else some (redact v)) :: redactMembers rest

end

mutual

/-- The names of all members of a document, at every depth. -/
def memberNames : Value → List Wide
  | .list items => itemsMemberNames items
  | .object members => membersMemberNames members
  | _ => []

def itemsMemberNames : List Value → List Wide
  | [] => []
  | v :: rest => memberNames v ++ itemsMemberNames rest

def membersMemberNames : List (Wide × Value) → List Wide
  | [] => []
  | (key, v) :: rest => key :: memberNames v ++ membersMemberNames rest

end

mutual

/-- Masking tells two documents apart exactly if deleting does. -/
theorem mask_eq_mask_iff : ∀ v w : Value, mask v = mask w ↔ redact v = redact w
  | .null, w | .bool _, w | .int _, w | .real _, w | .text _, w => by cases w <;> simp [mask, redact]
  | .list items, w => by
    cases w with
    | list others => simpa [mask, redact] using maskItems_eq_iff items others
    | _ => simp [mask, redact]
  | .object members, w => by
    cases w with
    | object others => simpa [mask, redact] using maskMembers_eq_iff members others
    | _ => simp [mask, redact]

theorem maskItems_eq_iff : ∀ items others : List Value, maskItems items = maskItems others ↔
    redactItems items = redactItems others
  | [], others => by cases others <;> simp [maskItems, redactItems]
  | v :: rest, [] => by simp [maskItems, redactItems]
  | v :: rest, w :: others => by
    simp [maskItems, redactItems, mask_eq_mask_iff v w, maskItems_eq_iff rest others]

theorem maskMembers_eq_iff : ∀ members others : List (Wide × Value), maskMembers members = maskMembers others ↔
    redactMembers members = redactMembers others
  | [], others => by cases others <;> simp [maskMembers, redactMembers]
  | (key, v) :: rest, [] => by simp [maskMembers, redactMembers]
  | (key, v) :: rest, (key', w) :: others => by
    -- Members of different names differ on both sides; of one name, both sides look at the value or neither does.
    by_cases hKey : key = key'
    · subst hKey
      by_cases hSensitive : isSensitive key
      · simp [maskMembers, redactMembers, hSensitive, maskMembers_eq_iff rest others]
      · simp [maskMembers, redactMembers, hSensitive, mask_eq_mask_iff v w, maskMembers_eq_iff rest others]
    · simp [maskMembers, redactMembers, hKey]

end

mutual

/-- What masking puts in is deleted with the rest. -/
theorem redact_mask : ∀ v : Value, redact (mask v) = redact v
  | .null | .bool _ | .int _ | .real _ | .text _ => rfl
  | .list items => congrArg Redacted.list (redactItems_maskItems items)
  | .object members => congrArg Redacted.object (redactMembers_maskMembers members)

theorem redactItems_maskItems : ∀ items : List Value, redactItems (maskItems items) = redactItems items
  | [] => rfl
  | v :: rest => by
    rw [maskItems, redactItems, redactItems, redact_mask v, redactItems_maskItems rest]

theorem redactMembers_maskMembers :
    ∀ members : List (Wide × Value), redactMembers (maskMembers members) = redactMembers members
  | [] => rfl
  | (key, v) :: rest => by
    rw [maskMembers, redactMembers, redactMembers, redactMembers_maskMembers rest]
    split
    · rfl
    · rw [redact_mask v]

end

theorem mask_mask (v : Value) : mask (mask v) = mask v :=
  (mask_eq_mask_iff (mask v) v).mpr (redact_mask v)

mutual

/-- Where no member is sensitive, nothing is masked. -/
theorem mask_of_not_sensitive : ∀ v : Value, (∀ name ∈ memberNames v, ¬ isSensitive name) → mask v = v
  | .null, _ | .bool _, _ | .int _, _ | .real _, _ | .text _, _ => rfl
  | .list items, h => congrArg Value.list (maskItems_of_not_sensitive items h)
  | .object members, h => congrArg Value.object (maskMembers_of_not_sensitive members h)

theorem maskItems_of_not_sensitive :
    ∀ items : List Value, (∀ name ∈ itemsMemberNames items, ¬ isSensitive name) → maskItems items = items
  | [], _ => rfl
  | v :: rest, h => by
    obtain ⟨hFirst, hRest⟩ := List.forall_mem_append.mp h
    rw [maskItems, mask_of_not_sensitive v hFirst, maskItems_of_not_sensitive rest hRest]

theorem maskMembers_of_not_sensitive : ∀ members : List (Wide × Value),
    (∀ name ∈ membersMemberNames members, ¬ isSensitive name) → maskMembers members = members
  | [], _ => rfl
  | (key, v) :: rest, h => by
    obtain ⟨hNames, hRest⟩ := List.forall_mem_append.mp h
    obtain ⟨hKey, hValue⟩ := List.forall_mem_cons.mp hNames
    rw [maskMembers, if_neg hKey, mask_of_not_sensitive v hValue, maskMembers_of_not_sensitive rest hRest]

end

/-- The log takes a body of this type for neither kind of form. -/
structure IsPlainType (contentType : String) : Prop where
  urlencoded : "application/x-www-form-urlencoded".isPrefixOf contentType = false
  multipart : "multipart/form-data".isPrefixOf contentType = false

/-- The body, without the blanks at its ends, is the text of a document. Of members of one name the last counts. -/
def IsDocument (body : Bytes) (v : Value) : Prop :=
  ∃ document, Json.readChars Json.documentLimits (Text.trimWhile Text.isBlank (Text.Utf8.decodeLossy body).toList) =
    .ok document ∧ document.distinct = v

/-- The log shows a document as it is masked, unless what is masked is nested too deeply. -/
theorem bodyPreview_of_isDocument {body : Bytes} {v : Value} {contentType : String} (hType : IsPlainType contentType)
    (h : IsDocument body v) : bodyPreview body contentType =
      if maskedDepth < (mask v).depth then .error .tooDeep
      else .ok (some (shorten previewLength (mask v).render)) := by
  obtain ⟨document, hRead, rfl⟩ := h
  have hSome : (Text.trimWhile Text.isBlank (Text.Utf8.decodeLossy body).toList).isEmpty = false := by
    refine List.isEmpty_eq_false_iff.mpr fun hEmpty => ?_
    rw [hEmpty] at hRead
    cases hRead
  unfold bodyPreview
  simp [hSome, hType.urlencoded, hType.multipart, hRead]

/-- The writing of members ends with a brace. -/
theorem getLast?_memberChars (entries : List (String × String)) : (Json.memberChars entries).getLast? = some '\x7d' := by
  induction entries with
  | nil => rfl
  | cons entry rest ih =>
      obtain ⟨name, value⟩ := entry
      simp [Json.memberChars, Json.writtenMember, List.getLast?_cons, List.getLast?_append, ih]

/-- The writing of an object has braces at its ends. -/
theorem trimWhile_objectChars (entries : List (String × String)) :
    Text.trimWhile Text.isBlank (Json.objectChars entries) = Json.objectChars entries := by
  cases entries with
  | nil => decide
  | cons entry rest =>
      obtain ⟨name, value⟩ := entry
      have hLast : (Json.objectChars ((name, value) :: rest)).getLast? = some '\x7d' := by
        simp [Json.objectChars, Json.writtenMember, List.getLast?_cons, List.getLast?_append, getLast?_memberChars]
      refine Text.trimWhile_eq_self ?_ ?_
      · rintro c ⟨⟩
        decide
      · rw [hLast]
        rintro c ⟨⟩
        decide

theorem distinctMembers_ofTexts (entries : List (String × String)) :
    Json.distinctMembers (Json.ofTexts entries) = Json.ofTexts entries := by
  induction entries with
  | nil => rfl
  | cons entry rest ih => exact congrArg (((entry.1 : Wide), Value.text entry.2) :: ·) ih

/-- The writing of an object of texts. -/
def written (entries : List (String × String)) : Bytes :=
  Text.Utf8.encode (String.ofList (Json.objectChars entries))

/-- An object of texts is the document of its writing. -/
theorem isDocument_written {entries : List (String × String)} (h : (entries.map Prod.fst).Nodup) :
    IsDocument (written entries) (.object (Json.ofTexts entries)) := by
  have hNodup : ((Json.ofTexts entries).map Prod.fst).Nodup := by
    have hNames : (Json.ofTexts entries).map Prod.fst = (entries.map Prod.fst).map Wide.ofText := by
      simp [Json.ofTexts, Function.comp_def]
    rw [hNames]
    exact List.Nodup.map Wide.ofText_injective h
  refine ⟨.object (Json.ofTexts entries), ?_, ?_⟩
  · rw [written, Text.Utf8.decodeLossy_encode, String.toList_ofList, trimWhile_objectChars]
    exact Json.readChars_objectChars (by decide) entries
  · rw [Value.distinct, distinctMembers_ofTexts, Keyed.lastWins_of_nodup hNodup]

/-- Masking hides the values of sensitive members and nothing else, once and for all, and it leaves documents without
such members as they are. Two bodies with documents that differ only in these values are shown alike in the log, and
they are shown unless what is masked is nested too deeply. -/
theorem masking_exact :
    (∀ v w : Value, mask v = mask w ↔ redact v = redact w) ∧
    (∀ v : Value, mask (mask v) = mask v) ∧
    (∀ v : Value, (∀ name ∈ memberNames v, ¬ isSensitive name) → mask v = v) ∧
    ∀ (v w : Value) (body other : Bytes) (contentType otherType : String), redact v = redact w →
      IsDocument body v → IsDocument other w → IsPlainType contentType → IsPlainType otherType →
      bodyPreview body contentType = bodyPreview other otherType ∧
        ((mask v).depth ≤ maskedDepth → ∃ shown, bodyPreview body contentType = .ok (some shown)) := by
  refine ⟨mask_eq_mask_iff, mask_mask, mask_of_not_sensitive, ?_⟩
  intro v w body other contentType otherType hSame hBody hOther hType hOtherType
  have hMasked : mask v = mask w := (mask_eq_mask_iff v w).mpr hSame
  rw [bodyPreview_of_isDocument hType hBody, bodyPreview_of_isDocument hOtherType hOther, hMasked]
  refine ⟨rfl, fun hDepth => ⟨_, if_neg (Nat.not_lt.mpr hDepth)⟩⟩

/-- A list with a sensitive member in it. -/
def withToken (token : Value) : Value :=
  .list [.object [("Token", token)], .int 2]

/-- An account of this name. -/
def account (token : String) : List (String × String) :=
  [("name", "A"), ("Token", token)]

/-- A text and a list are hidden alike, and so are the tokens of an account in the log. -/
theorem masking_exact_token :
    mask (withToken (.text "A")) = mask (withToken (.list [.int 0])) ∧
    mask (.object [("content", .text "A")]) = .object [("content", .text "A")] ∧
    bodyPreview (written (account "A")) "application/json" =
      bodyPreview (written (account "B")) "text/plain" ∧
    ∃ shown, bodyPreview (written (account "A")) "application/json" = .ok (some shown) := by
  have hSensitive : isSensitive "Token" = true := by decide +kernel
  have hPublic : ∀ name ∈ ["name", "content"], ¬ isSensitive name := by decide +kernel
  have hLists : redact (withToken (.text "A")) = redact (withToken (.list [.int 0])) := by
    simp [withToken, redact, redactItems, redactMembers, hSensitive]
  have hAccounts : redact (.object (Json.ofTexts (account "A"))) = redact (.object (Json.ofTexts (account "B"))) := by
    simp [account, Json.ofTexts, redact, redactMembers, hSensitive]
  have hNames : ∀ name ∈ memberNames (.object [("content", .text "A")]), ¬ isSensitive name := by
    simpa [memberNames, membersMemberNames] using hPublic "content" (by simp)
  have hFirst : IsDocument (written (account "A")) _ := isDocument_written (by decide)
  have hSecond : IsDocument (written (account "B")) _ := isDocument_written (by decide)
  have hJson : IsPlainType "application/json" := by constructor <;> decide +kernel
  have hPlain : IsPlainType "text/plain" := by constructor <;> decide +kernel
  have hShown := masking_exact.2.2.2 _ _ _ _ _ _ hAccounts hFirst hSecond hJson hPlain
  exact ⟨(masking_exact.1 _ _).mpr hLists, masking_exact.2.2.1 _ hNames, hShown.1, hShown.2 (by decide +kernel)⟩

end ConfigGate.Log
