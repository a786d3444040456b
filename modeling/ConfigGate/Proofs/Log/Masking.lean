import ConfigGate.Log.Preview
import Mathlib.Data.List.Forall2

/-! What the log shows of fields. It does not depend on the values of sensitive ones. -/
namespace ConfigGate.Log

variable {fields others found found' : List (String × String)}

/-- The log shows the same of the two fields: they have the same name, and also the same value unless the
name is that of a sensitive field. -/
def ShownAlike (field other : String × String) : Prop :=
  field.1 = other.1 ∧ (field.2 = other.2 ∨ isSensitive field.1)

theorem ShownAlike.assign {key value value' : String} (h : ShownAlike (key, value) (key, value'))
    (hFound : List.Forall₂ ShownAlike found found') :
    List.Forall₂ ShownAlike (Keyed.assign key value found) (Keyed.assign key value' found') := by
  induction hFound with
  | nil => exact .cons h .nil
  | @cons field other rest rest' hField hRest ih =>
      obtain ⟨name, old⟩ := field
      obtain ⟨name', old'⟩ := other
      obtain rfl : name = name' := hField.1
      by_cases hKey : name = key
      · subst hKey
        rw [Keyed.assign, if_pos rfl, Keyed.assign, if_pos rfl]
        exact .cons h hRest
      · rw [Keyed.assign, if_neg hKey, Keyed.assign, if_neg hKey]
        exact .cons hField ih

theorem shownAlike_lastWins (h : List.Forall₂ ShownAlike fields others) :
    List.Forall₂ ShownAlike (Keyed.lastWins fields) (Keyed.lastWins others) := by
  refine List.rel_foldl (P := List.Forall₂ ShownAlike) ?_ .nil h
  rintro found found' hFound ⟨name, value⟩ ⟨name', value'⟩ hField
  obtain rfl : name = name' := hField.1
  exact hField.assign hFound

theorem maskMembers_congr (h : List.Forall₂ ShownAlike fields others) :
    maskMembers (fields.map fun (name, value) => (↑name, .text value)) =
      maskMembers (others.map fun (name, value) => (↑name, .text value)) := by
  induction h with
  | nil => rfl
  | @cons field other rest rest' hField _ ih =>
      obtain ⟨name, value⟩ := field
      obtain ⟨name', value'⟩ := other
      obtain rfl : name = name' := hField.1
      rw [List.map_cons, List.map_cons, maskMembers, maskMembers, ih]
      rcases hField.2 with hSame | hSensitive
      · rw [show value = value' from hSame]
      · rw [if_pos hSensitive, if_pos hSensitive]

theorem mask_fieldsObject_congr (h : List.Forall₂ ShownAlike fields others) :
    mask (fieldsObject fields) = mask (fieldsObject others) := by
  unfold fieldsObject
  rw [mask, mask, maskMembers_congr (shownAlike_lastWins h)]

end ConfigGate.Log
