import ConfigGate.Proofs.HiddenNames
import ConfigGate.Proofs.Text.Blank
import ConfigGate.Proofs.Text.Capitals
import Mathlib.Data.List.Forall2
import Mathlib.Data.List.Sort
import Mathlib.Data.String.Basic

/-! Keys as the normal form of names. A key is its own key, so a list of hidden names can be made anew from
its keys; and it depends on its names only as a set, without blanks around them. -/
namespace ConfigGate

open Text

variable {text other : String}

/-! Keys -/

theorem forwardSlash_ne_backslash (c : Char) : forwardSlash c ≠ '\\' := by
  unfold forwardSlash
  split
  · decide
  · assumption

@[simp] theorem toList_nameKey (text : String) :
    (nameKey text).toList = text.toList.flatMap fun c => capitals (forwardSlash c) := by
  rw [nameKey, toList_upper, withForwardSlashes, String.toList_ofList, List.flatMap_map]

/-- Capitals bring back no backslash. -/
theorem withForwardSlashes_nameKey (text : String) : withForwardSlashes (nameKey text) = nameKey text := by
  refine String.toList_inj.mp ?_
  rw [withForwardSlashes, String.toList_ofList]
  refine (List.map_congr_left fun d hMem => ?_).trans (List.map_id _)
  rw [toList_nameKey] at hMem
  obtain ⟨c, _, hd⟩ := List.mem_flatMap.mp hMem
  exact if_neg (ne_of_mem_of_not_mem hd (backslash_notMem_capitals (forwardSlash_ne_backslash c)))

/-- A key is its own key. -/
theorem nameKey_nameKey (text : String) : nameKey (nameKey text) = nameKey text := by
  rw [nameKey, withForwardSlashes_nameKey, nameKey, upper_upper]

theorem nameKey_eq_empty : nameKey text = "" ↔ text = "" := by
  rw [nameKey, upper_eq_empty, ← String.toList_inj, ← String.toList_inj, withForwardSlashes, String.toList_ofList]
  exact List.map_eq_nil_iff

/-- Each slash of a text may point in either direction. -/
def Turned (text other : String) : Prop :=
  List.Forall₂ (fun c d => c = d ∨ c ∈ ['/', '\\'] ∧ d ∈ ['/', '\\']) text.toList other.toList

theorem withForwardSlashes_eq_iff : withForwardSlashes text = withForwardSlashes other ↔ Turned text other := by
  have hChar (c d : Char) : forwardSlash c = forwardSlash d ↔ c = d ∨ c ∈ ['/', '\\'] ∧ d ∈ ['/', '\\'] := by
    unfold forwardSlash
    grind
  unfold withForwardSlashes Turned
  rw [String.ofList_inj, ← List.forall₂_eq_eq_eq, List.forall₂_map_left_iff, List.forall₂_map_right_iff]
  simp only [hChar]

/-! Blanks around names -/

theorem isBlank_forwardSlash {c : Char} (h : isBlank c = false) : isBlank (forwardSlash c) = false := by
  unfold forwardSlash
  split
  · decide
  · exact h

/-- What comes first in pieces put together comes from the first piece, unless there are empty ones. -/
theorem exists_of_mem_head?_flatMap {α β : Type} {f : α → List β} (hSome : ∀ a, f a ≠ []) {l : List α} {b : β}
    (h : b ∈ (l.flatMap f).head?) : ∃ a ∈ l.head?, b ∈ f a := by
  cases l with
  | nil => cases h
  | cons a rest =>
      obtain ⟨first, more, hFirst⟩ := List.exists_cons_of_ne_nil (hSome a)
      rw [List.flatMap_cons, hFirst, List.cons_append, List.head?_cons, Option.mem_some_iff] at h
      exact ⟨a, rfl, by simp [hFirst, h]⟩

/-- The key of a text without blanks at its ends has none there either. -/
theorem strip_nameKey (h : strip text = text) : strip (nameKey text) = nameKey text := by
  have hTrimmed : trimWhile isBlank text.toList = text.toList := by
    rw [← toList_strip, h]
  have hSome (c : Char) : capitals (forwardSlash c) ≠ [] := capitals_ne_nil _
  have hStays {c d : Char} (hChar : isBlank c = false) (hd : d ∈ capitals (forwardSlash c)) : isBlank d = false := by
    rw [Bool.eq_false_iff]
    intro hBlank
    exact absurd (isBlank_of_mem_capitals hd hBlank) (by simp [isBlank_forwardSlash hChar])
  refine String.toList_inj.mp ?_
  rw [toList_strip, toList_nameKey]
  refine trimWhile_eq_self (fun d hd => ?_) fun d hd => ?_
  · obtain ⟨c, hFirst, hMem⟩ := exists_of_mem_head?_flatMap hSome hd
    exact hStays (head_trimWhile (hTrimmed.symm ▸ hFirst)) hMem
  · rw [← List.head?_reverse, List.reverse_flatMap] at hd
    obtain ⟨c, hLast, hMem⟩ := exists_of_mem_head?_flatMap (fun c => by simpa using hSome c) hd
    rw [List.head?_reverse] at hLast
    exact hStays (getLast_trimWhile (hTrimmed.symm ▸ hLast)) (List.mem_reverse.mp hMem)

namespace HiddenNames

variable {names others : List String} {key : String}

/-! Lists of names -/

theorem pairwise_insertKey {keys : List String} (h : keys.Pairwise (· < ·)) :
    (insertKey key keys).Pairwise (· < ·) := by
  induction keys with
  | nil => exact List.pairwise_singleton _ key
  | cons first rest ih =>
      obtain ⟨hFirst, hRest⟩ := List.pairwise_cons.mp h
      unfold insertKey
      split
      · exact h
      · rename_i hNe
        split
        · rename_i hLt
          refine List.pairwise_cons.mpr ⟨?_, h⟩
          rintro other (_ | ⟨_, hMem⟩)
          · exact hLt
          · exact lt_trans hLt (hFirst other hMem)
        · rename_i hNotLt
          refine List.pairwise_cons.mpr ⟨fun other hMem => ?_, ih hRest⟩
          rcases mem_insertKey.mp hMem with rfl | hMem
          · exact lt_of_le_of_ne (not_lt.mp hNotLt) (Ne.symm hNe)
          · exact hFirst other hMem

/-- The keys of a list are in ascending order. -/
theorem pairwise_keys_ofList (names : List String) : (ofList names).keys.Pairwise (· < ·) := by
  have hFold (kept keys : List String) (h : keys.Pairwise (· < ·)) :
      (kept.foldl (fun keys n => insertKey (nameKey n) keys) keys).Pairwise (· < ·) := by
    induction kept generalizing keys with
    | nil => exact h
    | cons n kept ih => exact ih _ (pairwise_insertKey h)
  exact hFold _ [] List.Pairwise.nil

/-- Lists that have the same keys hide the same. -/
theorem ofList_eq_iff : ofList names = ofList others ↔
    ∀ key, key ∈ (ofList names).keys ↔ key ∈ (ofList others).keys := by
  refine ⟨fun h key => by rw [h], fun h => ?_⟩
  have hKeys : (ofList names).keys = (ofList others).keys :=
    (pairwise_keys_ofList names).eq_of_mem_iff (pairwise_keys_ofList others) h
  exact congrArg HiddenNames.mk hKeys

/-- Lists that differ in the order of their names, in repetitions, in blank names and in the blanks around
names. -/
inductive SameNames : List String → List String → Prop
  | permuted {names others : List String} : names.Perm others → SameNames names others
  | repeated {name : String} {names : List String} : name ∈ names → SameNames names (name :: names)
  | blank {name : String} {names : List String} : allBlank name → SameNames names (name :: names)
  | padded {name before after : String} {names : List String} : allBlank before → allBlank after →
      SameNames (name :: names) ((before ++ name ++ after) :: names)
  | symm {names others : List String} : SameNames names others → SameNames others names
  | trans {names others more : List String} : SameNames names others → SameNames others more →
      SameNames names more

theorem SameNames.ofList_eq (h : SameNames names others) : ofList others = ofList names := by
  induction h with
  | permuted hPerm =>
      refine ofList_eq_iff.mpr fun key => ?_
      simp only [mem_keys_ofList, hPerm.mem_iff]
  | repeated hMem =>
      refine ofList_eq_iff.mpr fun key => ?_
      simp only [mem_keys_ofList, List.mem_cons, exists_eq_or_imp, or_iff_right_iff_imp]
      exact fun hName => ⟨_, hMem, hName⟩
  | blank hBlank =>
      refine ofList_eq_iff.mpr fun key => ?_
      simp [mem_keys_ofList, strip_eq_empty.mpr hBlank]
  | padded hBefore hAfter =>
      refine ofList_eq_iff.mpr fun key => ?_
      simp only [mem_keys_ofList, List.mem_cons, exists_eq_or_imp, strip_between hBefore hAfter]
  | symm _ ih => exact ih.symm
  | trans _ _ ihFirst ihSecond => exact ihSecond.trans ihFirst

/-- The keys of a list hide what the list hides. -/
theorem ofList_keys_ofList (names : List String) : ofList (ofList names).keys = ofList names := by
  refine ofList_eq_iff.mpr fun key => ?_
  -- A key has no blanks at its ends, is not empty and is its own key.
  have hKey {known : String} (hKnown : known ∈ (ofList names).keys) :
      strip known = known ∧ known ≠ "" ∧ nameKey known = known := by
    obtain ⟨name, _, hSome, rfl⟩ := mem_keys_ofList.mp hKnown
    exact ⟨strip_nameKey (strip_strip name), mt nameKey_eq_empty.mp hSome, nameKey_nameKey _⟩
  rw [mem_keys_ofList]
  constructor
  · rintro ⟨known, hKnown, _, rfl⟩
    obtain ⟨hStrip, _, hSame⟩ := hKey hKnown
    rwa [hStrip, hSame]
  · intro hKnown
    obtain ⟨hStrip, hSome, hSame⟩ := hKey hKnown
    exact ⟨key, hKnown, by rwa [hStrip], by rw [hStrip, hSame]⟩

/-- A list of hidden names is in normal form: it answers alike for all spellings of a path with one key, it
hides the names that it was made of and its own keys, and it is made anew from its keys and from all lists of
the same names. -/
structure InNormalForm (names : List String) : Prop where
  matched (path : String) : (ofList names).hides path ↔
    ∃ name ∈ names, ¬ allBlank name ∧ nameKey (strip name) = nameKey path
  ofKey (path : String) : (ofList names).hides (nameKey path) = (ofList names).hides path
  turned {path other : String} : Turned path other → (ofList names).hides other = (ofList names).hides path
  named : ∀ name ∈ names, ¬ allBlank name → (ofList names).hides (strip name)
  keys : ∀ key ∈ (ofList names).keys, (ofList names).hides key
  rearranged {others : List String} : SameNames names others → ofList others = ofList names
  remade : ofList (ofList names).keys = ofList names

/-- Names have keys that are their own keys, and all lists of names are in normal form. -/
theorem inNormalForm_ofList :
    (∀ text, nameKey (nameKey text) = nameKey text) ∧ ∀ names, InNormalForm names := by
  refine ⟨nameKey_nameKey, fun names => ?_⟩
  have hMatched (path : String) : (ofList names).hides path ↔
      ∃ name ∈ names, ¬ allBlank name ∧ nameKey (strip name) = nameKey path := by
    simp only [hides_ofList, ne_eq, strip_eq_empty]
  exact {
    matched := hMatched
    ofKey := fun path => hides_congr (nameKey_nameKey path)
    turned := fun {path other} hTurned => hides_congr (by
      rw [nameKey, nameKey, withForwardSlashes_eq_iff.mpr hTurned])
    named := fun name hMem hSome => (hMatched _).mpr ⟨name, hMem, hSome, rfl⟩
    keys := fun key hMem => by
      obtain ⟨name, hName, hSome, rfl⟩ := mem_keys_ofList.mp hMem
      rw [hides_congr (nameKey_nameKey _), hides_ofList]
      exact ⟨name, hName, hSome, rfl⟩
    rearranged := SameNames.ofList_eq
    remade := ofList_keys_ofList names }

example : ofList [" Straße.txt", "conf\\a.json\n", "STRASSE.TXT", " "] = ⟨["CONF/A.JSON", "STRASSE.TXT"]⟩ := by
  decide +kernel

end HiddenNames

end ConfigGate
