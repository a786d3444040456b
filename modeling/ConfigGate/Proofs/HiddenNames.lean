import ConfigGate.HiddenNames

/-! Which paths a list of hidden names hides. A path is looked up by its key, so a list hides all
spellings with one key or none of them. -/
namespace ConfigGate

theorem forwardSlash_forwardSlash (c : Char) : forwardSlash (forwardSlash c) = forwardSlash c := by
  unfold forwardSlash
  by_cases h : c = '\\' <;> simp [h]

theorem withForwardSlashes_withForwardSlashes (path : String) :
    withForwardSlashes (withForwardSlashes path) = withForwardSlashes path := by
  unfold withForwardSlashes
  rw [String.toList_ofList, List.map_map]
  congr 2
  funext c
  exact forwardSlash_forwardSlash c

/-- The direction of the slashes does not matter for the key. -/
@[simp] theorem nameKey_withForwardSlashes (path : String) :
    nameKey (withForwardSlashes path) = nameKey path := by
  rw [nameKey, withForwardSlashes_withForwardSlashes, ← nameKey]

@[simp] theorem withForwardSlashes_append (front back : String) :
    withForwardSlashes (front ++ back) = withForwardSlashes front ++ withForwardSlashes back := by
  simp [withForwardSlashes, String.ofList_append]

theorem nameKey_append (front back : String) :
    nameKey (front ++ back) = nameKey front ++ nameKey back := by
  simp [nameKey, Text.upper, String.ofList_append]

namespace HiddenNames

variable {hidden : HiddenNames} {names : List String} {path other : String}

/-- Only the key of a path decides. -/
theorem hides_congr (h : nameKey path = nameKey other) : hidden.hides path = hidden.hides other := by
  rw [hides, hides, h]

theorem mem_insertKey {key new : String} {keys : List String} :
    key ∈ insertKey new keys ↔ key = new ∨ key ∈ keys := by
  induction keys with
  | nil => simp [insertKey]
  | cons first rest ih =>
    unfold insertKey
    split
    · rename_i hSame
      simp [hSame]
    · split
      · simp
      · rw [List.mem_cons, List.mem_cons, ih]
        grind

/-- The keys of a list are those of its names without the blanks at their ends. -/
theorem mem_keys_ofList {key : String} :
    key ∈ (ofList names).keys ↔
      ∃ name ∈ names, Text.strip name ≠ "" ∧ nameKey (Text.strip name) = key := by
  have hFold (kept keys : List String) :
      key ∈ kept.foldl (fun keys n => insertKey (nameKey n) keys) keys ↔
        key ∈ keys ∨ ∃ n ∈ kept, nameKey n = key := by
    induction kept generalizing keys with
    | nil => simp
    | cons n kept ih =>
      rw [List.foldl_cons, ih, mem_insertKey]
      grind
  unfold ofList
  rw [hFold]
  simp only [List.not_mem_nil, false_or, List.mem_filter, List.mem_map, decide_eq_true_eq]
  constructor
  · rintro ⟨_, ⟨⟨name, hMem, rfl⟩, hBlank⟩, hKey⟩
    exact ⟨name, hMem, hBlank, hKey⟩
  · rintro ⟨name, hMem, hBlank, hKey⟩
    exact ⟨_, ⟨⟨name, hMem, rfl⟩, hBlank⟩, hKey⟩

/-- Names that have been trimmed are kept as they are. -/
theorem ofList_trimmed (names : List String) :
    ofList ((names.map Text.strip).filter (· ≠ "")) = ofList names := by
  have hStrip : ((names.map Text.strip).filter (· ≠ "")).map Text.strip =
      (names.map Text.strip).filter (· ≠ "") := by
    refine (List.map_congr_left fun name hMem => ?_).trans (List.map_id _)
    obtain ⟨given, _, rfl⟩ := List.mem_map.mp (List.mem_filter.mp hMem).1
    exact Text.strip_strip given
  rw [ofList, hStrip, List.filter_filter, ofList]
  simp

theorem hides_ofList : (ofList names).hides path ↔
    ∃ name ∈ names, Text.strip name ≠ "" ∧ nameKey (Text.strip name) = nameKey path := by
  rw [hides, List.contains_iff_mem, mem_keys_ofList]

/-- The keys of what is hidden have a bounded length. -/
theorem exists_length_bound (hidden : HiddenNames) :
    ∃ n, ∀ path, hidden.hides path → (nameKey path).length ≤ n := by
  have hKeys (keys : List String) : ∃ n, ∀ key ∈ keys, key.length ≤ n := by
    induction keys with
    | nil => exact ⟨0, by simp⟩
    | cons first rest ih =>
        obtain ⟨n, hRest⟩ := ih
        refine ⟨max first.length n, fun key hKey => ?_⟩
        rcases List.mem_cons.mp hKey with rfl | hKey
        · exact Nat.le_max_left _ _
        · exact Nat.le_trans (hRest key hKey) (Nat.le_max_right _ _)
  obtain ⟨n, hBound⟩ := hKeys hidden.keys
  exact ⟨n, fun path hHides => hBound _ (List.contains_iff_mem.mp hHides)⟩

/-- What can be hidden at all can be hidden alone. -/
theorem hides_singleton (h : (ofList names).hides path) :
    ∃ name, ∀ other, (ofList [name]).hides other ↔ nameKey other = nameKey path := by
  obtain ⟨name, _, hBlank, hKey⟩ := hides_ofList.mp h
  refine ⟨name, fun other => ?_⟩
  rw [hides_ofList, ← hKey]
  constructor
  · rintro ⟨_, hMem, _, hOther⟩
    rw [List.mem_singleton.mp hMem] at hOther
    exact hOther.symm
  · exact fun hOther => ⟨name, List.mem_singleton_self name, hBlank, hOther.symm⟩

end HiddenNames

end ConfigGate
