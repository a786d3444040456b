import ConfigGate.Keyed
import Mathlib.Data.List.Induction

/-! What stands under a key after a change, and which pairs are left. -/
namespace ConfigGate.Keyed

variable {κ α : Type} [DecidableEq κ]

theorem mem_assign {key : κ} {value : α} {entry : κ × α} {entries : List (κ × α)}
    (h : entry ∈ assign key value entries) : entry = (key, value) ∨ entry ∈ entries := by
  induction entries with
  | nil => exact .inl (List.mem_singleton.mp h)
  | cons first rest ih =>
      obtain ⟨k, v⟩ := first
      by_cases hKey : k = key
      · rw [assign, if_pos hKey, List.mem_cons] at h
        rcases h with h | h
        · exact .inl (by rw [h, hKey])
        · exact .inr (List.mem_cons_of_mem _ h)
      · rw [assign, if_neg hKey, List.mem_cons] at h
        rcases h with h | h
        · exact .inr (h ▸ List.mem_cons_self)
        · exact (ih h).imp id (List.mem_cons_of_mem _)

theorem assign_of_not_mem {key : κ} (value : α) {entries : List (κ × α)} (h : key ∉ entries.map Prod.fst) :
    assign key value entries = entries ++ [(key, value)] := by
  induction entries with
  | nil => rfl
  | cons first rest ih =>
      obtain ⟨k, v⟩ := first
      rw [List.map_cons, List.mem_cons, not_or] at h
      rw [assign, if_neg (Ne.symm h.1), ih h.2, List.cons_append]

/-- Pairs without two of one key are left as they are. -/
theorem lastWins_of_nodup {pairs : List (κ × α)} (h : (pairs.map Prod.fst).Nodup) : lastWins pairs = pairs := by
  have main : ∀ (pairs found : List (κ × α)), ((found ++ pairs).map Prod.fst).Nodup →
      pairs.foldl (fun found p => assign p.1 p.2 found) found = found ++ pairs := by
    intro pairs
    induction pairs with
    | nil => exact fun found _ => (List.append_nil found).symm
    | cons pair rest ih =>
        intro found hNodup
        have hNew : pair.1 ∉ found.map Prod.fst := by
          rw [List.map_append, List.nodup_append] at hNodup
          exact fun hMem => hNodup.2.2 pair.1 hMem pair.1 (by simp) rfl
        rw [List.append_cons] at hNodup ⊢
        rw [List.foldl_cons, assign_of_not_mem pair.2 hNew]
        exact ih _ hNodup
  exact main pairs [] h

/-- Merging makes no new pairs. -/
theorem mem_of_mem_lastWins {pairs : List (κ × α)} {pair : κ × α} (h : pair ∈ lastWins pairs) : pair ∈ pairs := by
  have main : ∀ (pairs found : List (κ × α)),
      pair ∈ pairs.foldl (fun found p => assign p.1 p.2 found) found → pair ∈ found ∨ pair ∈ pairs := by
    intro pairs
    induction pairs with
    | nil => exact fun _ h => .inl h
    | cons other rest ih =>
        intro found h
        rcases ih _ h with hFound | hRest
        · rcases mem_assign hFound with rfl | hOld
          · exact .inr (.head _)
          · exact .inl hOld
        · exact .inr (.tail _ hRest)
  exact (main pairs [] h).resolve_left List.not_mem_nil

theorem keys_assign (key : κ) (value : α) (entries : List (κ × α)) :
    (assign key value entries).map Prod.fst =
      if key ∈ entries.map Prod.fst then entries.map Prod.fst else entries.map Prod.fst ++ [key] := by
  induction entries with
  | nil => simp [assign]
  | cons entry rest ih =>
      obtain ⟨k, v⟩ := entry
      by_cases hKey : k = key
      · simp [assign, hKey]
      · simp only [assign, if_neg hKey, List.map_cons, ih, List.mem_cons, Ne.symm hKey, false_or]
        split <;> rfl

theorem lastWins_concat (pairs : List (κ × α)) (pair : κ × α) :
    lastWins (pairs ++ [pair]) = assign pair.1 pair.2 (lastWins pairs) := by
  rw [lastWins, List.foldl_append]
  rfl

variable [BEq κ] [LawfulBEq κ]

/-- Merging leaves the keys in the order in which they came first. -/
theorem keys_lastWins (pairs : List (κ × α)) :
    (lastWins pairs).map Prod.fst = (pairs.map Prod.fst).eraseDups := by
  induction pairs using List.reverseRecOn with
  | nil => rfl
  | append_singleton pairs pair ih =>
      rw [lastWins_concat, keys_assign, ih, List.map_append, List.eraseDups_append, List.map_singleton]
      by_cases hKnown : pair.1 ∈ pairs.map Prod.fst
      · rw [if_pos (List.mem_eraseDups.mpr hKnown)]
        simp [List.removeAll, hKnown]
      · rw [if_neg (mt List.mem_eraseDups.mp hKnown)]
        simp [List.removeAll, hKnown, List.eraseDups_cons]

theorem lookup_assign (key k : κ) (value : α) (entries : List (κ × α)) :
    (assign key value entries).lookup k = if k = key then some value else entries.lookup k := by
  induction entries with
  | nil =>
      by_cases h : k = key
      · simp [assign, h]
      · simp [assign, List.lookup_cons, beq_eq_false_iff_ne.mpr h, h]
  | cons entry rest ih =>
      obtain ⟨k', v⟩ := entry
      by_cases hKey : k' = key
      · subst hKey
        by_cases h : k = k'
        · simp [assign, h]
        · simp [assign, List.lookup_cons, beq_eq_false_iff_ne.mpr h, h]
      · simp only [assign, if_neg hKey, List.lookup_cons, ih]
        by_cases h : k = k'
        · subst h
          simp [hKey]
        · simp [beq_eq_false_iff_ne.mpr h]

/-- Merging leaves the value that came last. -/
theorem lookup_lastWins (key : κ) (pairs : List (κ × α)) :
    (lastWins pairs).lookup key = pairs.reverse.lookup key := by
  induction pairs using List.reverseRecOn with
  | nil => rfl
  | append_singleton pairs pair ih =>
      rw [lastWins_concat, lookup_assign, ih, List.reverse_append, List.reverse_singleton, List.singleton_append,
        List.lookup_cons]
      by_cases hKey : key = pair.1
      · simp [hKey]
      · rw [if_neg hKey, beq_eq_false_iff_ne.mpr hKey]

theorem lookup_filter_ne (key k : κ) (entries : List (κ × α)) :
    (entries.filter fun (other, _) => other != key).lookup k =
      if k = key then none else entries.lookup k := by
  induction entries with
  | nil => simp
  | cons entry rest ih =>
      obtain ⟨k', v⟩ := entry
      by_cases hKey : k' = key
      · subst hKey
        by_cases h : k = k'
        · rw [List.filter_cons_of_neg (by simp), ih, if_pos h, if_pos h]
        · rw [List.filter_cons_of_neg (by simp), ih, List.lookup_cons, beq_eq_false_iff_ne.mpr h]
      · rw [List.filter_cons_of_pos (by simpa using hKey), List.lookup_cons, List.lookup_cons, ih]
        by_cases h : k = k'
        · subst h
          simp [hKey]
        · simp [beq_eq_false_iff_ne.mpr h]

theorem mem_keys_iff_lookup_isSome (k : κ) (entries : List (κ × α)) :
    k ∈ entries.map Prod.fst ↔ (entries.lookup k).isSome := by
  induction entries with
  | nil => simp
  | cons entry rest ih =>
      obtain ⟨k', v⟩ := entry
      by_cases h : k = k'
      · simp [h]
      · simp [List.lookup_cons, beq_eq_false_iff_ne.mpr h, ← ih, h]

omit [DecidableEq κ] in
/-- Without two values under one key, each one is found. -/
theorem lookup_of_mem {key : κ} {value : α} {entries : List (κ × α)}
    (nodup : (entries.map Prod.fst).Nodup) (h : (key, value) ∈ entries) :
    entries.lookup key = some value := by
  obtain ⟨before, after, hEntries⟩ := List.mem_iff_append.mp h
  refine List.lookup_eq_some_iff.mpr ⟨before, after, hEntries, ?_⟩
  intro other hOther
  rw [hEntries, List.map_append, List.nodup_append] at nodup
  have hNe := nodup.2.2 other.1 (List.mem_map_of_mem hOther) key (by simp)
  simpa using Ne.symm hNe

end ConfigGate.Keyed
