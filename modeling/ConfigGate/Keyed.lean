/-! Lists of pairs as maps that keep the order in which their keys came first. -/
namespace ConfigGate.Keyed

variable {κ α : Type} [DecidableEq κ]

/-- Set the value of a key. A key that is there keeps its place, and a new key comes last. -/
def assign (key : κ) (value : α) : List (κ × α) → List (κ × α)
  | [] => [(key, value)]
  | (k, v) :: rest => if k = key then (k, value) :: rest else (k, v) :: assign key value rest

/-- The pairs with one entry for each key: the place is that of its first occurrence, and the value
that of its last. -/
def lastWins (pairs : List (κ × α)) : List (κ × α) :=
  pairs.foldl (fun found (k, v) => assign k v found) []

theorem mem_keys_assign {key k : κ} {value : α} {entries : List (κ × α)} :
    k ∈ (assign key value entries).map Prod.fst ↔ k = key ∨ k ∈ entries.map Prod.fst := by
  induction entries with
  | nil => simp [assign]
  | cons entry rest ih =>
    obtain ⟨k', v'⟩ := entry
    by_cases h : k' = key
    · subst h
      simp [assign]
    · simp only [assign, if_neg h, List.map_cons, List.mem_cons, ih]
      exact or_left_comm

theorem nodup_keys_assign {key : κ} {value : α} {entries : List (κ × α)}
    (h : (entries.map Prod.fst).Nodup) : ((assign key value entries).map Prod.fst).Nodup := by
  induction entries with
  | nil => simp [assign]
  | cons entry rest ih =>
    obtain ⟨k, v⟩ := entry
    rw [List.map_cons, List.nodup_cons] at h
    by_cases hk : k = key
    · subst hk
      simpa only [assign, if_pos, List.map_cons, List.nodup_cons] using h
    · simp only [assign, if_neg hk, List.map_cons, List.nodup_cons, mem_keys_assign]
      exact ⟨fun hmem => hmem.elim hk h.1, ih h.2⟩

/-- No key occurs twice after the pairs have been merged. -/
theorem nodup_keys_lastWins (pairs : List (κ × α)) :
    ((lastWins pairs).map Prod.fst).Nodup := by
  have main : ∀ (pairs found : List (κ × α)), (found.map Prod.fst).Nodup →
      ((pairs.foldl (fun found (k, v) => assign k v found) found).map Prod.fst).Nodup := by
    intro pairs
    induction pairs with
    | nil => exact fun _ h => h
    | cons pair rest ih => exact fun found h => ih _ (nodup_keys_assign h)
  exact main pairs [] List.nodup_nil

end ConfigGate.Keyed
