import ConfigGate.Access.Lock
import ConfigGate.Proofs.Tree.Entries

/-! The lock table. Whoever holds a lock keeps it until he gives it back himself, and a lock is in the
table as long as somebody holds it or waits for it. -/
namespace ConfigGate.LockTable

variable {table : LockTable} {key other : Location} {caller holder : Nat}

theorem callers_request (table : LockTable) (key other : Location) (caller : Nat) :
    (table.request key caller).callers other =
      if other = key then table.callers key ++ [caller] else table.callers other := by
  unfold request callers
  rw [Keyed.lookup_assign]
  split <;> rfl

theorem callers_release (table : LockTable) (key other : Location) (caller : Nat) :
    (table.release key caller).callers other =
      if other = key then (table.callers key).erase caller else table.callers other := by
  unfold release
  split
  · rename_i hEmpty
    rw [hEmpty]
    unfold callers
    rw [Keyed.lookup_filter_ne]
    split <;> rfl
  · unfold callers
    rw [Keyed.lookup_assign]
    split <;> rfl

/-- A holder goes on holding his lock while others ask for it. -/
theorem holder?_request (h : table.holder? other = some holder) :
    (table.request key caller).holder? other = some holder := by
  unfold holder? at h ⊢
  rw [callers_request]
  split
  · rename_i hSame
    rw [← hSame, List.head?_append, h]
    rfl
  · exact h

/-- Whoever asks for a lock that nobody holds gets it. -/
theorem holder?_request_of_free (h : table.holder? other = none) :
    (table.request key caller).holder? other = if other = key then some caller else none := by
  unfold holder? at h ⊢
  rw [callers_request]
  split
  · rename_i hSame
    rw [← hSame, List.head?_append, h]
    rfl
  · exact h

/-- A holder goes on holding his lock when somebody else gives one back. -/
theorem holder?_release (h : table.holder? other = some holder) (hNe : holder ≠ caller) :
    (table.release key caller).holder? other = some holder := by
  unfold holder? at h ⊢
  rw [callers_release]
  split
  · rename_i hSame
    rw [hSame] at h
    obtain ⟨rest, hCallers⟩ := List.head?_eq_some_iff.mp h
    rw [hCallers, List.erase_cons_tail (by simpa using hNe), List.head?_cons]
  · exact h

theorem mem_callers_request {other : Location} {asked : Nat} :
    asked ∈ (table.request key caller).callers other ↔
      asked ∈ table.callers other ∨ other = key ∧ asked = caller := by
  rw [callers_request]
  by_cases h : other = key
  · rw [if_pos h, h, List.mem_append, List.mem_singleton]
    simp
  · rw [if_neg h]
    simp [h]

/-- Others go on waiting when somebody gives a lock back. -/
theorem mem_callers_release {asked : Nat} (hNe : asked ≠ caller) :
    asked ∈ (table.release key caller).callers other ↔ asked ∈ table.callers other := by
  rw [callers_release]
  by_cases h : other = key
  · rw [if_pos h, h, List.mem_erase_of_ne hNe]
  · rw [if_neg h]

/-- No lock is in the table twice, and each of them has a caller. -/
structure IsTidy (table : LockTable) : Prop where
  once : (table.map Prod.fst).Nodup
  used : ∀ entry ∈ table, entry.2 ≠ []

namespace IsTidy

theorem empty : IsTidy [] := ⟨List.nodup_nil, by simp⟩

theorem request (h : table.IsTidy) (key : Location) (caller : Nat) :
    (table.request key caller).IsTidy where
  once := Keyed.nodup_keys_assign h.once
  used entry hMem := by
    rcases Keyed.mem_assign hMem with rfl | hOld
    · simp
    · exact h.used entry hOld

theorem release (h : table.IsTidy) (key : Location) (caller : Nat) :
    (table.release key caller).IsTidy := by
  unfold LockTable.release
  split
  · exact ⟨h.once.sublist (List.filter_sublist.map _),
      fun entry hMem => h.used entry (List.mem_filter.mp hMem).1⟩
  · rename_i rest hRest
    refine ⟨Keyed.nodup_keys_assign h.once, fun entry hMem => ?_⟩
    rcases Keyed.mem_assign hMem with rfl | hOld
    · exact hRest
    · exact h.used entry hOld

/-- A lock is in the table exactly as long as it has callers. -/
theorem mem_keys_iff (h : table.IsTidy) :
    key ∈ table.map Prod.fst ↔ table.callers key ≠ [] := by
  rw [Keyed.mem_keys_iff_lookup_isSome]
  unfold callers
  cases hFound : table.lookup key with
  | none => simp
  | some found =>
      obtain ⟨before, after, hTable, _⟩ := List.lookup_eq_some_iff.mp hFound
      simpa using h.used (key, found) (by simp [hTable])

end IsTidy

end ConfigGate.LockTable
