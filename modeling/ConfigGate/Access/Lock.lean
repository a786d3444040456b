import ConfigGate.Access.World

/-! Locks by canonical location. Callers get a lock in the order in which they ask for it, and the
table forgets a lock when nobody asks for it any more. -/
namespace ConfigGate.LockTable

/-- The callers of a lock, the holder first. -/
def callers (table : LockTable) (key : Location) : List Nat :=
  (table.lookup key).getD []

/-- The caller who holds the lock. -/
def holder? (table : LockTable) (key : Location) : Option Nat :=
  (table.callers key).head?

/-- Ask for a lock. -/
def request (table : LockTable) (key : Location) (caller : Nat) : LockTable :=
  Keyed.assign key (table.callers key ++ [caller]) table

/-- Give a lock back, or give up waiting for it. -/
def release (table : LockTable) (key : Location) (caller : Nat) : LockTable :=
  match (table.callers key).erase caller with
  | [] => table.filter fun (k, _) => k != key
  | rest => Keyed.assign key rest table

end ConfigGate.LockTable
