import ConfigGate.Keyed

namespace ConfigGate

/-- What has been counted: accesses by mode and outcome, rejections by reason, and the sizes of what
has been written. -/
structure Metrics where
  accesses : List ((String × String) × Nat)
  rejections : List (String × Nat)
  /-- The sizes in bytes of all successful writes, latest first. -/
  writes : List Nat
deriving DecidableEq, Repr

namespace Metrics

/-- Nothing has been counted. -/
def zero : Metrics := ⟨[], [], []⟩

/-- Add one to a counter. -/
def bump {κ : Type} [DecidableEq κ] (key : κ) (counters : List (κ × Nat)) : List (κ × Nat) :=
  Keyed.assign key ((counters.lookup key).getD 0 + 1) counters

def countAccess (m : Metrics) (mode outcome : String) : Metrics :=
  { m with accesses := bump (mode, outcome) m.accesses }

def countRejection (m : Metrics) (reason : String) : Metrics :=
  { m with rejections := bump reason m.rejections }

def countWrite (m : Metrics) (size : Nat) : Metrics :=
  { m with writes := size :: m.writes }

/-- The upper bounds of the size classes of writes. Beyond the last one there is a class without a
bound. -/
def bounds : List Nat := [64, 512, 4096, 32768, 262144, 1048576]

/-- The number of writes of at most so many bytes. -/
def writesUpTo (m : Metrics) (bound : Nat) : Nat :=
  m.writes.countP (· ≤ bound)

/-- The number of writes. -/
def writeCount (m : Metrics) : Nat := m.writes.length

/-- The number of bytes of all writes. -/
def writeSum (m : Metrics) : Nat := m.writes.foldl (· + ·) 0

end Metrics

end ConfigGate
