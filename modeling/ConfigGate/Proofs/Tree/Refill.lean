import ConfigGate.Proofs.Tree.Outline

/-! Trees with the same entries. A write in place gives a file other bytes and leaves the entries alone,
so that every path leads where it led before, and no check of a path comes to another result. -/
namespace ConfigGate.Tree

variable {tree other : Tree} {working : Location} {p : Path}

/-! Paths -/

section

variable (h : other.entries = tree.entries)

include h

theorem entry?_of_entries (location : Location) : other.entry? location = tree.entry? location := by
  unfold entry?
  rw [h]

theorem find_of_entries (working : Location) (purpose : Purpose) (p : Path) :
    other.find working purpose p = tree.find working purpose p :=
  find_of_shape (fun location => by rw [shape?, shape?, entry?_of_entries h]) working purpose p

theorem namesIn_of_entries (working : Location) (p : Path) :
    other.namesIn working p = tree.namesIn working p := by
  unfold namesIn locate directoryModeAt? names
  simp only [find_of_entries h, entry?_of_entries h, h]

/-! Canonical locations -/

theorem linkNamed?_of_entries (working : Location) (p : Path) :
    other.linkNamed? working p = tree.linkNamed? working p := by
  unfold linkNamed? linkAt?
  simp only [find_of_entries h, entry?_of_entries h]

theorem nesting_of_entries (working : Location) (p : Path) :
    other.nesting working p = tree.nesting working p :=
  nesting_of_linkNamed? (linkNamed?_of_entries h working) (by rw [linkCount, linkCount, h]) p

theorem canonical_of_entries (working : Location) (p : Path) :
    other.canonical working p = tree.canonical working p := by
  refine canonical_of_linkNamed? (linkNamed?_of_entries h working) ?_ (fun p => ?_) p
  · rw [linkCount, linkCount, h]
  · rw [find_of_entries h]

end

/-! Files with other bytes -/

/-- The other tree has the same entries. Files may have other bytes, and may have lost the privileges that go
when they are written to. -/
structure Refills (tree other : Tree) : Prop where
  entries : other.entries = tree.entries
  modes : ∀ number, (other.data? number).map (withoutPrivileges ·.mode) =
    (tree.data? number).map (withoutPrivileges ·.mode)

namespace Refills

theorem refl (tree : Tree) : tree.Refills tree := ⟨rfl, fun _ => rfl⟩

theorem fileAt? (h : tree.Refills other) (location : Location) :
    other.fileAt? location = tree.fileAt? location := by
  rw [Tree.fileAt?, Tree.fileAt?, entry?_of_entries h.entries]

/-- The bytes of a file may change. -/
theorem change (h : tree.Refills other) (number : Nat) (bytes : FileData → Bytes) :
    tree.Refills (other.change number fun data => data.rewritten (bytes data)) where
  entries := h.entries
  modes n := by
    rw [← h.modes n, data?_change]
    split
    · rw [Option.map_map]
      exact congrArg (Option.map · _) (funext fun _ => withoutPrivileges_withoutPrivileges _)
    · rfl

theorem data? (h : tree.Refills other) {number : Nat} {data : FileData}
    (hData : tree.data? number = some data) :
    ∃ now, other.data? number = some now ∧ withoutPrivileges now.mode = withoutPrivileges data.mode := by
  have hMode := h.modes number
  rw [hData, Option.map_some, Option.map_eq_some_iff] at hMode
  exact hMode

theorem sight_statusAt? (h : tree.Refills other) (location : Location) :
    (other.statusAt? location).map Status.sight = (tree.statusAt? location).map Status.sight := by
  unfold Tree.statusAt?
  rw [entry?_of_entries h.entries]
  rcases tree.entry? location with _ | (_ | number | _)
  · rfl
  · rfl
  · have hMode := congrArg (Option.map fun mode => (false, mayRead mode)) (h.modes number)
    simpa only [Option.map_map, Function.comp_def, Status.sight, mayRead_withoutPrivileges] using hMode
  · rfl

/-- A check of a path sees what it saw before. -/
theorem status_agree (h : tree.Refills other) :
    Agree Status.sight (tree.status working p) (other.status working p) := by
  unfold status locate
  rw [find_of_entries h.entries]
  cases tree.find working .target p with
  | error errno => exact .inl rfl
  | ok destination =>
      cases destination with
      | absent directory name => exact .inl rfl
      | present there => exact .of_map (h.sight_statusAt? there)

end Refills

end ConfigGate.Tree
