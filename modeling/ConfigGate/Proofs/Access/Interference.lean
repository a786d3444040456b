import ConfigGate.Proofs.Access.Call

/-! What the step of one client leaves to the others. A write touches its private file and, at its end,
the entry of its target. No other write under way has the same target, since both would hold its lock,
and no reader has a file that still belongs to a write. -/
namespace ConfigGate

open Tree

variable {s : Setting} {base tree after : Tree} {i : Nat}

/-- A file that is open for reading. It has no private name, so that nobody changes it any more. -/
structure Reads (base tree : Tree) (file : Nat) (bytes : Bytes) : Prop where
  known : file < tree.nextFile
  data : (tree.data? file).map (·.bytes) = some bytes
  named : ∀ location, tree.fileAt? location = some file → (base.outline? location).isSome

theorem Reads.of_touches {file : Nat} {bytes : Bytes} (h : Reads base tree file bytes)
    {places : List Location} {number : Nat} (hTouches : tree.Touches after places number)
    (hNe : file ≠ number) : Reads base after file bytes where
  known := Nat.lt_of_lt_of_le h.known hTouches.nextFile
  data := by
    rw [hTouches.data file hNe]
    exact h.data
  named location hFile := by
    rcases hTouches.files location file hFile with hSame | hBefore
    · exact absurd hSame hNe
    · exact h.named location hBefore

/-- What a step of the caller `i` leaves to the others: the root, their locks, the files that they read, and
their private files. -/
structure Leaves (s : Setting) (base : Tree) (i : Nat) (before after : World) : Prop where
  root : before.root.isSome → after.root.isSome
  holders : ∀ key j, j ≠ i → before.locks.holder? key = some j → after.locks.holder? key = some j
  readers : ∀ file bytes, Reads base before.tree file bytes → Reads base after.tree file bytes
  writers : ∀ j path bytes stage n number, j ≠ i →
    before.locks.holder? (path.place s.site.working) = some j →
    WriteStage.Underway s base before.tree path bytes stage n number →
    WriteStage.Underway s base after.tree path bytes stage n number

namespace Leaves

variable {before middle after : World}

/-- A step that does not touch the tree. -/
theorem of_tree (hTree : after.tree = before.tree) (hRoot : before.root.isSome → after.root.isSome)
    (hLocks : ∀ key j, j ≠ i → before.locks.holder? key = some j →
      after.locks.holder? key = some j) : Leaves s base i before after where
  root := hRoot
  holders := hLocks
  readers _ _ h := hTree ▸ h
  writers _ _ _ _ _ _ _ _ h := hTree ▸ h

theorem trans (h : Leaves s base i before middle) (h' : Leaves s base i middle after) :
    Leaves s base i before after where
  root hSome := h'.root (h.root hSome)
  holders key j hNe hHolds := h'.holders key j hNe (h.holders key j hNe hHolds)
  readers file bytes hReads := h'.readers file bytes (h.readers file bytes hReads)
  writers j path bytes stage n number hNe hHolds hUnderway :=
    h'.writers j path bytes stage n number hNe (h.holders _ j hNe hHolds)
      (h.writers j path bytes stage n number hNe hHolds hUnderway)

/-- The file belongs to a write to the target, or it is new. -/
def IsOwn (s : Setting) (base tree : Tree) (target : Path) (number : Nat) : Prop :=
  number = tree.nextFile ∨
    ∃ n, base.outline? (WriteStage.temporaryPlace s.site.working target n) = none ∧
      tree.fileAt? (WriteStage.temporaryPlace s.site.working target n) = some number

/-- A step of a write that holds the lock of its target. -/
theorem of_touches {target : Path} {places : List Location} {number : Nat}
    (wf : before.tree.WellFormed) (hTarget : Access.IsTarget s base target)
    (hHolds : before.locks.holder? (target.place s.site.working) = some i)
    (hPlaces : ∀ location ∈ places, location = target.place s.site.working ∨
      ∃ n, location = WriteStage.temporaryPlace s.site.working target n)
    (hNumber : IsOwn s base before.tree target number)
    (hTouches : before.tree.Touches after.tree places number) (hRoot : after.root = before.root)
    (hLocks : after.locks = before.locks) : Leaves s base i before after where
  root hSome := hRoot ▸ hSome
  holders key j _ h := by rwa [hLocks]
  readers file bytes h := by
    refine h.of_touches hTouches ?_
    rintro rfl
    rcases hNumber with hNew | ⟨n, hFree, hFile⟩
    · exact absurd h.known (by rw [hNew]; exact Nat.lt_irrefl _)
    · have hNamed := h.named _ hFile
      rw [hFree] at hNamed
      cases hNamed
  writers j path bytes stage n number' hNe hOther h := by
    have hApart (m : Nat) : WriteStage.temporaryPlace s.site.working path n ≠
        WriteStage.temporaryPlace s.site.working target m := by
      intro hSame
      rw [WriteStage.place_of_temporaryPlace hSame, hHolds] at hOther
      exact hNe (Option.some.inj hOther).symm
    refine h.of_touches hTouches ?_ ?_
    · intro hMem
      rcases hPlaces _ hMem with hSame | ⟨m, hSame⟩
      · exact h.place_ne hTarget hSame
      · exact hApart m hSame
    · rintro rfl
      rcases hNumber with hNew | ⟨m, _, hFile⟩
      · exact absurd (wf.lt_nextFile h.file) (by rw [hNew]; exact Nat.lt_irrefl _)
      · exact hApart m (h.alone _ hFile).symm

end Leaves

end ConfigGate
