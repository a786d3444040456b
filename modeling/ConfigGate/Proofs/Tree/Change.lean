import ConfigGate.Proofs.Tree.Operations

/-! What a change of a tree leaves as it was. A write either leaves everything alike, or puts a new file
at one place, or gives new contents to a file that is there. -/
namespace ConfigGate.Tree

variable {before after tree : Tree} {working location place : Location} {p : Path}
  {number : Nat} {data : FileData}

/-- Every location has the entry that it had, and every file that has a name has its contents and
permission bits. Only times of directories may differ. -/
structure Alike (before after : Tree) : Prop where
  timeless : ∀ location, after.timeless? location = before.timeless? location
  data : ∀ location number, before.fileAt? location = some number →
    after.data? number = before.data? number

/-- A new file stands at the location. All other entries are what they were, and so are the contents
of all other files. -/
structure Gains (before after : Tree) (place : Location) (data : FileData) : Prop where
  timeless : ∀ location, after.timeless? location =
    if location = place then some (.file before.nextFile) else before.timeless? location
  data : ∀ number, after.data? number =
    if number = before.nextFile then some data else before.data? number

/-- The file has new contents. All entries are what they were, and so are the contents of all other
files. -/
structure Rewrites (before after : Tree) (number : Nat) (data : FileData) : Prop where
  timeless : ∀ location, after.timeless? location = before.timeless? location
  data : ∀ n, after.data? n = if n = number then some data else before.data? n

theorem node?_of_file (h : tree.fileAt? location = some number) :
    tree.node? location = (tree.data? number).map fun data => .file data.mode data.bytes := by
  unfold node?
  rw [(timeless?_eq_file tree).mpr h]

theorem node?_congr (hTimeless : after.timeless? location = before.timeless? location)
    (hData : ∀ number, before.fileAt? location = some number →
      after.data? number = before.data? number) :
    after.node? location = before.node? location := by
  unfold node?
  rw [hTimeless]
  rcases hEntry : before.timeless? location with _ | (_ | number | _)
  · rfl
  · rfl
  · simp only [hData number ((timeless?_eq_file before).mp hEntry)]
  · rfl

/-- The status without the time of the last change. -/
def Status.timeless (status : Status) : Status := { status with modified := .recent }

/-- The status that can be seen, without a time. -/
def status? (node : Node) : Option Status :=
  match node with
  | .directory mode => some ⟨true, 0, mode, .recent⟩
  | .file mode bytes => some ⟨false, bytes.length, mode, .recent⟩
  | .link _ => none

/-- What the system tells about an entry can be seen, up to the time of its last change. -/
theorem timeless_statusAt? (tree : Tree) (location : Location) :
    (tree.statusAt? location).map Status.timeless = (tree.node? location).bind status? := by
  unfold statusAt? node? timeless?
  rcases tree.entry? location with _ | (_ | number | _)
  · rfl
  · rfl
  · simp only [Entry.timeless, Option.map_some]
    cases tree.data? number <;> rfl
  · rfl

namespace Alike

theorem refl (tree : Tree) : tree.Alike tree := ⟨fun _ => rfl, fun _ _ _ => rfl⟩

/-- Nobody can see a difference. -/
theorem node? (h : before.Alike after) (location : Location) :
    after.node? location = before.node? location :=
  node?_congr (h.timeless location) (h.data location)

end Alike

namespace Gains

theorem fileAt?_place (h : before.Gains after place data) :
    after.fileAt? place = some before.nextFile := by
  rw [← timeless?_eq_file, h.timeless, if_pos rfl]

theorem data?_place (h : before.Gains after place data) :
    after.data? before.nextFile = some data := by
  rw [h.data, if_pos rfl]

theorem grows (h : before.Gains after place data) (hFree : before.timeless? place = none) :
    before.Extends after := by
  intro location
  by_cases hPlace : location = place
  · right
    rw [hPlace]
    refine ⟨shape?_eq_none.mpr ((timeless?_eq_none before).mp hFree), ?_⟩
    simp [shape?_eq_file, h.fileAt?_place]
  · left
    apply shape?_congr
    rw [h.timeless, if_neg hPlace]

/-- Nothing else looks different. -/
theorem node? (h : before.Gains after place data) (wf : before.WellFormed) (hNe : location ≠ place) :
    after.node? location = before.node? location := by
  refine node?_congr (by rw [h.timeless, if_neg hNe]) ?_
  intro number hFile
  rw [h.data, if_neg (Nat.ne_of_lt (wf.lt_nextFile hFile))]

/-- A path that led somewhere leads to the same place, and what stands there looks the same. -/
theorem status (h : before.Gains after place data) (wf : before.WellFormed)
    (hFree : before.timeless? place = none) {found : Status}
    (hStatus : before.status working p = .ok found) :
    ∃ other, after.status working p = .ok other ∧ other.timeless = found.timeless := by
  obtain ⟨there, hThere, hFound⟩ := status_ok.mp hStatus
  have hNe : there ≠ place := by
    rintro rfl
    have hSome := entry?_isSome_of_status hFound
    rw [(timeless?_eq_none before).mp hFree] at hSome
    cases hSome
  have hSame : (after.statusAt? there).map Status.timeless = some found.timeless := by
    rw [timeless_statusAt?, h.node? wf hNe, ← timeless_statusAt?, hFound, Option.map_some]
  obtain ⟨other, hOther, hTimeless⟩ := Option.map_eq_some_iff.mp hSame
  exact ⟨other, status_ok.mpr ⟨there, find_grow (h.grows hFree) hThere, hOther⟩, hTimeless⟩

/-- The contents of the new file may change. -/
theorem change (h : before.Gains after place data) (f : FileData → FileData) :
    before.Gains (after.change before.nextFile f) place (f data) where
  timeless location := (timeless?_change after _ _).trans (h.timeless location)
  data n := by
    rw [data?_change, h.data]
    split <;> rfl

/-- Taking the new file away restores the tree. -/
theorem take (h : before.Gains after place data) (wf : before.WellFormed)
    (hFree : before.timeless? place = none) : before.Alike (after.take place) where
  timeless location := by
    rw [timeless?_take _ (ne_nil_of_file h.fileAt?_place)]
    split
    · rename_i hPlace
      rw [hPlace, hFree]
    · rename_i hPlace
      rw [h.timeless, if_neg hPlace]
  data location number hFile := by
    rw [data?_take, h.data, if_neg (Nat.ne_of_lt (wf.lt_nextFile hFile))]

/-- The new file may be moved to another place. -/
theorem move (h : before.Gains after place data) (wf : after.WellFormed)
    (hFree : before.timeless? place = none) (hNe : place ≠ location) (hRoot : location ≠ []) :
    before.Gains (rename.move after place location (.file before.nextFile)) location data where
  timeless other := by
    have hLeaf := wf.isLeaf (not_isDirectoryAt_of_file h.fileAt?_place)
    rw [timeless?_move _ _ hLeaf hNe (ne_nil_of_file h.fileAt?_place) hRoot]
    split
    · rfl
    · split
      · rename_i hPlace
        rw [hPlace, hFree]
      · rename_i hPlace
        rw [h.timeless, if_neg hPlace]
  data n := (data?_move after _ _ _ n).trans (h.data n)

end Gains

/-! What a step touches -/

/-- All entries are what they were except at the given places, and so are the contents of all files
except one. -/
structure Touches (before after : Tree) (places : List Location) (number : Nat) : Prop where
  timeless : ∀ location, location ∉ places →
    after.timeless? location = before.timeless? location
  files : ∀ location n, after.fileAt? location = some n →
    n = number ∨ before.fileAt? location = some n
  data : ∀ n, n ≠ number → after.data? n = before.data? n
  nextFile : before.nextFile ≤ after.nextFile

theorem Touches.node? {places : List Location} (h : before.Touches after places number)
    (hPlace : location ∉ places) (hFile : before.fileAt? location ≠ some number) :
    after.node? location = before.node? location := by
  refine node?_congr (h.timeless location hPlace) ?_
  rintro n hNumber
  exact h.data n fun hSame => hFile (hSame ▸ hNumber)

theorem touches_change (tree : Tree) (number : Nat) (f : FileData → FileData) :
    tree.Touches (tree.change number f) [] number where
  timeless _ _ := rfl
  files _ _ h := .inr h
  data n hNe := by rw [data?_change, if_neg hNe]
  nextFile := Nat.le_refl _

theorem touches_addFile (tree : Tree) (hRoot : place ≠ []) (data : FileData) :
    tree.Touches (tree.addFile place data).2 [place] tree.nextFile where
  timeless other hNe := by
    rw [timeless?_addFile tree data hRoot, if_neg (by simpa using hNe)]
  files other n h := by
    rw [← timeless?_eq_file, timeless?_addFile tree data hRoot] at h
    split at h
    · cases h
      exact .inl rfl
    · exact .inr ((timeless?_eq_file tree).mp h)
  data n hNe := by rw [data?_addFile, if_neg hNe]
  nextFile := by
    rw [nextFile_addFile]
    exact Nat.le_succ _

theorem touches_move (wf : tree.WellFormed) (hFile : tree.fileAt? place = some number)
    (hNe : place ≠ location) (hRoot : location ≠ []) :
    tree.Touches (rename.move tree place location (.file number)) [place, location] number where
  timeless other hOther := by
    have hLeaf := wf.isLeaf (not_isDirectoryAt_of_file hFile)
    simp only [List.mem_cons, List.not_mem_nil, or_false, not_or] at hOther
    rw [timeless?_move _ _ hLeaf hNe (ne_nil_of_file hFile) hRoot, if_neg hOther.2, if_neg hOther.1]
  files other n h := by
    have hLeaf := wf.isLeaf (not_isDirectoryAt_of_file hFile)
    rw [← timeless?_eq_file, timeless?_move _ _ hLeaf hNe (ne_nil_of_file hFile) hRoot] at h
    split at h
    · cases h
      exact .inl rfl
    · split at h
      · cases h
      · exact .inr ((timeless?_eq_file tree).mp h)
  data n _ := data?_move tree _ _ _ n
  nextFile := Nat.le_of_eq (nextFile_move tree _ _ _).symm

/-! Private files -/

/-- The path leads to the file, whatever for, and the file may be moved and taken away. -/
structure IsPrivate (tree : Tree) (working : Location) (p : Path) (place : Location) (number : Nat) :
    Prop where
  found : ∀ purpose, tree.find working purpose p = .ok (.present place)
  file : tree.fileAt? place = some number
  isOpen : tree.isOpenToChange place.dropLast

namespace IsPrivate

theorem change (h : tree.IsPrivate working p place number) (n : Nat) (f : FileData → FileData) :
    (tree.change n f).IsPrivate working p place number where
  found purpose := find_grow (.of_timeless fun _ => timeless?_change tree n f) (h.found purpose)
  file := h.file
  isOpen := h.isOpen

end IsPrivate

/-- A file that has just been made is private, and its name was free. -/
theorem isPrivate_of_createPrivate (wf : tree.WellFormed) (hParts : p.parts.getLast? ≠ some "")
    (h : tree.createPrivate working p = .ok after) :
    ∃ place, tree.timeless? place = none ∧ after.IsPrivate working p place tree.nextFile ∧
      tree.Gains after place ⟨0o600, [], .recent⟩ ∧ after.WellFormed := by
  obtain ⟨directory, name, hFind, hOpen, rfl⟩ := createPrivate_ok.mp h
  obtain ⟨hDirectory, hFree⟩ := find_absent hFind
  have hRoot : directory ++ [name] ≠ [] := by simp
  have hGains : tree.Gains (tree.addFile (directory ++ [name]) ⟨0o600, [], .recent⟩).2
      (directory ++ [name]) ⟨0o600, [], .recent⟩ :=
    ⟨fun _ => timeless?_addFile tree _ hRoot, fun n => data?_addFile tree _ n⟩
  have hGrows := hGains.grows hFree
  refine ⟨directory ++ [name], hFree, ⟨?_, hGains.fileAt?_place, ?_⟩, hGains, ?_⟩
  · exact find_of_file hFind hParts hGrows (by simp [hGains.fileAt?_place])
  · rwa [List.dropLast_concat, hGrows.isOpenToChange]
  · exact wf.addFile _ hRoot (by rwa [List.dropLast_concat]) hFree

end ConfigGate.Tree
