import ConfigGate.Proofs.Tree.Growth
import ConfigGate.Proofs.Tree.Purpose

/-! When the operations on files succeed, and what they do then. -/
namespace ConfigGate.Tree

variable {tree : Tree} {working : Location} {p : Path}

theorem locate_ok {purpose : Purpose} {location : Location} :
    tree.locate working purpose p = .ok location ↔
      tree.find working purpose p = .ok (.present location) := by
  unfold locate
  split <;> simp_all

theorem status_ok {found : Status} :
    tree.status working p = .ok found ↔
      ∃ location, tree.find working .target p = .ok (.present location) ∧
        tree.statusAt? location = some found := by
  unfold status
  constructor
  · intro h
    split at h
    · cases h
    · rename_i location hLocate
      split at h
      · rename_i other hStatus
        cases h
        exact ⟨location, locate_ok.mp hLocate, hStatus⟩
      · cases h
  · rintro ⟨location, hFind, hStatus⟩
    rw [locate_ok.mpr hFind]
    simp [hStatus]

/-- Why a path has no status. -/
theorem status_failed {errno : Errno} (h : tree.status working p = .error errno) :
    errno = .tooManyLinks ∨ errno = .notDirectory ∨ errno = .noEntry ∨ errno = .nameTooLong ∨
      errno = .permission := by
  unfold status locate at h
  cases hFind : tree.find working .target p with
  | error other =>
      rw [hFind] at h
      cases h
      simpa using find_failed hFind
  | ok destination =>
      rw [hFind] at h
      cases destination with
      | absent directory name =>
          cases h
          simp
      | present location =>
          dsimp only at h
          split at h <;> cases h
          simp

theorem isDirectoryAt_of_status {location : Location} {found : Status}
    (h : tree.statusAt? location = some found) :
    tree.isDirectoryAt location = found.isDirectory := by
  unfold statusAt? at h
  unfold isDirectoryAt directoryModeAt?
  split at h
  · rename_i hEntry
    cases h
    simp [hEntry]
  · rename_i number hEntry
    obtain ⟨data, _, rfl⟩ := Option.map_eq_some_iff.mp h
    simp [hEntry]
  · cases h

theorem entry?_isSome_of_status {location : Location} {found : Status}
    (h : tree.statusAt? location = some found) : (tree.entry? location).isSome := by
  unfold statusAt? at h
  split at h
  · rename_i hEntry
    simp [hEntry]
  · rename_i hEntry
    simp [hEntry]
  · cases h

/-- What has a status has an entry, which may be a link. -/
theorem find_entry_of_status {found : Status} (h : tree.status working p = .ok found) :
    ∃ entry, tree.find working .entry p = .ok (.present entry) ∧ (tree.entry? entry).isSome := by
  obtain ⟨there, hThere, hStatus⟩ := status_ok.mp h
  obtain ⟨entry, hEntry, hSame | hLink⟩ := find_entry_of_target hThere
  · exact ⟨entry, hEntry, hSame ▸ entry?_isSome_of_status hStatus⟩
  · obtain ⟨target, hTarget⟩ := Option.isSome_iff_exists.mp hLink
    exact ⟨entry, hEntry, by simp [entry?_of_linkAt? hTarget]⟩

theorem openForReading_ok {number : Nat} :
    tree.openForReading working p = .ok number ↔
      ∃ location data, tree.find working .target p = .ok (.present location) ∧
        tree.fileAt? location = some number ∧ tree.data? number = some data ∧
        mayRead data.mode := by
  unfold openForReading
  constructor
  · intro h
    split at h
    · cases h
    · rename_i location hLocate
      split at h
      · cases h
      · rename_i found hFile
        split at h
        · cases h
        · rename_i data hData
          split at h
          · rename_i hMay
            cases h
            exact ⟨location, data, locate_ok.mp hLocate, hFile, hData, hMay⟩
          · cases h
  · rintro ⟨location, data, hFind, hFile, hData, hMay⟩
    rw [locate_ok.mpr hFind]
    simp [hFile, hData, hMay]

/-! Free names -/

theorem Strides.of_absent {purpose : Purpose} {here directory : Location} {parts : List String}
    {name : String} (h : Strides tree purpose here parts (.arrived (.absent directory name))) :
    tree.isSearchable directory ∧ Path.IsName name ∧ Path.byteLength name ≤ nameLimit ∧
      tree.entry? (directory ++ [name]) = none := by
  generalize hOut : Stretch.arrived (.absent directory name) = out at h
  induction h with
  | done => cases hOut
  | stop => cases hOut
  | link => cases hOut
  | idle _ _ _ _ ih => exact ih hOut
  | up _ _ ih => exact ih hOut
  | enter _ _ _ _ _ _ _ ih => exact ih hOut
  | free hPart hSearch hLength hNone =>
      cases hOut
      exact ⟨hSearch, hPart, hLength, hNone⟩

theorem Walks.absent {purpose : Purpose} {budget : Nat} {here directory : Location}
    {parts : List String} {name : String}
    (h : Walks tree purpose (.absent directory name) budget here parts) :
    tree.isSearchable directory ∧ Path.IsName name ∧ Path.byteLength name ≤ nameLimit ∧
      tree.entry? (directory ++ [name]) = none := by
  induction h with
  | arrived hStrides => exact hStrides.of_absent
  | follow _ _ ih => exact ih

/-- A free name is one that a directory does not have. -/
theorem find_absent {purpose : Purpose} {directory : Location} {name : String}
    (h : tree.find working purpose p = .ok (.absent directory name)) :
    tree.isDirectoryAt directory ∧ tree.timeless? (directory ++ [name]) = none := by
  obtain ⟨hSearch, _, _, hNone⟩ := (find_ok.mp h).2.absent
  exact ⟨isDirectoryAt_of_searchable hSearch, (timeless?_eq_none tree).mpr hNone⟩

/-- A file that has been put under a free name is found there, whatever for. -/
theorem find_of_file {base : Tree} {directory : Location} {name : String}
    (hBase : base.find working .entry p = .ok (.absent directory name))
    (hParts : p.parts.getLast? ≠ some "") (hTree : base.Extends tree)
    (hFile : (tree.fileAt? (directory ++ [name])).isSome) (purpose : Purpose) :
    tree.find working purpose p = .ok (.present (directory ++ [name])) := by
  have hFound := find_grow hTree (find_of_absent hBase hParts purpose)
  have hSome : (tree.entry? (directory ++ [name])).isSome := by
    rw [← shape?_isSome, shape?_eq_file.mpr hFile]
    rfl
  rw [hFound, Destination.within, if_pos hSome]

theorem createPrivate_ok {after : Tree} :
    tree.createPrivate working p = .ok after ↔
      ∃ directory name, tree.find working .entry p = .ok (.absent directory name) ∧
        tree.isOpenToChange directory ∧
        after = (tree.addFile (directory ++ [name]) ⟨0o600, [], .recent⟩).2 := by
  unfold createPrivate
  constructor
  · intro h
    split at h
    · cases h
    · cases h
    · rename_i directory name hFind
      split at h
      · rename_i hOpen
        cases h
        exact ⟨directory, name, hFind, hOpen, rfl⟩
      · cases h
  · rintro ⟨directory, name, hFind, hOpen, rfl⟩
    simp [hFind, hOpen]

theorem createPrivate_present {location : Location}
    (h : tree.find working .entry p = .ok (.present location)) :
    tree.createPrivate working p = .error .alreadyExists := by
  rw [createPrivate, h]

/-! Files that are there -/

variable {location : Location} {number : Nat}

theorem openForWriting_file {data : FileData}
    (hFind : tree.find working .creation p = .ok (.present location))
    (hFile : tree.fileAt? location = some number) (hData : tree.data? number = some data)
    (hMay : mayWrite data.mode) :
    tree.openForWriting working p =
      .ok (number, tree.change number (·.rewritten [])) := by
  simp [openForWriting, hFind, hFile, hData, hMay]

/-- What is opened for writing is there, or its name is free. -/
theorem openForWriting_ok {after : Tree} (h : tree.openForWriting working p = .ok (number, after)) :
    (∃ directory name, tree.find working .creation p = .ok (.absent directory name)) ∨
      ∃ location, tree.find working .creation p = .ok (.present location) ∧
        tree.fileAt? location = some number ∧ (tree.data? number).isSome ∧
        after = tree.change number (·.rewritten []) := by
  unfold openForWriting at h
  split at h
  · cases h
  · rename_i directory name hFind
    exact .inl ⟨directory, name, hFind⟩
  · rename_i location hFind
    split at h
    · cases h
    · rename_i found hFile
      split at h
      · cases h
      · rename_i data hData
        split at h
        · cases h
          exact .inr ⟨location, hFind, hFile, by simp [hData], rfl⟩
        · cases h

theorem setMode_file {mode : Nat} (hFind : tree.find working .target p = .ok (.present location))
    (hFile : tree.fileAt? location = some number) :
    tree.setMode working p mode =
      .ok (tree.change number fun data => { data with mode := mode }) := by
  have hEntry := entry?_of_fileAt? hFile
  unfold setMode
  rw [locate_ok.mpr hFind]
  simp only [hEntry]

theorem remove_file (hFind : tree.find working .entry p = .ok (.present location))
    (hFile : tree.fileAt? location = some number) (hOpen : tree.isOpenToChange location.dropLast) :
    tree.remove working p = .ok (tree.take location) := by
  unfold remove
  rw [locate_ok.mpr hFind]
  simp [hOpen, not_isDirectoryAt_of_file hFile]

theorem isDirectoryAt_of_isOpenToChange {location : Location} (h : tree.isOpenToChange location) :
    tree.isDirectoryAt location := by
  obtain ⟨mode, hMode, _⟩ := (Option.any_eq_true _ _).mp h
  simp [isDirectoryAt, hMode]

/-- A file may be moved to a free name, or over what is no directory. -/
theorem rename_file {old new : Path} {source : Location} {after : Tree}
    (hFind : tree.find working .entry old = .ok (.present source))
    (hFile : tree.fileAt? source = some number) :
    tree.rename working old new = .ok after ↔
      ∃ destination, tree.find working .entry new = .ok destination ∧
        tree.isOpenToChange source.dropLast ∧
        tree.isOpenToChange destination.entry.dropLast ∧
        tree.isDirectoryAt destination.entry = false ∧
        after = rename.move tree source destination.entry (.file number) := by
  have hEntry : tree.entry? source = some (.file number) := entry?_of_fileAt? hFile
  have hSource := not_isDirectoryAt_of_file hFile
  unfold rename
  rw [locate_ok.mpr hFind]
  simp only [hEntry]
  constructor
  · intro h
    split at h
    · cases h
    · rename_i directory name hNew
      split at h
      · rename_i hOpen
        cases h
        rw [Bool.and_eq_true] at hOpen
        refine ⟨_, hNew, hOpen.1, ?_, ?_, rfl⟩
        · rw [Destination.entry, List.dropLast_concat]
          exact hOpen.2
        · rw [Bool.eq_false_iff]
          intro hDirectory
          have hSome := timeless?_isSome_of_directory hDirectory
          rw [Destination.entry, (find_absent hNew).2] at hSome
          cases hSome
      · cases h
    · rename_i target hNew
      split at h
      · cases h
      · rename_i hOpen
        split at h
        · cases h
        · rename_i hOver
          cases h
          simp only [Bool.not_eq_true, Bool.not_eq_false', Bool.and_eq_true] at hOpen
          refine ⟨_, hNew, hOpen.1, hOpen.2, ?_, rfl⟩
          simpa [hSource, Destination.entry] using hOver
  · rintro ⟨destination, hNew, hOpen, hOpen', hOver, rfl⟩
    rw [hNew]
    cases destination with
    | present target =>
        rw [Destination.entry] at hOpen' hOver ⊢
        simp [hOpen, hOpen', hOver]
    | absent directory name =>
        rw [Destination.entry, List.dropLast_concat] at hOpen'
        simp [hOpen, hOpen', Destination.entry]

end ConfigGate.Tree
