import ConfigGate.Proofs.Tree.Entries

/-! The invariant of file trees. The tree of the root directory has it, and it is kept when a file is
made, changed, moved or taken away, so every tree that a service meets has it. -/
namespace ConfigGate

/-- The number of a file. -/
def Entry.number? : Entry → Option Nat
  | .file number => some number
  | _ => none

namespace Tree

/-- No location is used twice, every entry stands in a directory, and the contents of every file are
stored under a number that has been given out. -/
structure WellFormed (tree : Tree) : Prop where
  nodup : (tree.entries.map Prod.fst).Nodup
  rooted : [] ∉ tree.entries.map Prod.fst
  parents : ∀ location ∈ tree.entries.map Prod.fst, tree.isDirectoryAt location.dropLast
  stored : ∀ entry ∈ tree.entries, ∀ number ∈ entry.2.number?,
    number < tree.nextFile ∧ (tree.data? number).isSome

instance (tree : Tree) : Decidable tree.WellFormed :=
  decidable_of_iff
    ((tree.entries.map Prod.fst).Nodup ∧ [] ∉ tree.entries.map Prod.fst ∧
      (∀ location ∈ tree.entries.map Prod.fst, tree.isDirectoryAt location.dropLast) ∧
      ∀ entry ∈ tree.entries, ∀ number ∈ entry.2.number?,
        number < tree.nextFile ∧ (tree.data? number).isSome)
    ⟨fun ⟨h₁, h₂, h₃, h₄⟩ => ⟨h₁, h₂, h₃, h₄⟩, fun ⟨h₁, h₂, h₃, h₄⟩ => ⟨h₁, h₂, h₃, h₄⟩⟩

theorem wellFormed_empty : empty.WellFormed := by decide

variable {tree : Tree} {location place : Location}

theorem isDirectoryAt_congr (other : Tree)
    (h : tree.timeless? location = other.timeless? location) :
    tree.isDirectoryAt location = other.isDirectoryAt location := by
  rw [isDirectoryAt, isDirectoryAt, directoryModeAt?_congr tree h]

theorem timeless?_isSome_of_directory (h : tree.isDirectoryAt location) :
    (tree.timeless? location).isSome := by
  obtain ⟨mode, hMode⟩ := Option.isSome_iff_exists.mp h
  simp [timeless?_of_directory tree hMode]

theorem fileAt?_eq_none_of_directory (h : tree.isDirectoryAt location) :
    tree.fileAt? location = none := by
  obtain ⟨mode, hMode⟩ := Option.isSome_iff_exists.mp h
  rw [fileAt?_eq, timeless?_of_directory tree hMode]

theorem not_isDirectoryAt_of_file {number : Nat} (h : tree.fileAt? location = some number) :
    tree.isDirectoryAt location = false := by
  rw [Bool.eq_false_iff]
  intro hDirectory
  rw [fileAt?_eq_none_of_directory hDirectory] at h
  cases h

theorem ne_nil_of_file {number : Nat} (h : tree.fileAt? location = some number) :
    location ≠ [] := by
  rintro rfl
  cases h

theorem mem_entries_of_file {number : Nat} (h : tree.fileAt? location = some number) :
    (location, Entry.file number) ∈ tree.entries := by
  have hEntry := entry?_of_fileAt? h
  rw [entry?_of_ne tree (ne_nil_of_file h)] at hEntry
  obtain ⟨before, after, hEntries, _⟩ := List.lookup_eq_some_iff.mp hEntry
  simp [hEntries]

theorem mem_locations_iff (hRoot : location ≠ []) :
    location ∈ tree.entries.map Prod.fst ↔ (tree.timeless? location).isSome := by
  rw [Keyed.mem_keys_iff_lookup_isSome, timeless?, entry?_of_ne tree hRoot, Option.isSome_map]

namespace WellFormed

/-- A location leads through directories only. -/
theorem isDirectoryAt_of_prefix (wf : tree.WellFormed) (hSome : (tree.timeless? location).isSome)
    (hPrefix : place <+: location) (hNe : place ≠ location) : tree.isDirectoryAt place := by
  induction hLength : location.length generalizing location with
  | zero =>
      rw [List.length_eq_zero_iff] at hLength
      subst hLength
      exact absurd (List.prefix_nil.mp hPrefix) hNe
  | succ n ih =>
      have hRoot : location ≠ [] := by
        rintro rfl
        cases hLength
      have hParent := wf.parents location ((mem_locations_iff hRoot).mpr hSome)
      by_cases h : place = location.dropLast
      · rw [h]
        exact hParent
      · have hShorter : place <+: location.dropLast := by
          rw [← List.dropLast_concat_getLast hRoot, List.prefix_concat_iff] at hPrefix
          rcases hPrefix with hEq | hPrefix
          · rw [List.dropLast_concat_getLast hRoot] at hEq
            exact absurd hEq hNe
          · exact hPrefix
        exact ih (timeless?_isSome_of_directory hParent) hShorter h (by simp [hLength])

/-- Nothing stands below a location that is no directory. -/
theorem isLeaf (wf : tree.WellFormed) (h : tree.isDirectoryAt location = false) :
    tree.IsLeaf location := by
  intro below hMem hPrefix
  apply Decidable.byContradiction
  intro hNe
  have hRoot : below ≠ [] := fun hNil => wf.rooted (hNil ▸ hMem)
  have hDirectory := wf.isDirectoryAt_of_prefix ((mem_locations_iff hRoot).mp hMem) hPrefix
    (Ne.symm hNe)
  rw [h] at hDirectory
  cases hDirectory

theorem stored_of_file (wf : tree.WellFormed) {number : Nat}
    (h : tree.fileAt? location = some number) :
    number < tree.nextFile ∧ (tree.data? number).isSome :=
  wf.stored _ (mem_entries_of_file h) number rfl

theorem lt_nextFile (wf : tree.WellFormed) {number : Nat}
    (h : tree.fileAt? location = some number) : number < tree.nextFile :=
  (wf.stored_of_file h).1

/-- The invariant can be read off what stands at each location. -/
theorem of_timeless (nodup : (tree.entries.map Prod.fst).Nodup)
    (rooted : [] ∉ tree.entries.map Prod.fst)
    (parents : ∀ location, location ≠ [] → (tree.timeless? location).isSome →
      tree.isDirectoryAt location.dropLast)
    (stored : ∀ location number, tree.fileAt? location = some number →
      number < tree.nextFile ∧ (tree.data? number).isSome) : tree.WellFormed where
  nodup := nodup
  rooted := rooted
  parents location hMem := by
    have hRoot : location ≠ [] := fun hNil => rooted (hNil ▸ hMem)
    exact parents location hRoot ((mem_locations_iff hRoot).mp hMem)
  stored entry hMem number hNumber := by
    obtain ⟨location, entry⟩ := entry
    cases entry with
    | file number' =>
        cases hNumber
        have hRoot : location ≠ [] := by
          rintro rfl
          exact rooted (List.mem_map_of_mem hMem)
        apply stored location number
        rw [fileAt?, entry?_of_ne tree hRoot, Keyed.lookup_of_mem nodup hMem]
    | directory mode modified => cases hNumber
    | link target => cases hNumber

end WellFormed

/-! Preservation -/

theorem nodup_touch (h : (tree.entries.map Prod.fst).Nodup) :
    ((tree.touch place).entries.map Prod.fst).Nodup := by
  unfold touch
  split
  · exact Keyed.nodup_keys_assign h
  · exact h

theorem mem_locations_touch :
    location ∈ (tree.touch place).entries.map Prod.fst ↔
      location ∈ tree.entries.map Prod.fst := by
  rw [Keyed.mem_keys_iff_lookup_isSome, Keyed.mem_keys_iff_lookup_isSome]
  unfold touch
  split
  · rename_i mode modified hLookup
    rw [Keyed.lookup_assign]
    split
    · rename_i h
      simp [h, hLookup]
    · rfl
  · rfl

theorem nodup_put {entry : Entry} (h : (tree.entries.map Prod.fst).Nodup) :
    ((tree.put place entry).entries.map Prod.fst).Nodup :=
  nodup_touch (Keyed.nodup_keys_assign h)

theorem mem_locations_put {entry : Entry} :
    location ∈ (tree.put place entry).entries.map Prod.fst ↔
      location = place ∨ location ∈ tree.entries.map Prod.fst := by
  unfold put
  rw [mem_locations_touch, Keyed.mem_keys_assign]

namespace WellFormed

/-- Changing the contents of a file keeps the invariant. -/
theorem change (wf : tree.WellFormed) (number : Nat) (f : FileData → FileData) :
    (tree.change number f).WellFormed where
  nodup := wf.nodup
  rooted := wf.rooted
  parents := wf.parents
  stored entry hMem n hNumber := by
    obtain ⟨hLt, hSome⟩ := wf.stored entry hMem n hNumber
    refine ⟨hLt, ?_⟩
    rw [data?_change]
    split
    · simpa using hSome
    · exact hSome

theorem append (wf : tree.WellFormed) (number : Nat) (bytes : Bytes) :
    (tree.append number bytes).WellFormed :=
  wf.change number _

/-- What a change that leaves the directories alone may make of a location. -/
inductive Rearranges (tree other : Tree) (location : Location) : Prop where
  | kept (hKept : other.timeless? location = tree.timeless? location)
  | cleared (hOver : tree.isDirectoryAt location = false)
      (hCleared : other.timeless? location = none)
  | filled (number : Nat) (hOver : tree.isDirectoryAt location = false)
      (hParent : tree.isDirectoryAt location.dropLast)
      (hFile : other.timeless? location = some (.file number))
      (hStored : number < other.nextFile ∧ (other.data? number).isSome)

theorem Rearranges.isDirectoryAt {other : Tree} (h : Rearranges tree other location)
    (hDirectory : tree.isDirectoryAt location) : other.isDirectoryAt location := by
  cases h with
  | kept hKept =>
      rw [isDirectoryAt_congr tree hKept]
      exact hDirectory
  | cleared hOver _ => simp [hDirectory] at hOver
  | filled _ hOver _ _ _ => simp [hDirectory] at hOver

/-- The invariant is kept when what stands at the locations is rearranged around the directories and
no stored contents are lost. -/
theorem rearrange (wf : tree.WellFormed) {other : Tree}
    (nodup : (other.entries.map Prod.fst).Nodup) (rooted : [] ∉ other.entries.map Prod.fst)
    (hStored : ∀ number, number < tree.nextFile → (tree.data? number).isSome →
      number < other.nextFile ∧ (other.data? number).isSome)
    (hEach : ∀ location, Rearranges tree other location) : other.WellFormed := by
  refine .of_timeless nodup rooted ?parents ?stored
  case parents =>
    intro location hLocation hSome
    apply (hEach location.dropLast).isDirectoryAt
    cases hEach location with
    | kept hKept =>
        rw [hKept] at hSome
        exact wf.parents location ((mem_locations_iff hLocation).mpr hSome)
    | cleared _ hCleared => simp [hCleared] at hSome
    | filled _ _ hParent _ _ => exact hParent
  case stored =>
    intro location number hFile
    rw [fileAt?_eq] at hFile
    cases hEach location with
    | kept hKept =>
        rw [hKept, ← fileAt?_eq] at hFile
        exact hStored number (wf.stored_of_file hFile).1 (wf.stored_of_file hFile).2
    | cleared _ hCleared => simp [hCleared] at hFile
    | filled number' _ _ hNew hStored' =>
        rw [hNew] at hFile
        cases hFile
        exact hStored'

/-- A new file may be made in a directory, under a name that is free. -/
theorem addFile (wf : tree.WellFormed) (data : FileData) (hRoot : place ≠ [])
    (hParent : tree.isDirectoryAt place.dropLast) (hFree : tree.timeless? place = none) :
    (tree.addFile place data).2.WellFormed := by
  refine wf.rearrange (nodup_put wf.nodup) ?rooted ?stored ?each
  case rooted =>
    rintro h
    rcases mem_locations_put.mp h with h | h
    · exact hRoot h.symm
    · exact wf.rooted h
  case stored =>
    intro number hLt hSome
    rw [nextFile_addFile, data?_addFile, if_neg (Nat.ne_of_lt hLt)]
    exact ⟨Nat.lt_succ_of_lt hLt, hSome⟩
  case each =>
    intro location
    by_cases h : location = place
    · subst h
      have hOver : tree.isDirectoryAt location = false := by
        rw [Bool.eq_false_iff]
        intro hDirectory
        simpa [hFree] using timeless?_isSome_of_directory hDirectory
      refine .filled tree.nextFile hOver hParent ?_ ?_
      · rw [timeless?_addFile _ _ hRoot, if_pos rfl]
      · rw [nextFile_addFile, data?_addFile]
        simp
    · exact .kept (by rw [timeless?_addFile _ _ hRoot, if_neg h])

/-- What is no directory may be taken away. -/
theorem take (wf : tree.WellFormed) (hRoot : place ≠ [])
    (hOver : tree.isDirectoryAt place = false) : (tree.take place).WellFormed := by
  have hFewer := List.Sublist.map Prod.fst
    (List.filter_sublist (p := fun entry : Location × Entry => entry.1 != place)
      (l := tree.entries))
  refine wf.rearrange (nodup_touch (wf.nodup.sublist hFewer)) ?rooted ?stored ?each
  case rooted =>
    intro h
    unfold Tree.take at h
    rw [mem_locations_touch] at h
    exact wf.rooted (hFewer.subset h)
  case stored =>
    intro number hLt hSome
    rw [nextFile_take, data?_take]
    exact ⟨hLt, hSome⟩
  case each =>
    intro location
    by_cases h : location = place
    · subst h
      exact .cleared hOver (by rw [timeless?_take _ hRoot, if_pos rfl])
    · exact .kept (by rw [timeless?_take _ hRoot, if_neg h])

/-- A file may be moved within the directories, onto a free name or in the place of what is no
directory. -/
theorem move (wf : tree.WellFormed) {source target : Location} {number : Nat}
    (hSource : tree.fileAt? source = some number) (hNe : source ≠ target) (hTarget : target ≠ [])
    (hParent : tree.isDirectoryAt target.dropLast) (hOver : tree.isDirectoryAt target = false) :
    (rename.move tree source target (.file number)).WellFormed := by
  have hRoot := ne_nil_of_file hSource
  have hLeaf := wf.isLeaf (not_isDirectoryAt_of_file hSource)
  have hTimeless (location : Location) :
      (rename.move tree source target (.file number)).timeless? location =
        if location = target then some (.file number)
        else if location = source then none else tree.timeless? location :=
    timeless?_move tree (.file number) hLeaf hNe hRoot hTarget
  refine wf.rearrange ?nodup ?rooted ?stored ?each
  case nodup =>
    rw [move_of_isLeaf tree _ hLeaf hNe]
    apply nodup_touch
    apply nodup_put
    exact wf.nodup.sublist (List.Sublist.map _ List.filter_sublist)
  case rooted =>
    rw [move_of_isLeaf tree _ hLeaf hNe, mem_locations_touch, mem_locations_put]
    rintro (h | h)
    · exact hTarget h.symm
    · exact wf.rooted ((List.Sublist.map _ List.filter_sublist).subset h)
  case stored =>
    intro n hLt hSome
    rw [nextFile_move, data?_move]
    exact ⟨hLt, hSome⟩
  case each =>
    intro location
    by_cases h : location = target
    · subst h
      refine .filled number hOver hParent (by rw [hTimeless, if_pos rfl]) ?_
      rw [nextFile_move, data?_move]
      exact wf.stored_of_file hSource
    · by_cases hOld : location = source
      · subst hOld
        exact .cleared (not_isDirectoryAt_of_file hSource)
          (by rw [hTimeless, if_neg h, if_pos rfl])
      · exact .kept (by rw [hTimeless, if_neg h, if_neg hOld])

end WellFormed

end Tree

end ConfigGate
