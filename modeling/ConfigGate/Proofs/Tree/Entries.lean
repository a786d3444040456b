import ConfigGate.Proofs.Keyed
import ConfigGate.Tree.Operations

/-! What the basic changes of a tree do to what stands at a location. Times are left out: `timeless?`
is an entry without the time of its last change, and `node?` is what can be seen of it. -/
namespace ConfigGate

namespace Entry

/-- The entry without the time of its last change. -/
def timeless : Entry → Entry
  | .directory mode _ => .directory mode .recent
  | .file number => .file number
  | .link target => .link target

end Entry

/-- What can be seen of an entry apart from times. Names of one file are not told apart from names of
equal files. -/
inductive Node where
  | directory (mode : Nat)
  | file (mode : Nat) (bytes : Bytes)
  | link (target : String)
deriving DecidableEq, Repr

namespace Tree

/-- What stands at a location, without the time of its last change. -/
def timeless? (tree : Tree) (location : Location) : Option Entry :=
  Option.map Entry.timeless <| tree.entry? location

/-- What can be seen at a location. -/
def node? (tree : Tree) (location : Location) : Option Node :=
  match tree.timeless? location with
  | some (.directory mode _) => some (.directory mode)
  | some (.file number) => (tree.data? number).map fun data => .file data.mode data.bytes
  | some (.link target) => some (.link target)
  | none => none

/-- A file keeps its bits when it is written to if it lends no rights to those who execute it. -/
theorem withoutPrivileges_eq_self {mode : Nat} (hOwner : mode / 0o4000 % 2 = 0)
    (hGroup : mode / 0o2000 % 2 = 0 ∨ mode / 0o10 % 2 = 0) : withoutPrivileges mode = mode := by
  unfold withoutPrivileges
  rw [if_neg (by omega), if_neg (by omega)]
  rfl

@[simp] theorem withoutPrivileges_withoutPrivileges (mode : Nat) :
    withoutPrivileges (withoutPrivileges mode) = withoutPrivileges mode := by
  apply withoutPrivileges_eq_self
  · unfold withoutPrivileges
    split <;> split <;> omega
  · unfold withoutPrivileges
    split <;> split <;> omega

@[simp] theorem mayRead_withoutPrivileges (mode : Nat) :
    mayRead (withoutPrivileges mode) = mayRead mode := by
  have hBit : withoutPrivileges mode / 0o400 % 2 = mode / 0o400 % 2 := by
    unfold withoutPrivileges
    split <;> split <;> omega
  rw [mayRead, mayRead, hBit]

@[simp] theorem mayWrite_withoutPrivileges (mode : Nat) :
    mayWrite (withoutPrivileges mode) = mayWrite mode := by
  have hBit : withoutPrivileges mode / 0o200 % 2 = mode / 0o200 % 2 := by
    unfold withoutPrivileges
    split <;> split <;> omega
  rw [mayWrite, mayWrite, hBit]

theorem mayWrite_of_withoutPrivileges {mode mode' : Nat}
    (h : withoutPrivileges mode = withoutPrivileges mode') : mayWrite mode = mayWrite mode' := by
  rw [← mayWrite_withoutPrivileges mode, h, mayWrite_withoutPrivileges]

variable (tree : Tree) {other : Tree} {location place : Location}

@[simp] theorem entry?_nil : tree.entry? [] = some (.directory newDirectoryMode .recent) := rfl

theorem entry?_of_ne (h : location ≠ []) : tree.entry? location = tree.entries.lookup location := by
  simp [h, entry?]

@[simp] theorem timeless?_nil :
    tree.timeless? [] = some (.directory newDirectoryMode .recent) := rfl

theorem timeless?_eq_none : tree.timeless? location = none ↔ tree.entry? location = none := by
  simp [timeless?]

theorem linkAt?_eq : tree.linkAt? location =
    match tree.timeless? location with
    | some (.link target) => some target
    | _ => none := by
  unfold linkAt? timeless?
  rcases tree.entry? location with _ | (_ | _ | _) <;> rfl

theorem directoryModeAt?_eq : tree.directoryModeAt? location =
    match tree.timeless? location with
    | some (.directory mode _) => some mode
    | _ => none := by
  unfold directoryModeAt? timeless?
  rcases tree.entry? location with _ | (_ | _ | _) <;> rfl

theorem fileAt?_eq : tree.fileAt? location =
    match tree.timeless? location with
    | some (.file number) => some number
    | _ => none := by
  unfold fileAt? timeless?
  rcases tree.entry? location with _ | (_ | _ | _) <;> rfl

theorem timeless?_eq_link {target : String} :
    tree.timeless? location = some (.link target) ↔ tree.linkAt? location = some target := by
  rw [linkAt?_eq]
  rcases tree.timeless? location with _ | (_ | _ | _) <;> simp

theorem timeless?_eq_file {number : Nat} :
    tree.timeless? location = some (.file number) ↔ tree.fileAt? location = some number := by
  rw [fileAt?_eq]
  rcases tree.timeless? location with _ | (_ | _ | _) <;> simp

theorem entry?_of_fileAt? {tree : Tree} {number : Nat} (h : tree.fileAt? location = some number) :
    tree.entry? location = some (.file number) := by
  unfold fileAt? at h
  split at h
  · rename_i hEntry
    cases h
    exact hEntry
  · cases h

theorem timeless?_of_directory {mode : Nat} (h : tree.directoryModeAt? location = some mode) :
    tree.timeless? location = some (.directory mode .recent) := by
  unfold directoryModeAt? at h
  unfold timeless?
  rcases hEntry : tree.entry? location with _ | (_ | _ | _) <;> simp_all [Entry.timeless]

theorem linkAt?_congr (h : tree.timeless? location = other.timeless? location) :
    tree.linkAt? location = other.linkAt? location := by
  simp only [linkAt?_eq, h]

theorem directoryModeAt?_congr (h : tree.timeless? location = other.timeless? location) :
    tree.directoryModeAt? location = other.directoryModeAt? location := by
  simp only [directoryModeAt?_eq, h]

theorem fileAt?_congr (h : tree.timeless? location = other.timeless? location) :
    tree.fileAt? location = other.fileAt? location := by
  simp only [fileAt?_eq, h]

/-! Changes of the entries -/

@[simp] theorem data?_touch (number : Nat) : (tree.touch place).data? number = tree.data? number := by
  unfold touch
  split <;> rfl

@[simp] theorem timeless?_touch : (tree.touch place).timeless? location = tree.timeless? location := by
  unfold touch
  split
  · rename_i mode modified hEntry
    by_cases hRoot : location = []
    · simp [hRoot]
    · simp only [timeless?, entry?, hRoot, if_false, Keyed.lookup_assign]
      by_cases h : location = place
      · subst h
        simp [hEntry, Entry.timeless]
      · simp [h]
  · rfl

@[simp] theorem data?_put (entry : Entry) (number : Nat) :
    (tree.put place entry).data? number = tree.data? number :=
  data?_touch _ number

theorem timeless?_put (entry : Entry) (h : place ≠ []) :
    (tree.put place entry).timeless? location =
      if location = place then some entry.timeless else tree.timeless? location := by
  unfold put
  rw [timeless?_touch]
  by_cases hRoot : location = []
  · subst hRoot
    simp [Ne.symm h]
  · simp only [timeless?, entry?, hRoot, if_false, Keyed.lookup_assign]
    split <;> rfl

@[simp] theorem data?_take (number : Nat) : (tree.take place).data? number = tree.data? number :=
  data?_touch _ number

theorem timeless?_take (h : place ≠ []) :
    (tree.take place).timeless? location =
      if location = place then none else tree.timeless? location := by
  unfold take
  rw [timeless?_touch]
  by_cases hRoot : location = []
  · subst hRoot
    simp [Ne.symm h]
  · simp only [timeless?, entry?, hRoot, if_false, Keyed.lookup_filter_ne]
    split <;> rfl

/-- Nothing stands below a location. This is so for every location that is no directory. -/
def IsLeaf (tree : Tree) (location : Location) : Prop :=
  ∀ place ∈ tree.entries.map Prod.fst, location <+: place → place = location

/-- Moving a leaf takes its entry out and puts it at the new place. -/
theorem move_of_isLeaf (entry : Entry) {source target : Location} (hLeaf : tree.IsLeaf source)
    (hNe : source ≠ target) :
    rename.move tree source target entry =
      (({ tree with entries := tree.entries.filter fun (l, _) => l != source } : Tree).put target
        entry).touch source.dropLast := by
  have hMoved : (tree.entries.filterMap fun (l, e) =>
      if l ≠ source && source.isPrefixOf l then some (target ++ l.drop source.length, e)
      else none) = [] := by
    rw [List.filterMap_eq_nil_iff]
    rintro ⟨l, e⟩ hMem
    have hPlace : l ∈ tree.entries.map Prod.fst := List.mem_map_of_mem hMem
    by_cases hBelow : source <+: l
    · simp [hLeaf l hPlace hBelow]
    · simp [List.isPrefixOf_iff_prefix, hBelow]
  have hKept : (tree.entries.filter fun (l, _) => !source.isPrefixOf l) =
      tree.entries.filter fun (l, _) => l != source := by
    apply List.filter_congr
    rintro ⟨l, e⟩ hMem
    have hPlace : l ∈ tree.entries.map Prod.fst := List.mem_map_of_mem hMem
    by_cases hBelow : source <+: l
    · simp [hLeaf l hPlace hBelow]
    · have hOther : l ≠ source := fun h => hBelow (h ▸ List.prefix_refl l)
      have hPrefix : source.isPrefixOf l = false := by
        rw [Bool.eq_false_iff, ne_eq, List.isPrefixOf_iff_prefix]
        exact hBelow
      simp [hPrefix, hOther]
  unfold rename.move
  simp only [if_neg hNe, hMoved, hKept, List.append_nil]

/-- A leaf that is moved leaves its old place and takes the new one. Nothing else changes. -/
theorem timeless?_move (entry : Entry) {source target : Location} (hLeaf : tree.IsLeaf source)
    (hNe : source ≠ target) (hSource : source ≠ []) (hTarget : target ≠ []) :
    (rename.move tree source target entry).timeless? location =
      if location = target then some entry.timeless
      else if location = source then none else tree.timeless? location := by
  rw [move_of_isLeaf tree entry hLeaf hNe, timeless?_touch, timeless?_put _ _ hTarget]
  by_cases hRoot : location = []
  · subst hRoot
    simp [Ne.symm hTarget, Ne.symm hSource]
  · simp only [timeless?, entry?, hRoot, if_false, Keyed.lookup_filter_ne]
    split
    · rfl
    · split <;> rfl

@[simp] theorem data?_move (entry : Entry) (source target : Location) (number : Nat) :
    (rename.move tree source target entry).data? number = tree.data? number := by
  unfold rename.move
  split
  · rfl
  · exact (data?_touch _ number).trans (data?_put _ _ number)

@[simp] theorem nextFile_touch : (tree.touch place).nextFile = tree.nextFile := by
  unfold touch
  split <;> rfl

@[simp] theorem nextFile_take : (tree.take place).nextFile = tree.nextFile :=
  nextFile_touch _

@[simp] theorem nextFile_move (entry : Entry) (source target : Location) :
    (rename.move tree source target entry).nextFile = tree.nextFile := by
  unfold rename.move
  split
  · rfl
  · exact (nextFile_touch _).trans (nextFile_touch _)

/-! Changes of the contents -/

@[simp] theorem entries_change (number : Nat) (f : FileData → FileData) :
    (tree.change number f).entries = tree.entries := rfl

@[simp] theorem timeless?_change (number : Nat) (f : FileData → FileData) :
    (tree.change number f).timeless? location = tree.timeless? location := rfl

@[simp] theorem nextFile_change (number : Nat) (f : FileData → FileData) :
    (tree.change number f).nextFile = tree.nextFile := rfl

theorem lookup_change (number n : Nat) (f : FileData → FileData) (files : List (Nat × FileData)) :
    (files.map fun (n, data) => if n = number then (n, f data) else (n, data)).lookup n =
      if n = number then (files.lookup n).map f else files.lookup n := by
  induction files with
  | nil => simp
  | cons file rest ih =>
      obtain ⟨m, data⟩ := file
      by_cases hm : m = number
      · subst hm
        by_cases hn : n = m
        · simp [hn]
        · simp [List.lookup_cons, ih, hn, beq_eq_false_iff_ne.mpr hn]
      · by_cases hn : n = m
        · subst hn
          simp [hm]
        · simp [List.lookup_cons, ih, hm, beq_eq_false_iff_ne.mpr hn]

theorem data?_change (number n : Nat) (f : FileData → FileData) :
    (tree.change number f).data? n =
      if n = number then (tree.data? n).map f else tree.data? n :=
  lookup_change number n f tree.files

@[simp] theorem change_id (number : Nat) : tree.change number id = tree := by
  have hSame : (fun (file : Nat × FileData) =>
      if file.1 = number then (file.1, id file.2) else (file.1, file.2)) = id := by
    funext file
    split <;> rfl
  unfold change
  rw [hSame, List.map_id]

/-! New files -/

theorem data?_addFile (data : FileData) (n : Nat) :
    (tree.addFile place data).2.data? n =
      if n = tree.nextFile then some data else tree.data? n := by
  unfold addFile
  rw [data?_put]
  by_cases hn : n = tree.nextFile
  · simp [data?, hn]
  · simp [data?, List.lookup_cons, beq_eq_false_iff_ne.mpr hn, hn]

theorem timeless?_addFile (data : FileData) (h : place ≠ []) :
    (tree.addFile place data).2.timeless? location =
      if location = place then some (.file tree.nextFile) else tree.timeless? location := by
  unfold addFile
  rw [timeless?_put _ _ h]
  rfl

@[simp] theorem nextFile_addFile (data : FileData) :
    (tree.addFile place data).2.nextFile = tree.nextFile + 1 :=
  nextFile_touch _

end Tree

end ConfigGate
