import ConfigGate.Proofs.Tree.Change
import ConfigGate.Proofs.Tree.Linkless

/-! What stays of a tree while files are written under the atomic strategy: the kinds and permission
bits of its entries. Private files come and go beside them. A path is found in such a tree as before,
unless it leads to the very place of a private file. -/
namespace ConfigGate

/-- An entry without the contents of its file. -/
def Node.outline : Node → Node
  | .file mode _ => .file mode []
  | node => node

namespace Tree

variable {tree other : Tree} {working location : Location} {p : Path} {purpose : Purpose}

/-- What can be seen at a location apart from contents. -/
def outline? (tree : Tree) (location : Location) : Option Node :=
  (tree.node? location).map Node.outline

/-- A file has the permission bits of its outline. -/
theorem fileAt?_of_outline {mode : Nat} (h : tree.outline? location = some (.file mode [])) :
    ∃ number data, tree.fileAt? location = some number ∧ tree.data? number = some data ∧
      data.mode = mode := by
  obtain ⟨node, hNode, hOutline⟩ := Option.map_eq_some_iff.mp h
  unfold node? at hNode
  split at hNode
  · cases hNode
    cases hOutline
  · rename_i number hEntry
    obtain ⟨data, hData, rfl⟩ := Option.map_eq_some_iff.mp hNode
    cases hOutline
    exact ⟨number, data, (timeless?_eq_file tree).mp hEntry, hData, rfl⟩
  · cases hNode
    cases hOutline
  · cases hNode

theorem directoryModeAt?_of_outline {mode : Nat}
    (h : tree.outline? location = some (.directory mode)) :
    tree.directoryModeAt? location = some mode := by
  obtain ⟨node, hNode, hOutline⟩ := Option.map_eq_some_iff.mp h
  unfold node? at hNode
  split at hNode
  · rename_i found _ hEntry
    cases hNode
    cases hOutline
    rw [directoryModeAt?_eq, hEntry]
  · obtain ⟨data, _, rfl⟩ := Option.map_eq_some_iff.mp hNode
    cases hOutline
  · cases hNode
    cases hOutline
  · cases hNode

/-- The status without size and time. -/
def Status.outline (status : Status) : Status :=
  { status with size := 0, modified := .recent }

theorem outline?_of_free (h : tree.timeless? location = none) : tree.outline? location = none := by
  rw [outline?, node?, h]
  rfl

theorem outline_statusAt? (tree : Tree) (location : Location) :
    (tree.statusAt? location).map Status.outline = (tree.outline? location).bind status? := by
  have hTimeless := timeless_statusAt? tree location
  unfold outline?
  rcases hNode : tree.node? location with _ | (_ | _ | _)
  all_goals
    rw [hNode] at hTimeless
    cases hStatus : tree.statusAt? location with
    | none => simp_all [status?, Node.outline]
    | some status =>
        simp_all [status?, Node.outline, Status.outline, Status.timeless]

/-- The kind of an entry can be seen. -/
theorem shape?_of_outline (wf : tree.WellFormed) (location : Location) :
    tree.shape? location =
      (tree.outline? location).map fun node =>
        match node with
        | .directory mode => .directory mode
        | .file _ _ => .file
        | .link target => .link target := by
  rw [shape?_eq_timeless]
  unfold outline? node?
  rcases hEntry : tree.timeless? location with _ | (_ | number | _)
  · rfl
  · rfl
  · obtain ⟨data, hData⟩ := Option.isSome_iff_exists.mp
      (wf.stored_of_file ((timeless?_eq_file tree).mp hEntry)).2
    simp [Entry.shape, hData, Node.outline]
  · rfl

/-- The other tree has the entries of the first with the same permission bits. At spare places where
the first has nothing it may have files. -/
def Resembles (spare : Location → Prop) (tree other : Tree) : Prop :=
  ∀ location, other.outline? location = tree.outline? location ∨
    spare location ∧ tree.outline? location = none ∧
      ∃ mode, other.outline? location = some (.file mode [])

theorem Resembles.extends {spare : Location → Prop} (h : Resembles spare tree other)
    (wf : tree.WellFormed) (wf' : other.WellFormed) : tree.Extends other := by
  intro location
  rw [shape?_of_outline wf, shape?_of_outline wf']
  rcases h location with hSame | ⟨_, hNone, mode, hFile⟩
  · exact .inl (by rw [hSame])
  · exact .inr (by simp [hNone, hFile])

/-- The other tree shows what the first one shows. At spare places where the first has nothing it may
have files. -/
def Mirrors (spare : Location → Prop) (tree other : Tree) : Prop :=
  ∀ location, other.node? location = tree.node? location ∨
    spare location ∧ tree.node? location = none ∧
      ∃ mode bytes, other.node? location = some (.file mode bytes)

theorem Mirrors.resembles {spare : Location → Prop} (h : Mirrors spare tree other) :
    Resembles spare tree other := by
  intro location
  unfold outline?
  rcases h location with hSame | ⟨hSpare, hNone, mode, bytes, hFile⟩
  · exact .inl (by rw [hSame])
  · exact .inr ⟨hSpare, by rw [hNone]; rfl, mode, by rw [hFile]; rfl⟩

/-! Failures -/

/-- A failure that stays in a larger tree. A directory that was missing on the way may turn out to be
a file. -/
def Persists (before after : Errno) : Prop :=
  after = before ∨ before = .noEntry ∧ after = .notDirectory

theorem Persists.refl (errno : Errno) : Persists errno errno := .inl rfl

theorem Stumbles.of_extends (hTree : tree.Extends other) {here : Location} {parts : List String}
    {errno : Errno} (h : Stumbles tree purpose here parts errno) :
    ∃ errno', Stumbles other purpose here parts errno' ∧ Persists errno errno' := by
  induction h with
  | notDirectory hHere => exact ⟨_, .notDirectory (by rwa [hTree.isDirectoryAt]), .refl _⟩
  | permission hDirectory hSearch hPart =>
      exact ⟨_, .permission (by rwa [hTree.isDirectoryAt]) (by rwa [hTree.isSearchable]) hPart, .refl _⟩
  | nameTooLong hPart hSearch hLength =>
      exact ⟨_, .nameTooLong hPart (by rwa [hTree.isSearchable]) hLength, .refl _⟩
  | slash hPart hSearch hLength hCreation =>
      exact ⟨_, .slash hPart (by rwa [hTree.isSearchable]) hLength hCreation, .refl _⟩
  | @missing here part rest hPart hSearch hLength hFile hNone hRest =>
      have hSearch' : other.isSearchable here := by rwa [hTree.isSearchable]
      cases hOther : other.entry? (here ++ [part]) with
      | none => exact ⟨_, .missing hPart hSearch' hLength hFile hOther hRest, .refl _⟩
      | some entry =>
          -- What has come is no directory, and no link either.
          have hLink : other.linkAt? (here ++ [part]) = none := by
            rw [hTree.linkAt?, linkAt?, hNone]
          have hStop : other.isDirectoryAt (here ++ [part]) = false := by
            rw [hTree.isDirectoryAt, isDirectoryAt, directoryModeAt?, hNone]
            rfl
          obtain ⟨next, rest, rfl⟩ := List.exists_cons_of_ne_nil hRest
          exact ⟨.notDirectory, .enter hPart hSearch' hLength hFile (by simp [hOther]) hLink
            (.notDirectory hStop), .inr ⟨rfl, rfl⟩⟩
  | idle hDirectory hPart hSearch _ ih =>
      obtain ⟨errno', hRest, hPersists⟩ := ih
      exact ⟨errno', .idle (by rwa [hTree.isDirectoryAt]) hPart
        (fun hDot => by rw [hTree.isSearchable]; exact hSearch hDot) hRest, hPersists⟩
  | up hSearch _ ih =>
      obtain ⟨errno', hRest, hPersists⟩ := ih
      exact ⟨errno', .up (by rwa [hTree.isSearchable]) hRest, hPersists⟩
  | enter hPart hSearch hLength hFile hSome hLink _ ih =>
      obtain ⟨errno', hRest, hPersists⟩ := ih
      exact ⟨errno', .enter hPart (by rwa [hTree.isSearchable]) hLength hFile
        (hTree.entry?_isSome hSome) (hTree.linkAt?.trans hLink) hRest, hPersists⟩

/-- A path that leads nowhere leads nowhere in a larger tree, unless a file has come where it ends. -/
theorem find_error_of_extends (hTree : tree.Extends other) (hLinks : tree.IsLinkless)
    {errno : Errno} (h : tree.find working purpose p = .error errno) :
    ∃ errno', other.find working purpose p = .error errno' ∧ Persists errno errno' := by
  by_cases hShort : pathLimit ≤ Path.byteLength p.text
  · rw [find, if_pos hShort] at h ⊢
    exact ⟨errno, h, .inl rfl⟩
  · rw [find_of_short hLinks hShort] at h
    rw [find_of_short (hTree.isLinkless hLinks) hShort]
    cases hStretch : stretch tree purpose (p.start working) p.parts with
    | arrived destination =>
        rw [hStretch] at h
        cases h
    | failed found =>
        rw [hStretch] at h
        cases h
        obtain ⟨errno', hOther, hPersists⟩ := (stretch_failed_iff.mp hStretch).of_extends hTree
        exact ⟨errno', by rw [stretch_failed_iff.mpr hOther]; rfl, hPersists⟩
    | link directory target rest => exact absurd hStretch (stretch_not_link hLinks)

/-- A name that is free in a larger tree was free before. -/
theorem find_absent_of_extends (hTree : tree.Extends other) (hLinks : tree.IsLinkless)
    {directory : Location} {name : String}
    (h : other.find working purpose p = .ok (.absent directory name)) :
    tree.find working purpose p = .ok (.absent directory name) := by
  cases hFind : tree.find working purpose p with
  | error errno =>
      obtain ⟨errno', hOther, _⟩ := find_error_of_extends hTree hLinks hFind
      cases h.symm.trans hOther
  | ok destination =>
      have hSame := h.symm.trans (find_grow hTree hFind)
      cases destination with
      | present there => cases hSame
      | absent directory' name' =>
          rw [Destination.within] at hSame
          split at hSame
          · cases hSame
          · cases hSame
            rfl

/-! Status -/

/-- What a check of a path looks at: whether it is a directory, and whether its owner may read it. -/
def Status.sight (status : Status) : Bool × Bool :=
  (status.isDirectory, mayRead status.mode)

/-- Both are refusals of which one persists in the other, or both are successes that agree. -/
def Agree {α β : Type} (f : α → β) (before after : Except Errno α) : Prop :=
  match before, after with
  | .ok a, .ok b => f b = f a
  | .error e, .error e' => Persists e e'
  | _, _ => False

theorem Agree.toOption {α β : Type} {f : α → β} {before after : Except Errno α}
    (h : Agree f before after) : after.toOption.map f = before.toOption.map f := by
  cases before with
  | error errno =>
      cases after with
      | error errno' => rfl
      | ok b => cases h
  | ok a =>
      cases after with
      | error errno' => cases h
      | ok b =>
          have hSame : f b = f a := h
          simp [Except.toOption, hSame]

theorem Agree.sight {before after : Except Errno Status} (h : Agree Status.outline before after) :
    Agree Status.sight before after := by
  cases before with
  | error errno => cases after <;> exact h
  | ok status =>
      cases after with
      | error errno => exact h
      | ok found =>
          have hOutline : found.outline = status.outline := h
          have hSight : found.outline.sight = status.outline.sight := congrArg Status.sight hOutline
          exact hSight

/-- What stands at two places agrees, and so does what is told of it. -/
theorem Agree.of_map {β : Type} {f : Status → β} {before after : Option Status} :
    after.map f = before.map f →
      Agree f
        (match before with
          | some status => .ok status
          | none => .error .noEntry)
        (match after with
          | some status => .ok status
          | none => .error .noEntry) := by
  intro h
  cases before with
  | none =>
      rw [Option.map_none, Option.map_eq_none_iff] at h
      rw [h]
      exact .inl rfl
  | some status =>
      rw [Option.map_some, Option.map_eq_some_iff] at h
      obtain ⟨found, rfl, hSame⟩ := h
      exact hSame

theorem Destination.entry_within (destination : Destination) :
    (destination.within other).entry = destination.entry := by
  unfold within
  split
  · rfl
  · split <;> rfl

/-- The status of a path is that of what stands where it ends. -/
theorem status_of_find {destination : Destination}
    (h : tree.find working .target p = .ok destination) :
    tree.status working p =
      match tree.statusAt? destination.entry with
      | some status => .ok status
      | none => .error .noEntry := by
  unfold status locate
  rw [h]
  cases destination with
  | present there => rfl
  | absent directory name =>
      have hNone : tree.statusAt? (directory ++ [name]) = none := by
        rw [statusAt?, (timeless?_eq_none tree).mp (find_absent h).2]
      rw [Destination.entry, hNone]

/-- A path that led nowhere has no status in a tree that has grown. -/
theorem status_agree_of_find_error {errno : Errno} (hTree : tree.Extends other)
    (hLinks : tree.IsLinkless) (hFind : tree.find working .target p = .error errno) {β : Type}
    (f : Status → β) : Agree f (tree.status working p) (other.status working p) := by
  obtain ⟨errno', hAfter, hPersists⟩ := find_error_of_extends hTree hLinks hFind
  simpa [Agree, status, locate, hFind, hAfter] using hPersists

/-- A path has the status that it had if what stands at its place has. -/
theorem status_agree (hTree : tree.Extends other) (hLinks : tree.IsLinkless) {β : Type}
    (f : Status → β)
    (hPlace : (other.statusAt? (p.place working)).map f = (tree.statusAt? (p.place working)).map f) :
    Agree f (tree.status working p) (other.status working p) := by
  cases hBefore : tree.find working .target p with
  | error errno => exact status_agree_of_find_error hTree hLinks hBefore f
  | ok destination =>
      have hEntry : destination.entry = p.place working := find_place hLinks hBefore
      rw [status_of_find hBefore, status_of_find (find_grow hTree hBefore),
        Destination.entry_within, hEntry]
      exact .of_map hPlace

theorem outline?_eq_none (wf : tree.WellFormed) :
    tree.outline? location = none ↔ tree.entry? location = none := by
  rw [← shape?_eq_none, shape?_of_outline wf, Option.map_eq_none_iff]

theorem node?_eq_none (wf : tree.WellFormed) :
    tree.node? location = none ↔ tree.timeless? location = none := by
  rw [timeless?_eq_none, ← outline?_eq_none wf, outline?, Option.map_eq_none_iff]

/-- The outline of an entry is its kind with its permission bits. -/
theorem outline?_of_status {status : Status} (h : tree.statusAt? location = some status) :
    tree.outline? location = some
      (if status.isDirectory then .directory status.mode else .file status.mode []) := by
  unfold statusAt? at h
  unfold outline? node? timeless?
  split at h
  · rename_i hEntry
    cases h
    simp [hEntry, Entry.timeless, Node.outline]
  · rename_i number hEntry
    obtain ⟨data, hData, rfl⟩ := Option.map_eq_some_iff.mp h
    simp [hEntry, hData, Entry.timeless, Node.outline]
  · cases h

/-- A path that does not end at a free spare name has the outline that it had. -/
theorem status_agree_of_resembles {spare : Location → Prop} (h : Resembles spare tree other)
    (wf : tree.WellFormed) (wf' : other.WellFormed) (hLinks : tree.IsLinkless)
    (hStart : (tree.entry? (p.start working)).isSome)
    (hFree : ∀ directory name, tree.find working .target p = .ok (.absent directory name) →
      ¬ spare (directory ++ [name])) :
    Agree Status.outline (tree.status working p) (other.status working p) := by
  have hExtends := h.extends wf wf'
  rcases h (p.place working) with hSame | ⟨hSpare, hNone, _⟩
  · apply status_agree hExtends hLinks
    rw [outline_statusAt?, outline_statusAt?, hSame]
  · cases hFind : tree.find working .target p with
    | error errno => exact status_agree_of_find_error hExtends hLinks hFind Status.outline
    | ok destination =>
        have hEntry : destination.entry = p.place working := find_place hLinks hFind
        cases destination with
        | present there =>
            have hThere := (strides_of_find hLinks hFind).entry?_isSome wf hLinks hStart
            rw [show there = p.place working from hEntry,
              (outline?_eq_none wf).mp hNone] at hThere
            cases hThere
        | absent directory name =>
            rw [← hEntry] at hSpare
            exact absurd hSpare (hFree directory name hFind)

end Tree

end ConfigGate
