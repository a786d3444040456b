import ConfigGate.Proofs.Access.Act
import ConfigGate.Proofs.Access.Temporary
import ConfigGate.Proofs.Time
import ConfigGate.Proofs.Tree.Outline

/-! What a listing tells. It depends on what can be seen in the directory and on nothing else, and the
private files of writes under way cannot be seen in it. -/
namespace ConfigGate

open Act

theorem Path.name_child (p : Path) (part : String) : (p.child part).name = part := by
  simp [Path.name, Path.child]

namespace Stamp

/-- The time is a date, as all times are since the service has been running. -/
def IsDate : Stamp → Prop
  | .at nanoseconds => Time.IsDate (Time.microseconds nanoseconds)
  | .recent => True

instance decidableIsDate : (stamp : Stamp) → Decidable stamp.IsDate
  | .at nanoseconds => inferInstanceAs (Decidable (Time.IsDate (Time.microseconds nanoseconds)))
  | .recent => .isTrue trivial

theorem fault?_eq_none_iff (stamp : Stamp) : stamp.fault? = none ↔ stamp.IsDate := by
  cases stamp with
  | «at» nanoseconds => exact Time.fault?_eq_none_iff _
  | recent => exact iff_of_true rfl trivial

end Stamp

/-! The names in a directory -/

namespace Tree

variable {tree other : Tree}

/-- The name of a location in a directory. -/
private theorem name_in_iff {directory location : Location} {name : String} :
    (match location.getLast? with
      | some last => if location.dropLast = directory then some last else none
      | none => none) = some name ↔ location = directory ++ [name] := by
  rcases List.eq_nil_or_concat location with rfl | ⟨init, last, rfl⟩
  · simp
  · rw [List.concat_eq_append, List.getLast?_concat, List.dropLast_concat]
    dsimp only
    constructor
    · intro h
      by_cases hInit : init = directory
      · rw [hInit, if_pos rfl] at h
        cases h
        rw [hInit]
      · rw [if_neg hInit] at h
        cases h
    · intro h
      obtain ⟨hInit, hLast⟩ := List.append_inj' h rfl
      cases hLast
      rw [if_pos hInit]

theorem mem_names {directory : Location} {name : String} :
    name ∈ tree.names directory ↔ (tree.timeless? (directory ++ [name])).isSome := by
  rw [← mem_locations_iff (by simp), names, List.mem_filterMap, List.mem_map]
  constructor
  · rintro ⟨entry, hMem, hName⟩
    exact ⟨entry, hMem, name_in_iff.mp hName⟩
  · rintro ⟨entry, hMem, hLocation⟩
    exact ⟨entry, hMem, name_in_iff.mpr hLocation⟩

theorem nodup_names (wf : tree.WellFormed) (directory : Location) : (tree.names directory).Nodup := by
  have hLocations := List.pairwise_map.mp wf.nodup
  refine hLocations.filterMap _ ?_
  rintro entry entry' hNe name hName name' hName' rfl
  exact hNe ((name_in_iff.mp hName).trans (name_in_iff.mp hName').symm)

/-- The times of all directories and files. -/
def stamps (tree : Tree) : List Stamp :=
  tree.entries.filterMap (fun (_, entry) =>
    match entry with
    | .directory _ modified => some modified
    | _ => none) ++ tree.files.map (·.2.modified)

/-- All times in the tree are dates. -/
def IsDated (tree : Tree) : Prop := ∀ stamp ∈ tree.stamps, stamp.IsDate

instance (tree : Tree) : Decidable tree.IsDated :=
  inferInstanceAs (Decidable (∀ stamp ∈ tree.stamps, stamp.IsDate))

theorem IsDated.isDate (h : tree.IsDated) {location : Location} {status : Status}
    (hStatus : tree.statusAt? location = some status) : status.modified.IsDate := by
  unfold statusAt? entry? at hStatus
  by_cases hRoot : location = []
  · rw [if_pos hRoot] at hStatus
    cases hStatus
    trivial
  · rw [if_neg hRoot] at hStatus
    rcases hEntry : tree.entries.lookup location with _ | (⟨mode, modified⟩ | number | _)
    all_goals
      rw [hEntry] at hStatus
      dsimp only at hStatus
    · cases hStatus
    · cases hStatus
      obtain ⟨before, after, hEntries, _⟩ := List.lookup_eq_some_iff.mp hEntry
      exact h modified (by simp [stamps, hEntries])
    · obtain ⟨data, hData, rfl⟩ := Option.map_eq_some_iff.mp hStatus
      obtain ⟨before, after, hFiles, _⟩ := List.lookup_eq_some_iff.mp hData
      exact h data.modified (by simp [stamps, hFiles])
    · cases hStatus

end Tree

/-! A listing as a function of the tree -/

namespace Listing

variable {s : Setting} {tree other : Tree} {directory root : Path}

/-- The path of a directory seen from the root, if it lies below it as both are spelled. -/
def relative? (directory root : Path) : Option String :=
  if directory = root then some "" else (directory.relativeTo? root).map Path.relativeText

/-- What a listing tells, or why there is none. -/
def listed (s : Setting) (directory root : Path) (tree : Tree) : Except Failure Listing :=
  match relative? directory root with
  | none => .error (.notBelow directory.text root.text)
  | some relative =>
    if directory.hasNul then .error .embeddedNul
    else
      match scan s directory tree with
      | .error _ => .error .internal
      | .ok names =>
        .ok ⟨relative, names.filterMap fun name => entryOf s directory relative name tree⟩

/-- The entries are read once the path of the directory is known. -/
theorem list_eq (s : Setting) (directory root : Path) :
    list s directory root =
      match relative? directory root with
      | none => throw (.notBelow directory.text root.text)
      | some relative =>
        if directory.hasNul then throw .embeddedNul
        else do
          let world ← get
          match scan s directory world.tree with
          | .error e =>
            Act.log (.listFailed directory.text e.message e.record)
            throw .internal
          | .ok names =>
            return ⟨relative, names.filterMap fun name =>
              entryOf s directory relative name world.tree⟩ := by
  unfold list relative?
  by_cases hSame : directory = root
  · subst hSame
    cases directory.hasNul with
    | true => simp
    | false =>
        rw [if_pos rfl, if_pos rfl, pure_bind]
        rfl
  · cases hRelative : directory.relativeTo? root with
    | none => simp [hSame]
    | some parts =>
        cases directory.hasNul with
        | true => simp [hSame]
        | false =>
            rw [if_neg hSame, if_neg hSame]
            dsimp only
            rw [pure_bind]
            rfl

/-- Listing changes nothing. -/
theorem attempt_list (s : Setting) (directory root : Path) (world : World) :
    (attempt (list s directory root) world).1 = listed s directory root world.tree ∧
      World.Quiet world (attempt (list s directory root) world).2 := by
  rw [list_eq]
  unfold listed
  cases relative? directory root with
  | none => exact ⟨rfl, .refl world⟩
  | some relative =>
      cases directory.hasNul with
      | true => exact ⟨rfl, .refl world⟩
      | false =>
          simp only [Bool.false_eq_true, if_false]
          rw [attempt_bind, attempt_get]
          dsimp only
          cases scan s directory world.tree with
          | error e => exact ⟨rfl, ⟨rfl, rfl, rfl, rfl, rfl, rfl⟩⟩
          | ok names => exact ⟨rfl, .refl world⟩

end Listing

namespace ListedEntry

/-- What a listing tells about an entry with a status. -/
def ofStatus (name : String) (status : Tree.Status) : ListedEntry :=
  ⟨name, status.isDirectory, if status.isDirectory then none else some status.size, status.modified⟩

/-- An entry of a listing without the time of its last change. -/
def timeless (entry : ListedEntry) : ListedEntry :=
  { entry with modified := .recent }

end ListedEntry

namespace Listing

variable {s : Setting} {tree other : Tree} {directory root : Path}

/-- A listing without times. -/
def timeless (listing : Listing) : Listing :=
  { listing with entries := listing.entries.map ListedEntry.timeless }

/-- The name of the entry keeps it out of every listing of the directory. -/
def hides (s : Setting) (directory : Path) (relative name : String) : Bool :=
  s.service.hidden.hides (if relative = "" then name else relative ++ "/" ++ name) ||
    Guard.isDotName name || (directory.child name).hasNul

theorem entryOf_eq (s : Setting) (directory : Path) (relative name : String) (tree : Tree) :
    entryOf s directory relative name tree =
      if hides s directory relative name then none
      else (tree.status s.site.working (directory.child name)).toOption.map
        (ListedEntry.ofStatus name) := by
  unfold entryOf Guard.isSystemHidden hides
  dsimp only
  rw [Path.name_child]
  cases s.service.hidden.hides (if relative = "" then name else relative ++ "/" ++ name) with
  | true => rfl
  | false =>
      cases Guard.isDotName name with
      | true => rfl
      | false =>
          cases (directory.child name).hasNul with
          | true => rfl
          | false => cases tree.status s.site.working (directory.child name) <;> rfl

/-- An entry is told by its status, unless its name keeps it out. -/
theorem entryOf_eq_some_iff {relative name : String} {entry : ListedEntry} :
    entryOf s directory relative name tree = some entry ↔ hides s directory relative name = false ∧
      ∃ status, tree.status s.site.working (directory.child name) = .ok status ∧
        ListedEntry.ofStatus name status = entry := by
  rw [entryOf_eq]
  cases hides s directory relative name with
  | true => simp
  | false => cases tree.status s.site.working (directory.child name) <;> simp [Except.toOption]

/-- Nothing whose name begins with a dot is listed. -/
theorem entryOf_some {relative name : String} {entry : ListedEntry}
    (h : entryOf s directory relative name tree = some entry) :
    entry.name = name ∧ Guard.isDotName name = false := by
  obtain ⟨hHides, status, _, rfl⟩ := entryOf_eq_some_iff.mp h
  simp only [hides, Bool.or_eq_false_iff] at hHides
  exact ⟨rfl, hHides.1.2⟩

/-- Names with a dot at their beginning may be left out before the entries are looked at. -/
theorem map_entryOf_visible (relative : String) (names : List String) :
    (names.filterMap fun name => entryOf s directory relative name tree).map ListedEntry.timeless =
      (names.filter (!Guard.isDotName ·)).filterMap fun name =>
        (entryOf s directory relative name tree).map ListedEntry.timeless := by
  rw [List.map_filterMap, List.filterMap_filter]
  congr 1
  funext name
  cases hDot : Guard.isDotName name with
  | true => simp [entryOf_eq, hides, hDot]
  | false => rfl

/-- A directory is listed if it lies below the root as both are spelled, and its names can be seen. -/
theorem listed_ok {listing : Listing} : listed s directory root tree = .ok listing ↔
    ∃ relative names, relative? directory root = some relative ∧ directory.hasNul = false ∧
      scan s directory tree = .ok names ∧
      listing = ⟨relative, names.filterMap fun name => entryOf s directory relative name tree⟩ := by
  unfold listed
  constructor
  · intro h
    split at h
    · cases h
    rename_i relative hRelative
    split at h
    · cases h
    rename_i hNul
    split at h
    · cases h
    rename_i names hScan
    cases h
    exact ⟨relative, names, hRelative, by simpa using hNul, hScan, rfl⟩
  · rintro ⟨relative, names, hRelative, hNul, hScan, rfl⟩
    simp only [hRelative, hNul, hScan, Bool.false_eq_true, if_false]

/-- What is listed is told by its status. -/
theorem status_of_listed {listing : Listing} (h : listed s directory root tree = .ok listing)
    {entry : ListedEntry} (hMem : entry ∈ listing.entries) :
    ∃ status, tree.status s.site.working (directory.child entry.name) = .ok status ∧
      entry = .ofStatus entry.name status := by
  obtain ⟨relative, names, _, _, _, rfl⟩ := listed_ok.mp h
  obtain ⟨name, _, hEntry⟩ := List.mem_filterMap.mp hMem
  obtain ⟨_, status, hStatus, rfl⟩ := entryOf_eq_some_iff.mp hEntry
  exact ⟨status, hStatus, rfl⟩

theorem undated?_eq_none_iff {listing : Listing} :
    listing.undated? = none ↔ ∀ entry ∈ listing.entries, entry.modified.IsDate := by
  simp only [undated?, List.findSome?_eq_none_iff, Stamp.fault?_eq_none_iff]

/-- Where all times are dates, a listing has no other times. -/
theorem undated?_of_isDated (h : tree.IsDated) {listing : Listing}
    (hListed : listed s directory root tree = .ok listing) : listing.undated? = none := by
  refine undated?_eq_none_iff.mpr fun entry hMem => ?_
  obtain ⟨status, hStatus, hEntry⟩ := status_of_listed hListed hMem
  obtain ⟨location, _, hFound⟩ := Tree.status_ok.mp hStatus
  rw [hEntry]
  exact h.isDate hFound

/-- A name with a dot at its beginning is in no listing. -/
theorem isDotName_of_listed {listing : Listing} (h : listed s directory root tree = .ok listing)
    {entry : ListedEntry} (hMem : entry ∈ listing.entries) :
    Guard.isDotName entry.name = false := by
  obtain ⟨relative, names, _, _, _, rfl⟩ := listed_ok.mp h
  obtain ⟨name, _, hEntry⟩ := List.mem_filterMap.mp hMem
  obtain ⟨hName, hDot⟩ := entryOf_some hEntry
  rw [hName]
  exact hDot

/-- Names are sorted by their characters. -/
theorem pairwise_mergeSort (names : List String) :
    (names.mergeSort (· ≤ ·)).Pairwise fun a b => a ≤ b := by
  have hSorted : (names.mergeSort (· ≤ ·)).Pairwise fun a b => decide (a ≤ b) := by
    apply List.pairwise_mergeSort
    · intro a b c hab hbc
      simpa using String.le_trans (by simpa using hab) (by simpa using hbc)
    · intro a b
      simpa using String.le_total a b
  exact hSorted.imp fun h => by simpa using h

theorem scan_eq {mode : Nat} {place : Location}
    (hFind : tree.find s.site.working .target directory = .ok (.present place))
    (hMode : tree.directoryModeAt? place = some mode) :
    scan s directory tree =
      match s.faultAt? .scan with
      | some e => .error e
      | none =>
        if Tree.mayRead mode then .ok ((tree.names place).mergeSort (· ≤ ·))
        else .error (Setting.refusal directory .permission) := by
  unfold scan Tree.namesIn
  rw [Tree.locate_ok.mpr hFind]
  cases s.faultAt? .scan with
  | some e => rfl
  | none =>
      simp only [hMode]
      cases Tree.mayRead mode <;> rfl

section

variable {working : Location} (h : Tree.Mirrors Access.IsSpare tree other) (wf : tree.WellFormed)
  (wf' : other.WellFormed) (hLinks : tree.IsLinkless)

include h

/-- A child whose name has no dot at its beginning looks the same beside private files. -/
theorem node?_child (hDirectory : tree.isDirectoryAt (directory.place working)) {name : String}
    (hDot : Guard.isDotName name = false) :
    other.node? ((directory.child name).place working) =
      tree.node? ((directory.child name).place working) := by
  rcases h ((directory.child name).place working) with hSame | ⟨⟨last, hLast, target, n, rfl⟩, hNone, _⟩
  · exact hSame
  · rw [Path.place_child] at hLast hNone
    by_cases hName : Path.IsName name
    · rw [Path.descend_name hName, List.getLast?_concat] at hLast
      cases hLast
      rw [WriteStage.isDotName_temporaryName] at hDot
      cases hDot
    · have hEmpty : name = "" := by
        apply Decidable.byContradiction
        intro hNe
        apply hName
        refine ⟨?_, ?_⟩
        · simp [Path.isIdle, hNe]
          rintro rfl
          cases hDot
        · rintro rfl
          cases hDot
      rw [hEmpty, Path.descend_idle rfl] at hNone
      obtain ⟨mode, hMode⟩ := Option.isSome_iff_exists.mp hDirectory
      rw [Tree.node?, Tree.timeless?_of_directory tree hMode] at hNone
      cases hNone

include wf wf' hLinks

theorem entryOf_mirrors (hDirectory : tree.isDirectoryAt (directory.place s.site.working))
    (relative name : String) :
    (entryOf s directory relative name other).map ListedEntry.timeless =
      (entryOf s directory relative name tree).map ListedEntry.timeless := by
  rw [entryOf_eq, entryOf_eq]
  cases hHides : hides s directory relative name with
  | true => rfl
  | false =>
      have hDot : Guard.isDotName name = false := by
        simp only [hides, Bool.or_eq_false_iff] at hHides
        exact hHides.1.2
      have hNode := node?_child h hDirectory hDot
      have hAgree := Tree.status_agree (p := directory.child name) (h.resembles.extends wf wf') hLinks
        Tree.Status.timeless (by rw [Tree.timeless_statusAt?, Tree.timeless_statusAt?, hNode])
      have of_timeless (found : Option Tree.Status) :
          (found.map (ListedEntry.ofStatus name)).map ListedEntry.timeless =
            (found.map Tree.Status.timeless).map (ListedEntry.ofStatus name) := by
        cases found <;> rfl
      rw [if_neg Bool.false_ne_true, if_neg Bool.false_ne_true, of_timeless, of_timeless,
        hAgree.toOption]

omit hLinks in
/-- The names without a dot at the beginning are the same, in the same order. -/
theorem visible_names (place : Location) :
    ((other.names place).mergeSort (· ≤ ·)).filter (!Guard.isDotName ·) =
      ((tree.names place).mergeSort (· ≤ ·)).filter (!Guard.isDotName ·) := by
  have sorted (names : List String) :
      ((names.mergeSort (· ≤ ·)).filter (!Guard.isDotName ·)).Pairwise fun a b => a ≤ b :=
    (pairwise_mergeSort names).filter _
  have nodup {t : Tree} (h : t.WellFormed) :
      (((t.names place).mergeSort (· ≤ ·)).filter (!Guard.isDotName ·)).Nodup :=
    (((List.mergeSort_perm _ _).nodup_iff.mpr (Tree.nodup_names h place))).filter _
  refine List.Perm.eq_of_pairwise (fun a b _ _ => String.le_antisymm) (sorted _) (sorted _) ?_
  rw [List.perm_ext_iff_of_nodup (nodup wf') (nodup wf)]
  intro name
  simp only [List.mem_filter, List.mem_mergeSort, Tree.mem_names, Bool.not_eq_true']
  refine and_congr_left fun hDot => ?_
  rcases h (place ++ [name]) with hSame | ⟨⟨last, hLast, target, n, rfl⟩, _⟩
  · have hNone : other.timeless? (place ++ [name]) = none ↔
        tree.timeless? (place ++ [name]) = none := by
      rw [← Tree.node?_eq_none wf', ← Tree.node?_eq_none wf, hSame]
    simp only [Option.isSome_iff_ne_none, ne_eq, hNone]
  · rw [List.getLast?_concat] at hLast
    cases hLast
    rw [WriteStage.isDotName_temporaryName] at hDot
    cases hDot

/-- A listing tells the same beside private files, up to the times of changes. -/
theorem listed_mirrors {mode : Nat}
    (hFind : tree.find s.site.working .target directory =
      .ok (.present (directory.place s.site.working)))
    (hMode : tree.directoryModeAt? (directory.place s.site.working) = some mode) :
    (listed s directory root other).map timeless = (listed s directory root tree).map timeless := by
  have hExtends := h.resembles.extends wf wf'
  have hDirectory : tree.isDirectoryAt (directory.place s.site.working) := by
    simp [Tree.isDirectoryAt, hMode]
  unfold listed
  cases relative? directory root with
  | none => rfl
  | some relative =>
      have hOther : other.find s.site.working .target directory =
          .ok (.present (directory.place s.site.working)) := Tree.find_grow hExtends hFind
      rw [scan_eq hFind hMode, scan_eq hOther (hExtends.directoryModeAt?.trans hMode)]
      dsimp only
      split
      · rfl
      · cases s.faultAt? .scan with
        | some e => rfl
        | none =>
            cases Tree.mayRead mode with
            | false => rfl
            | true =>
                simp only [if_true, Except.map, timeless]
                rw [map_entryOf_visible, map_entryOf_visible, visible_names h wf wf']
                simp only [entryOf_mirrors h wf wf' hLinks hDirectory relative]

end

end Listing

end ConfigGate
