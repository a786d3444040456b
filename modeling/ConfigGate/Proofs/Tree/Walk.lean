import ConfigGate.Proofs.Tree.Leads

/-! What a walk of the system tells about the way it took. The relation `Strides` has one rule for each
kind of component that a walk passes, and a walk that does not fail is one of its derivations. The
relation `Stumbles` has the rules for the ways that fail. -/
namespace ConfigGate.Tree

open Path

variable {tree : Tree} {working : Location}

theorem isDirectoryAt_of_searchable {here : Location} (h : tree.isSearchable here) :
    tree.isDirectoryAt here := by
  obtain ⟨mode, hMode, _⟩ := (Option.any_eq_true _ _).mp h
  simp [isDirectoryAt, hMode]

theorem linkAt?_eq_none_of_entry {location : Location} {entry : Entry}
    (hEntry : tree.entry? location = some entry) (h : ∀ target, entry ≠ .link target) :
    tree.linkAt? location = none := by
  unfold linkAt?
  rw [hEntry]
  cases entry with
  | link target => exact absurd rfl (h target)
  | directory mode modified => rfl
  | file number => rfl

theorem entry?_of_linkAt? {location : Location} {target : String}
    (h : tree.linkAt? location = some target) : tree.entry? location = some (.link target) := by
  unfold linkAt? at h
  split at h
  · rename_i hEntry
    cases h
    exact hEntry
  · cases h

theorem mem_entries_of_linkAt? {location : Location} {target : String}
    (h : tree.linkAt? location = some target) : (location, Entry.link target) ∈ tree.entries := by
  have hRoot : location ≠ [] := by
    rintro rfl
    cases h
  have hEntry := entry?_of_linkAt? h
  rw [entry?_of_ne _ hRoot] at hEntry
  obtain ⟨before, after, hEntries, _⟩ := List.lookup_eq_some_iff.mp hEntry
  simp [hEntries]

section Steps

/-! One step of a stretch, by the first of the components. -/

variable {purpose : Purpose} {here : Location} {part : String} {rest : List String}

theorem stretch_of_not_directory (h : tree.isDirectoryAt here = false) :
    stretch tree purpose here (part :: rest) = .failed .notDirectory := by
  have hMode : tree.directoryModeAt? here = none := by simpa [isDirectoryAt] using h
  rw [stretch, hMode]

theorem stretch_of_not_searchable (hDirectory : tree.isDirectoryAt here)
    (h : tree.isSearchable here = false) (hPart : part ≠ "") :
    stretch tree purpose here (part :: rest) = .failed .permission := by
  obtain ⟨mode, hMode⟩ := Option.isSome_iff_exists.mp hDirectory
  have hMay : maySearch mode = false := by simpa [isSearchable, hMode] using h
  simp [stretch, hMode, hMay, hPart]

theorem stretch_idle (hDirectory : tree.isDirectoryAt here) (hPart : isIdle part)
    (hSearch : part = "." → tree.isSearchable here) :
    stretch tree purpose here (part :: rest) = stretch tree purpose here rest := by
  obtain ⟨mode, hMode⟩ := Option.isSome_iff_exists.mp hDirectory
  by_cases hEmpty : part = ""
  · simp [stretch, hMode, hEmpty]
  · have hDot : part = "." := by simpa [isIdle, hEmpty] using hPart
    have hMay : maySearch mode := by simpa [isSearchable, hMode] using hSearch hDot
    simp [stretch, hMode, hMay, hDot]

theorem stretch_up (hSearch : tree.isSearchable here) :
    stretch tree purpose here (".." :: rest) = stretch tree purpose here.dropLast rest := by
  obtain ⟨mode, hMode, hMay⟩ := (Option.any_eq_true _ _).mp hSearch
  simp [stretch, hMode, hMay]

theorem stretch_of_long (hPart : IsName part) (hSearch : tree.isSearchable here)
    (hLength : nameLimit < byteLength part) :
    stretch tree purpose here (part :: rest) = .failed .nameTooLong := by
  obtain ⟨mode, hMode, hMay⟩ := (Option.any_eq_true _ _).mp hSearch
  have hParts : part ≠ "" ∧ part ≠ "." := by simpa [isIdle] using hPart.1
  simp [stretch, hMode, hMay, hParts, hPart.2, hLength]

variable (hPart : IsName part) (hSearch : tree.isSearchable here)
  (hLength : byteLength part ≤ nameLimit)

include hPart hSearch hLength

theorem stretch_slash :
    stretch tree .creation here [part, ""] = .failed .isDirectory := by
  obtain ⟨mode, hMode, hMay⟩ := (Option.any_eq_true _ _).mp hSearch
  have hParts : part ≠ "" ∧ part ≠ "." := by simpa [isIdle] using hPart.1
  simp [stretch, hMode, hMay, hParts, hPart.2, Nat.not_lt.mpr hLength]

/-- A name is looked up. -/
theorem stretch_lookup (hFile : purpose = .creation → rest ≠ [""]) :
    stretch tree purpose here (part :: rest) =
      match tree.entry? (here ++ [part]) with
      | none => if rest.isEmpty then .arrived (.absent here part) else .failed .noEntry
      | some (.link target) =>
        if rest.isEmpty && purpose = .entry then .arrived (.present (here ++ [part]))
        else .link here target rest
      | some _ => stretch tree purpose (here ++ [part]) rest := by
  obtain ⟨mode, hMode, hMay⟩ := (Option.any_eq_true _ _).mp hSearch
  have hParts : part ≠ "" ∧ part ≠ "." := by simpa [isIdle] using hPart.1
  have hSlash : ¬(purpose = .creation ∧ rest = [""]) := not_and.mpr hFile
  cases hEntry : tree.entry? (here ++ [part]) with
  | none => simp [stretch, hMode, hMay, hParts, hPart.2, Nat.not_lt.mpr hLength, hSlash, hEntry]
  | some entry =>
      cases entry <;>
        simp [stretch, hMode, hMay, hParts, hPart.2, Nat.not_lt.mpr hLength, hSlash, hEntry]

theorem stretch_enter (hFile : purpose = .creation → rest ≠ [""])
    (hSome : (tree.entry? (here ++ [part])).isSome)
    (hLink : tree.linkAt? (here ++ [part]) = none) :
    stretch tree purpose here (part :: rest) = stretch tree purpose (here ++ [part]) rest := by
  obtain ⟨entry, hEntry⟩ := Option.isSome_iff_exists.mp hSome
  rw [stretch_lookup hPart hSearch hLength hFile, hEntry]
  cases entry with
  | link target => simp [linkAt?, hEntry] at hLink
  | directory mode modified => rfl
  | file number => rfl

end Steps

/-- Where the entry of a path stands, or would stand. -/
def Destination.entry : Destination → Location
  | .present location => location
  | .absent directory name => directory ++ [name]

/-- A way up to the first link, to the end of the path, or to a name that is free. -/
inductive Strides (tree : Tree) (purpose : Purpose) :
    Location → List String → Stretch → Prop where
  | done (here : Location) : Strides tree purpose here [] (.arrived (.present here))
  | idle {here : Location} {part : String} {rest : List String} {out : Stretch}
      (hDirectory : tree.isDirectoryAt here) (hPart : isIdle part)
      (hSearch : part = "." → tree.isSearchable here) (hRest : Strides tree purpose here rest out) :
      Strides tree purpose here (part :: rest) out
  | up {here : Location} {rest : List String} {out : Stretch} (hSearch : tree.isSearchable here)
      (hRest : Strides tree purpose here.dropLast rest out) :
      Strides tree purpose here (".." :: rest) out
  | enter {here : Location} {part : String} {rest : List String} {out : Stretch}
      (hPart : IsName part) (hSearch : tree.isSearchable here)
      (hLength : byteLength part ≤ nameLimit) (hFile : purpose = .creation → rest ≠ [""])
      (hSome : (tree.entry? (here ++ [part])).isSome)
      (hLink : tree.linkAt? (here ++ [part]) = none)
      (hRest : Strides tree purpose (here ++ [part]) rest out) :
      Strides tree purpose here (part :: rest) out
  | stop {here : Location} {part target : String} (hPart : IsName part)
      (hSearch : tree.isSearchable here) (hLength : byteLength part ≤ nameLimit)
      (hLink : tree.linkAt? (here ++ [part]) = some target) (hEntry : purpose = .entry) :
      Strides tree purpose here [part] (.arrived (.present (here ++ [part])))
  | link {here : Location} {part target : String} {rest : List String} (hPart : IsName part)
      (hSearch : tree.isSearchable here) (hLength : byteLength part ≤ nameLimit)
      (hFile : purpose = .creation → rest ≠ [""])
      (hLink : tree.linkAt? (here ++ [part]) = some target)
      (hFollow : rest = [] → purpose ≠ .entry) :
      Strides tree purpose here (part :: rest) (.link here target rest)
  | free {here : Location} {part : String} (hPart : IsName part)
      (hSearch : tree.isSearchable here) (hLength : byteLength part ≤ nameLimit)
      (hNone : tree.entry? (here ++ [part]) = none) :
      Strides tree purpose here [part] (.arrived (.absent here part))

/-- A way that fails, with the reason. -/
inductive Stumbles (tree : Tree) (purpose : Purpose) : Location → List String → Errno → Prop where
  | notDirectory {here : Location} {part : String} {rest : List String}
      (hHere : tree.isDirectoryAt here = false) :
      Stumbles tree purpose here (part :: rest) .notDirectory
  | permission {here : Location} {part : String} {rest : List String}
      (hDirectory : tree.isDirectoryAt here) (hSearch : tree.isSearchable here = false)
      (hPart : part ≠ "") : Stumbles tree purpose here (part :: rest) .permission
  | nameTooLong {here : Location} {part : String} {rest : List String} (hPart : IsName part)
      (hSearch : tree.isSearchable here) (hLength : nameLimit < byteLength part) :
      Stumbles tree purpose here (part :: rest) .nameTooLong
  | slash {here : Location} {part : String} (hPart : IsName part)
      (hSearch : tree.isSearchable here) (hLength : byteLength part ≤ nameLimit)
      (hCreation : purpose = .creation) : Stumbles tree purpose here [part, ""] .isDirectory
  | missing {here : Location} {part : String} {rest : List String} (hPart : IsName part)
      (hSearch : tree.isSearchable here) (hLength : byteLength part ≤ nameLimit)
      (hFile : purpose = .creation → rest ≠ [""]) (hNone : tree.entry? (here ++ [part]) = none)
      (hRest : rest ≠ []) : Stumbles tree purpose here (part :: rest) .noEntry
  | idle {here : Location} {part : String} {rest : List String} {errno : Errno}
      (hDirectory : tree.isDirectoryAt here) (hPart : isIdle part)
      (hSearch : part = "." → tree.isSearchable here)
      (hRest : Stumbles tree purpose here rest errno) :
      Stumbles tree purpose here (part :: rest) errno
  | up {here : Location} {rest : List String} {errno : Errno} (hSearch : tree.isSearchable here)
      (hRest : Stumbles tree purpose here.dropLast rest errno) :
      Stumbles tree purpose here (".." :: rest) errno
  | enter {here : Location} {part : String} {rest : List String} {errno : Errno}
      (hPart : IsName part) (hSearch : tree.isSearchable here)
      (hLength : byteLength part ≤ nameLimit) (hFile : purpose = .creation → rest ≠ [""])
      (hSome : (tree.entry? (here ++ [part])).isSome)
      (hLink : tree.linkAt? (here ++ [part]) = none)
      (hRest : Stumbles tree purpose (here ++ [part]) rest errno) :
      Stumbles tree purpose here (part :: rest) errno

/-- A way by the rules, however it ends. -/
def Goes (tree : Tree) (purpose : Purpose) (here : Location) (parts : List String) :
    Stretch → Prop
  | .failed errno => Stumbles tree purpose here parts errno
  | out => Strides tree purpose here parts out

namespace Goes

variable {purpose : Purpose} {here : Location} {part : String} {rest : List String} {out : Stretch}

theorem idle (hDirectory : tree.isDirectoryAt here) (hPart : isIdle part)
    (hSearch : part = "." → tree.isSearchable here) (h : Goes tree purpose here rest out) :
    Goes tree purpose here (part :: rest) out := by
  cases out with
  | failed errno => exact Stumbles.idle hDirectory hPart hSearch h
  | arrived destination => exact Strides.idle hDirectory hPart hSearch h
  | link directory target left => exact Strides.idle hDirectory hPart hSearch h

theorem up (hSearch : tree.isSearchable here) (h : Goes tree purpose here.dropLast rest out) :
    Goes tree purpose here (".." :: rest) out := by
  cases out with
  | failed errno => exact Stumbles.up hSearch h
  | arrived destination => exact Strides.up hSearch h
  | link directory target left => exact Strides.up hSearch h

theorem enter (hPart : IsName part) (hSearch : tree.isSearchable here)
    (hLength : byteLength part ≤ nameLimit) (hFile : purpose = .creation → rest ≠ [""])
    (hSome : (tree.entry? (here ++ [part])).isSome)
    (hLink : tree.linkAt? (here ++ [part]) = none)
    (h : Goes tree purpose (here ++ [part]) rest out) :
    Goes tree purpose here (part :: rest) out := by
  cases out with
  | failed errno => exact Stumbles.enter hPart hSearch hLength hFile hSome hLink h
  | arrived destination => exact Strides.enter hPart hSearch hLength hFile hSome hLink h
  | link directory target left => exact Strides.enter hPart hSearch hLength hFile hSome hLink h

end Goes

/-- A name is looked up by the rules if the stretch after it goes by them. -/
theorem goes_name {purpose : Purpose} {here : Location} {part : String} {rest : List String}
    (hPart : IsName part) (hSearch : tree.isSearchable here)
    (hLength : byteLength part ≤ nameLimit) (hFile : purpose = .creation → rest ≠ [""])
    (hRest : Goes tree purpose (here ++ [part]) rest (stretch tree purpose (here ++ [part]) rest)) :
    Goes tree purpose here (part :: rest) (stretch tree purpose here (part :: rest)) := by
  cases hEntry : tree.entry? (here ++ [part]) with
  | none =>
      rw [stretch_lookup hPart hSearch hLength hFile, hEntry]
      cases rest with
      | nil => exact Strides.free hPart hSearch hLength hEntry
      | cons next rest => exact Stumbles.missing hPart hSearch hLength hFile hEntry (by simp)
  | some entry =>
      cases hLink : tree.linkAt? (here ++ [part]) with
      | none =>
          have hSome : (tree.entry? (here ++ [part])).isSome := by simp [hEntry]
          rw [stretch_enter hPart hSearch hLength hFile hSome hLink]
          exact hRest.enter hPart hSearch hLength hFile hSome hLink
      | some target =>
          rw [stretch_lookup hPart hSearch hLength hFile, entry?_of_linkAt? hLink]
          by_cases hEnd : rest = [] ∧ purpose = .entry
          · obtain ⟨rfl, rfl⟩ := hEnd
            exact Strides.stop hPart hSearch hLength hLink rfl
          · have hOn : (rest.isEmpty && decide (purpose = .entry)) = false := by simpa using hEnd
            simp only [hOn]
            exact Strides.link hPart hSearch hLength hFile hLink fun h h' => hEnd ⟨h, h'⟩

/-- Every stretch goes by the rules. -/
theorem goes_stretch (tree : Tree) (purpose : Purpose) (here : Location) (parts : List String) :
    Goes tree purpose here parts (stretch tree purpose here parts) := by
  induction parts generalizing here with
  | nil => exact Strides.done here
  | cons part rest ih =>
      -- In the order of the checks: each one that fails ends the stretch, and the next assumes it passed.
      by_cases hDirectory : tree.isDirectoryAt here
      case neg =>
        have hHere : tree.isDirectoryAt here = false := by simpa using hDirectory
        rw [stretch_of_not_directory hHere]
        exact Stumbles.notDirectory hHere
      by_cases hIdle : isIdle part ∧ (part = "." → tree.isSearchable here)
      case pos =>
        rw [stretch_idle hDirectory hIdle.1 hIdle.2]
        exact (ih here).idle hDirectory hIdle.1 hIdle.2
      by_cases hSearch : tree.isSearchable here
      case neg =>
        have hEmpty : part ≠ "" := fun h => hIdle ⟨h ▸ rfl, fun hDot => by simp [h] at hDot⟩
        rw [stretch_of_not_searchable hDirectory (by simpa using hSearch) hEmpty]
        exact Stumbles.permission hDirectory (by simpa using hSearch) hEmpty
      by_cases hUp : part = ".."
      case pos =>
        rw [hUp, stretch_up hSearch]
        exact (ih here.dropLast).up hSearch
      have hPart : IsName part := ⟨by simpa [hSearch] using hIdle, hUp⟩
      by_cases hLength : byteLength part ≤ nameLimit
      case neg =>
        rw [stretch_of_long hPart hSearch (Nat.lt_of_not_le hLength)]
        exact Stumbles.nameTooLong hPart hSearch (Nat.lt_of_not_le hLength)
      by_cases hSlash : purpose = .creation ∧ rest = [""]
      case pos =>
        obtain ⟨rfl, rfl⟩ := hSlash
        rw [stretch_slash hPart hSearch hLength]
        exact Stumbles.slash hPart hSearch hLength rfl
      exact goes_name hPart hSearch hLength (fun h h' => hSlash ⟨h, h'⟩) (ih _)

/-- A stretch that does not fail follows the rules. -/
theorem strides_stretch {purpose : Purpose} {here : Location} {parts : List String}
    (hOk : ∀ errno, stretch tree purpose here parts ≠ .failed errno) :
    Strides tree purpose here parts (stretch tree purpose here parts) := by
  have hGoes := goes_stretch tree purpose here parts
  cases hOut : stretch tree purpose here parts with
  | failed errno => exact absurd hOut (hOk errno)
  | arrived destination => rwa [hOut] at hGoes
  | link directory target rest => rwa [hOut] at hGoes

/-- A stretch fails exactly as the rules say. -/
theorem stretch_failed_iff {purpose : Purpose} {here : Location} {parts : List String}
    {errno : Errno} : stretch tree purpose here parts = .failed errno ↔
      Stumbles tree purpose here parts errno := by
  constructor
  · intro h
    have hGoes := goes_stretch tree purpose here parts
    rwa [h] at hGoes
  · intro h
    induction h with
    | notDirectory hHere => exact stretch_of_not_directory hHere
    | permission hDirectory hSearch hPart => exact stretch_of_not_searchable hDirectory hSearch hPart
    | nameTooLong hPart hSearch hLength => exact stretch_of_long hPart hSearch hLength
    | slash hPart hSearch hLength hCreation => exact hCreation ▸ stretch_slash hPart hSearch hLength
    | missing hPart hSearch hLength hFile hNone hRest =>
        rw [stretch_lookup hPart hSearch hLength hFile, hNone]
        simp [hRest]
    | idle hDirectory hPart hSearch _ ih => rw [stretch_idle hDirectory hPart hSearch, ih]
    | up hSearch _ ih => rw [stretch_up hSearch, ih]
    | enter hPart hSearch hLength hFile hSome hLink _ ih =>
        rw [stretch_enter hPart hSearch hLength hFile hSome hLink, ih]

/-- Why a walk ends before its next link. -/
theorem Stumbles.reason {purpose : Purpose} {here : Location} {parts : List String} {errno : Errno}
    (h : Stumbles tree purpose here parts errno) :
    errno = .notDirectory ∨ errno = .noEntry ∨ errno = .nameTooLong ∨ errno = .permission ∨
      errno = .isDirectory ∧ purpose = .creation := by
  induction h with
  | slash _ _ _ hCreation => simp [hCreation]
  | idle _ _ _ _ ih => exact ih
  | up _ _ ih => exact ih
  | enter _ _ _ _ _ _ _ ih => exact ih
  | _ => simp

/-- Why a path leads nowhere. -/
theorem find_failed {purpose : Purpose} {p : Path} {errno : Errno}
    (h : tree.find working purpose p = .error errno) :
    errno = .tooManyLinks ∨ errno = .notDirectory ∨ errno = .noEntry ∨ errno = .nameTooLong ∨
      errno = .permission ∨ errno = .isDirectory ∧ purpose = .creation := by
  have walk_failed (budget : Nat) {here : Location} {parts : List String}
      (h : walk tree purpose budget here parts = .error errno) :
      errno = .tooManyLinks ∨ errno = .notDirectory ∨ errno = .noEntry ∨ errno = .nameTooLong ∨
        errno = .permission ∨ errno = .isDirectory ∧ purpose = .creation := by
    induction budget generalizing here parts with
    | zero =>
        rw [walk] at h
        split at h
        · cases h
        · rename_i hStretch
          cases h
          exact .inr (stretch_failed_iff.mp hStretch).reason
        · cases h
          exact .inl rfl
    | succ budget ih =>
        rw [walk] at h
        split at h
        · cases h
        · rename_i hStretch
          cases h
          exact .inr (stretch_failed_iff.mp hStretch).reason
        · exact ih h
  unfold find at h
  split at h
  · cases h
    simp
  · exact walk_failed linkLimit h

namespace Strides

/-- The rules determine the stretch. -/
theorem stretch_eq {purpose : Purpose} {here : Location} {parts : List String} {out : Stretch}
    (h : Strides tree purpose here parts out) : stretch tree purpose here parts = out := by
  induction h with
  | done => rfl
  | idle hDirectory hPart hSearch _ ih => rw [stretch_idle hDirectory hPart hSearch, ih]
  | up hSearch _ ih => rw [stretch_up hSearch, ih]
  | enter hPart hSearch hLength hFile hSome hLink _ ih =>
      rw [stretch_enter hPart hSearch hLength hFile hSome hLink, ih]
  | stop hPart hSearch hLength hLink hEntry =>
      rw [stretch_lookup hPart hSearch hLength (by simp [hEntry]), entry?_of_linkAt? hLink]
      simp [hEntry]
  | link hPart hSearch hLength hFile hLink hFollow =>
      rw [stretch_lookup hPart hSearch hLength hFile, entry?_of_linkAt? hLink]
      simpa using hFollow
  | free hPart hSearch hLength hNone =>
      rw [stretch_lookup hPart hSearch hLength (by simp), hNone]
      rfl

/-- A stretch ends where its components say, also if nothing stands there. -/
theorem entry_eq {purpose : Purpose} {here : Location} {parts : List String}
    {destination : Destination} (h : Strides tree purpose here parts (.arrived destination)) :
    destination.entry = parts.foldl descend here := by
  generalize hOut : Stretch.arrived destination = out at h
  induction h with
  | done => cases hOut; rfl
  | idle _ hPart _ _ ih => rw [List.foldl_cons, descend_idle hPart]; exact ih hOut
  | up _ _ ih => exact ih hOut
  | enter hPart _ _ _ _ _ _ ih => rw [List.foldl_cons, descend_name hPart]; exact ih hOut
  | stop hPart => cases hOut; rw [List.foldl_cons, descend_name hPart]; rfl
  | link => cases hOut
  | free hPart => cases hOut; rw [List.foldl_cons, descend_name hPart]; rfl

/-- A walk that meets no link leads on by names. -/
theorem leads {purpose : Purpose} {start there : Location} {parts : List String}
    (h : Strides tree purpose start parts (.arrived (.present there))) (hPurpose : purpose ≠ .entry)
    {here : Path} (hHere : here.IsResolved) (hPlace : here.place working = start) :
    ∃ p, Leads tree working here parts [] p ∧ p.place working = there := by
  generalize hOut : Stretch.arrived (.present there) = out at h
  induction h generalizing here with
  | done => cases hOut; exact ⟨here, .done here, hPlace⟩
  | idle _ hPart _ _ ih =>
      obtain ⟨p, hLeads, hThere⟩ := ih hHere hPlace hOut
      exact ⟨p, .idle hPart hLeads, hThere⟩
  | up hSearch _ ih =>
      subst hPlace
      obtain ⟨p, hLeads, hThere⟩ := ih (isResolved_ascend hHere) (place_ascend hHere) hOut
      exact ⟨p, .up hSearch hLeads, hThere⟩
  | enter hPart hSearch hLength _ hSome hLink _ ih =>
      subst hPlace
      obtain ⟨p, hLeads, hThere⟩ := ih (hHere.child hPart)
        (by rw [place_child, descend_name hPart]) hOut
      exact ⟨p, .enter hPart hSearch hLength hSome hLink hLeads, hThere⟩
  | stop _ _ _ _ hEntry => exact absurd hEntry hPurpose
  | link => cases hOut
  | free => cases hOut

/-- A walk that comes to a link has got there by names. -/
theorem leads_link {purpose : Purpose} {start directory : Location} {parts rest : List String}
    {target : String} (h : Strides tree purpose start parts (.link directory target rest))
    {here : Path} (hHere : here.IsResolved) (hPlace : here.place working = start) :
    ∃ before part turn, parts = before ++ part :: rest ∧ Leads tree working here before [] turn ∧
      turn.place working = directory ∧ IsName part ∧ tree.isSearchable directory ∧
      byteLength part ≤ nameLimit ∧ tree.linkAt? (directory ++ [part]) = some target := by
  generalize hOut : Stretch.link directory target rest = out at h
  induction h generalizing here with
  | done => cases hOut
  | @idle _ passed _ _ _ hPart _ _ ih =>
      obtain ⟨before, part, turn, rfl, hLeads, hRest⟩ := ih hHere hPlace hOut
      exact ⟨passed :: before, part, turn, rfl, .idle hPart hLeads, hRest⟩
  | up hSearch _ ih =>
      subst hPlace
      obtain ⟨before, part, turn, rfl, hLeads, hRest⟩ :=
        ih (isResolved_ascend hHere) (place_ascend hHere) hOut
      exact ⟨".." :: before, part, turn, rfl, .up hSearch hLeads, hRest⟩
  | @enter _ passed _ _ hPart hSearch hLength _ hSome hLink _ ih =>
      subst hPlace
      obtain ⟨before, part, turn, rfl, hLeads, hRest⟩ := ih (hHere.child hPart)
        (by rw [place_child, descend_name hPart]) hOut
      exact ⟨passed :: before, part, turn, rfl, .enter hPart hSearch hLength hSome hLink hLeads,
        hRest⟩
  | stop => cases hOut
  | @link _ part _ _ hPart hSearch hLength _ hLink _ =>
      cases hOut
      exact ⟨[], part, here, rfl, .done here, hPlace, hPart, hSearch, hLength, hLink⟩
  | free => cases hOut

end Strides

/-- A walk that arrives. It follows the rules up to its first link, and then goes on with the target of
that link, which uses up one of the budget. -/
inductive Walks (tree : Tree) (purpose : Purpose) (destination : Destination) :
    Nat → Location → List String → Prop where
  | arrived {budget : Nat} {here : Location} {parts : List String}
      (hStrides : Strides tree purpose here parts (.arrived destination)) :
      Walks tree purpose destination budget here parts
  | follow {budget : Nat} {here directory : Location} {parts rest : List String} {target : String}
      (hStrides : Strides tree purpose here parts (.link directory target rest))
      (hRest : Walks tree purpose destination budget (targetStart directory target)
        (targetParts target ++ rest)) :
      Walks tree purpose destination (budget + 1) here parts

theorem walks_of_walk {purpose : Purpose} {budget : Nat} {here : Location} {parts : List String}
    {destination : Destination} (h : walk tree purpose budget here parts = .ok destination) :
    Walks tree purpose destination budget here parts := by
  induction budget generalizing here parts with
  | zero =>
      rw [walk] at h
      split at h
      · rename_i hStretch
        cases h
        exact .arrived (hStretch ▸ strides_stretch (by simp [hStretch]))
      · cases h
      · cases h
  | succ budget ih =>
      rw [walk] at h
      split at h
      · rename_i hStretch
        cases h
        exact .arrived (hStretch ▸ strides_stretch (by simp [hStretch]))
      · cases h
      · rename_i hStretch
        exact .follow (hStretch ▸ strides_stretch (by simp [hStretch])) (ih h)

/-- A walk arrives exactly if the rules lead it there. -/
theorem walk_ok {purpose : Purpose} {budget : Nat} {here : Location} {parts : List String}
    {destination : Destination} : walk tree purpose budget here parts = .ok destination ↔
      Walks tree purpose destination budget here parts := by
  refine ⟨walks_of_walk, fun h => ?_⟩
  induction h with
  | arrived hStrides => rw [walk, hStrides.stretch_eq]
  | follow hStrides _ ih => rw [walk, hStrides.stretch_eq, ← ih]

/-- A path leads somewhere exactly if its name is not too long, and a walk arrives there. -/
theorem find_ok {purpose : Purpose} {p : Path} {destination : Destination} :
    tree.find working purpose p = .ok destination ↔ byteLength p.text < pathLimit ∧
      Walks tree purpose destination linkLimit (p.start working) p.parts := by
  unfold find
  split
  · rename_i hLong
    simp [Nat.not_lt.mpr hLong]
  · rename_i hShort
    rw [and_iff_right (Nat.lt_of_not_le hShort)]
    exact walk_ok

/-- A walk that arrives leads to its end by names, over no more links than it may follow. -/
theorem Walks.leads {purpose : Purpose} (hPurpose : purpose ≠ .entry) {budget : Nat}
    {start there : Location} {parts : List String}
    (h : Walks tree purpose (.present there) budget start parts) {here : Path}
    (hHere : here.IsResolved) (hPlace : here.place working = start) :
    ∃ links p, Leads tree working here parts links p ∧ p.place working = there ∧
      links.length ≤ budget := by
  induction h generalizing here with
  | arrived hStrides =>
      obtain ⟨p, hLeads, hThere⟩ := hStrides.leads hPurpose hHere hPlace
      exact ⟨[], p, hLeads, hThere, Nat.zero_le _⟩
  | @follow _ _ _ _ _ target hStrides _ ih =>
      obtain ⟨before, part, turn, rfl, hBefore, rfl, hPart, hSearch, hLength, hLink⟩ :=
        hStrides.leads_link hHere hPlace
      obtain ⟨links, p, hLeads, hThere, hCount⟩ :=
        ih (isResolved_targetBase (hBefore.isResolved hHere) target) (place_targetBase _ _)
      obtain ⟨middle, inner, outer, rfl, hTarget, hRest⟩ := hLeads.split
      refine ⟨_, p, hBefore.append
        (.follow hPart hSearch hLength hLink hTarget.of_targetParts hRest), hThere, ?_⟩
      simpa using hCount

end ConfigGate.Tree
