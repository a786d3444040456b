import ConfigGate.Proofs.Tree.Canonical
import ConfigGate.Proofs.Tree.Operations

/-! Trees without links. There a path leads where its text says, if it leads anywhere, and its canonical
location does not depend on the tree. -/
namespace ConfigGate

open Path

/-- The text of a path is that of its directory followed by its last component. -/
theorem Path.text_child (p : Path) : ∃ before, ∀ part, (p.child part).text = before ++ part := by
  obtain ⟨anchor, parts⟩ := p
  by_cases hParts : parts = []
  · exact ⟨anchor.text, fun part => by simp [text, child, hParts]⟩
  · refine ⟨anchor.text ++ (String.intercalate "/" parts ++ "/"), fun part => ?_⟩
    simp [text, child, String.intercalate_append_of_ne_nil hParts, String.append_assoc]

namespace Tree

/-- No entry of the tree is a link. -/
def IsLinkless (tree : Tree) : Prop := ∀ location, tree.linkAt? location = none

theorem isLinkless_of_entries {tree : Tree}
    (h : ∀ entry ∈ tree.entries, ∀ target, entry.2 ≠ .link target) : tree.IsLinkless := by
  intro location
  cases hLink : tree.linkAt? location with
  | none => rfl
  | some target => exact absurd rfl (h _ (mem_entries_of_linkAt? hLink) target)

variable {tree other : Tree} {working : Location} {p : Path} {purpose : Purpose}

theorem Extends.isLinkless (h : tree.Extends other) (hTree : tree.IsLinkless) :
    other.IsLinkless :=
  fun location => h.linkAt?.trans (hTree location)

/-! Walks -/

theorem Strides.not_link (hTree : tree.IsLinkless) {here directory : Location}
    {parts rest : List String} {target : String} :
    ¬ Strides tree purpose here parts (.link directory target rest) := by
  intro h
  generalize hOut : Stretch.link directory target rest = out at h
  induction h with
  | done => cases hOut
  | stop => cases hOut
  | free => cases hOut
  | idle _ _ _ _ ih => exact ih hOut
  | up _ _ ih => exact ih hOut
  | enter _ _ _ _ _ _ _ ih => exact ih hOut
  | link _ _ _ _ hLink =>
      rw [hTree] at hLink
      cases hLink

theorem stretch_not_link (hTree : tree.IsLinkless) {here directory : Location}
    {parts rest : List String} {target : String} :
    stretch tree purpose here parts ≠ .link directory target rest := by
  intro h
  have hStrides : Strides tree purpose here parts (stretch tree purpose here parts) :=
    strides_stretch (by simp [h])
  rw [h] at hStrides
  exact Strides.not_link hTree hStrides

/-- The end of a walk that is a single stretch. -/
def Stretch.result : Stretch → Except Errno Destination
  | .arrived destination => .ok destination
  | .failed errno => .error errno
  | .link _ _ _ => .error .tooManyLinks

/-- A walk is a single stretch. -/
theorem find_of_short (hTree : tree.IsLinkless) (hShort : ¬ pathLimit ≤ byteLength p.text) :
    tree.find working purpose p = (stretch tree purpose (p.start working) p.parts).result := by
  rw [find, if_neg hShort]
  change walk tree purpose linkLimit (p.start working) p.parts = _
  rw [walk]
  cases hStretch : stretch tree purpose (p.start working) p.parts with
  | arrived destination => rfl
  | failed errno => rfl
  | link directory target rest => exact absurd hStretch (stretch_not_link hTree)

theorem strides_of_find (hTree : tree.IsLinkless) {destination : Destination}
    (h : tree.find working purpose p = .ok destination) :
    Strides tree purpose (p.start working) p.parts (.arrived destination) := by
  obtain ⟨-, hWalk⟩ := find_ok.mp h
  cases hWalk with
  | arrived hStrides => exact hStrides
  | follow hStrides => exact absurd hStrides (Strides.not_link hTree)

/-- What a walk arrives at is there. -/
theorem Strides.entry?_isSome (wf : tree.WellFormed) (hTree : tree.IsLinkless)
    {here there : Location} {parts : List String}
    (h : Strides tree purpose here parts (.arrived (.present there)))
    (hHere : (tree.entry? here).isSome) : (tree.entry? there).isSome := by
  generalize hOut : Stretch.arrived (.present there) = out at h
  induction h with
  | done => cases hOut; exact hHere
  | idle _ _ _ _ ih => exact ih hHere hOut
  | @up here _ _ hSearch _ ih =>
      refine ih ?_ hOut
      by_cases hSame : here.dropLast = here
      · rwa [hSame]
      · have hThere := timeless?_isSome_of_directory (isDirectoryAt_of_searchable hSearch)
        have hUp := wf.isDirectoryAt_of_prefix hThere (List.dropLast_prefix _) hSame
        simpa [timeless?] using timeless?_isSome_of_directory hUp
  | enter _ _ _ _ hSome _ _ ih => exact ih hSome hOut
  | stop _ _ _ hLink => rw [hTree] at hLink; cases hLink
  | link => cases hOut
  | free => cases hOut

theorem find_place (hTree : tree.IsLinkless) {destination : Destination}
    (h : tree.find working purpose p = .ok destination) :
    destination.entry = p.place working :=
  (strides_of_find hTree h).entry_eq

/-- A name that is missing is the last one of the components. -/
theorem Strides.getLast?_of_absent {here directory : Location} {parts : List String}
    {name : String} (h : Strides tree purpose here parts (.arrived (.absent directory name))) :
    parts.getLast? = some name := by
  generalize hOut : Stretch.arrived (.absent directory name) = out at h
  have cons {part : String} {rest : List String} (h : rest.getLast? = some name) :
      (part :: rest).getLast? = some name := by
    rw [List.getLast?_cons, h]
    rfl
  induction h with
  | done => cases hOut
  | stop => cases hOut
  | link => cases hOut
  | idle _ _ _ _ ih => exact cons (ih hOut)
  | up _ _ ih => exact cons (ih hOut)
  | enter _ _ _ _ _ _ _ ih => exact cons (ih hOut)
  | free => cases hOut; rfl

theorem getLast?_of_absent (hTree : tree.IsLinkless) {directory : Location} {name : String}
    (h : tree.find working purpose p = .ok (.absent directory name)) :
    p.parts.getLast? = some name :=
  (strides_of_find hTree h).getLast?_of_absent

/-- The entry of a path is what the path leads to. -/
theorem find_entry_of_linkless (hTree : tree.IsLinkless) {there : Location}
    (h : tree.find working .target p = .ok (.present there)) :
    tree.find working .entry p = .ok (.present there) := by
  obtain ⟨entry, hEntry, rfl | hLink⟩ := find_entry_of_target h
  · exact hEntry
  · rw [hTree] at hLink
    cases hLink

/-! Canonical locations -/

theorem linkNamed?_of_linkless (hTree : tree.IsLinkless) : tree.linkNamed? working p = none := by
  unfold linkNamed?
  split
  · exact hTree _
  · rfl

theorem advance_of_linkless (hTree : tree.IsLinkless) {here : Path} (hHere : here.IsResolved)
    (parts : List String) :
    ∃ there, advance tree working [] here (parts.map .component) = .finished there ∧
      there.place working = parts.foldl descend (here.place working) := by
  induction parts generalizing here with
  | nil => exact ⟨here, rfl, rfl⟩
  | cons part rest ih =>
      rw [List.map_cons, advance, List.foldl_cons]
      by_cases hIdle : isIdle part = true
      · rw [if_pos hIdle, descend_idle hIdle]
        exact ih hHere
      · rw [if_neg hIdle]
        by_cases hUp : part = ".."
        · rw [if_pos hUp, hUp, descend_up, ← place_ascend hHere]
          exact ih (isResolved_ascend hHere)
        · have hPart : IsName part := ⟨by simpa using hIdle, hUp⟩
          rw [if_neg hUp, linkNamed?_of_linkless hTree, ← place_child]
          exact ih (hHere.child hPart)

/-- The canonical location of a path is the one that its text gives. -/
theorem settles_of_linkless (hTree : tree.IsLinkless) (hWorking : IsPlain working) (p : Path) :
    tree.Settles working 0 p (p.place working) := by
  obtain ⟨there, hAdvance, hPlace⟩ : ∃ there,
      advance tree working [] p.beginning (p.parts.map .component) = .finished there ∧
        there.place working = p.parts.foldl descend (p.beginning.place working) :=
    advance_of_linkless hTree (isResolved_beginning p) p.parts
  have hBeginning : p.beginning.place working = p.start working := by
    obtain ⟨anchor, parts⟩ := p
    cases anchor <;> rfl
  rw [hBeginning] at hPlace
  apply settles_of_resolveTasks (Nat.zero_le _)
  rw [resolveTasks, hAdvance]
  change Resolved.canonical (there.lexical working).parts = _
  rw [lexical_parts hWorking, hPlace]
  rfl

/-! The names in a directory -/

/-- A directory gives the same refusal for all names of one length, or has an entry of the name or
not. -/
theorem stretch_name (hTree : tree.IsLinkless) (directory : Location) (length : Nat) :
    (∃ errno, ∀ name, IsName name → byteLength name = length →
        stretch tree .entry directory [name] = .failed errno) ∨
      ∀ name, IsName name → byteLength name = length →
        stretch tree .entry directory [name] =
          .arrived (if (tree.entry? (directory ++ [name])).isSome
            then .present (directory ++ [name]) else .absent directory name) := by
  by_cases hDirectory : tree.isDirectoryAt directory
  case neg =>
    exact .inl ⟨.notDirectory, fun name _ _ => stretch_of_not_directory (by simpa using hDirectory)⟩
  by_cases hSearch : tree.isSearchable directory
  case neg =>
    refine .inl ⟨.permission, fun name hName _ => ?_⟩
    refine stretch_of_not_searchable hDirectory (by simpa using hSearch) ?_
    rintro rfl
    exact absurd hName (by decide)
  by_cases hLong : nameLimit < length
  case pos =>
    exact .inl ⟨.nameTooLong, fun name hName hLength =>
      stretch_of_long hName hSearch (hLength ▸ hLong)⟩
  refine .inr fun name hName hLength => ?_
  have hFit : byteLength name ≤ nameLimit := hLength ▸ Nat.le_of_not_lt hLong
  cases hEntry : tree.entry? (directory ++ [name]) with
  | none =>
      rw [stretch_lookup hName hSearch hFit (by simp), hEntry]
      rfl
  | some entry =>
      rw [stretch_enter hName hSearch hFit (by simp) (by simp [hEntry]) (hTree _)]
      rfl

/-- All names of one length below a path are refused alike, or stand in one directory or are missing
there. -/
theorem find_child (hTree : tree.IsLinkless) (working : Location) (p : Path) (length : Nat) :
    (∃ errno, ∀ name, IsName name → byteLength name = length →
        tree.find working .entry (p.child name) = .error errno) ∨
      ∃ directory, ∀ name, IsName name → byteLength name = length →
        tree.find working .entry (p.child name) =
          .ok (if (tree.entry? (directory ++ [name])).isSome
            then .present (directory ++ [name]) else .absent directory name) := by
  obtain ⟨before, hText⟩ := text_child p
  have hBytes (name : String) (hLength : byteLength name = length) :
      byteLength (p.child name).text = byteLength before + length := by
    rw [hText, ← hLength]
    exact String.utf8ByteSize_append
  by_cases hShort : pathLimit ≤ byteLength before + length
  · refine .inl ⟨.nameTooLong, fun name _ hLength => ?_⟩
    simp [find, hBytes name hLength, hShort]
  have hFind (name : String) (hLength : byteLength name = length) :
      tree.find working .entry (p.child name) =
        (stretch tree .entry (p.start working) (p.parts ++ [name])).result :=
    find_of_short hTree (by rwa [hBytes name hLength])
  have hLast (name : String) : stretch tree .entry (p.start working) (p.parts ++ [name]) =
      (stretch tree .target (p.start working) p.parts).onward tree [name] :=
    stretch_append (List.cons_ne_nil name [])
  cases hParts : stretch tree .target (p.start working) p.parts with
  | failed errno =>
      refine .inl ⟨errno, fun name _ hLength => ?_⟩
      rw [hFind name hLength, hLast, hParts]
      rfl
  | link directory target rest => exact absurd hParts (stretch_not_link hTree)
  | arrived destination =>
      cases destination with
      | absent directory missing =>
          refine .inl ⟨.noEntry, fun name _ hLength => ?_⟩
          rw [hFind name hLength, hLast, hParts]
          rfl
      | present directory =>
          rcases stretch_name hTree directory length with ⟨errno, hRefused⟩ | hFound
          · refine .inl ⟨errno, fun name hName hLength => ?_⟩
            rw [hFind name hLength, hLast, hParts, Stretch.onward]
            rw [hRefused name hName hLength]
            rfl
          · refine .inr ⟨directory, fun name hName hLength => ?_⟩
            rw [hFind name hLength, hLast, hParts, Stretch.onward]
            rw [hFound name hName hLength]
            rfl

end Tree

end ConfigGate
