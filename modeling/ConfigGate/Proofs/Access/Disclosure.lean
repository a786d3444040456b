import ConfigGate.Proofs.Access.Confinement
import ConfigGate.Proofs.Access.Listing
import ConfigGate.Proofs.HiddenNames

/-! What a listing discloses. The listing of a directory leaves out the entries whose path, as it is
spelled, is a hidden name. The guard judges by the canonical location instead, so that both agree on an
entry if it stands where its path says, and an entry that is a link, or that is met over one, may be
listed although the guard would not let it be read. -/
namespace ConfigGate

open Act Tree

variable {s : Setting} {root directory : Path} {tree : Tree} {base location : Location}
  {file : Option String} {name : String} {world : World} {request : Request}

namespace Listing

/-- The path of an entry below the root, if `relative` is that of its directory. -/
def spelled (relative name : String) : String :=
  if relative = "" then name else relative ++ "/" ++ name

/-- Below a directory that is spelled by its components, an entry is spelled by one component more. -/
theorem spelled_relative {rest : List String} (hRest : "" ∉ rest)
    (hDirectory : directory = ⟨root.anchor, root.parts ++ rest⟩) :
    ∃ relative, relative? directory root = some relative ∧
      spelled relative name = Path.relativeText (rest ++ [name]) := by
  subst hDirectory
  cases rest with
  | nil =>
      refine ⟨"", by simp [relative?], ?_⟩
      simp [spelled, Path.relativeText, Path.text, Anchor.text]
  | cons first rest =>
      refine ⟨Path.relativeText (first :: rest), ?_, ?_⟩
      · have hNe : (⟨root.anchor, root.parts ++ first :: rest⟩ : Path) ≠ root := by
          intro hSame
          have hLength := congrArg (·.parts.length) hSame
          simp at hLength
        rw [relative?, if_neg hNe, Path.relativeTo?, if_pos rfl, Path.below?_append, Option.map_some]
      · have hText (parts : List String) (hParts : parts ≠ []) :
            Path.relativeText parts = String.intercalate "/" parts := by
          simp [Path.relativeText, Path.text, hParts, Anchor.text]
        have hFirst : first ≠ "" := fun h => hRest (by simp [h])
        have hSome : Path.relativeText (first :: rest) ≠ "" := by
          intro hEmpty
          have hSum := Path.sum_le_byteLength_text ⟨.relative, first :: rest⟩
          change _ ≤ Path.byteLength (Path.relativeText (first :: rest)) at hSum
          rw [hEmpty, List.map_cons, List.sum_cons] at hSum
          simp only [Path.byteLength, String.utf8ByteSize_empty, Nat.le_zero, Nat.add_eq_zero_iff,
            String.utf8ByteSize_eq_zero_iff] at hSum
          exact hFirst hSum.1
        rw [spelled, if_neg hSome, hText _ (by simp), hText _ (by simp),
          String.intercalate_append_of_ne_nil (by simp) (by simp), String.intercalate_singleton]

/-- A name is listed if it is in the directory, is not hidden, and leads somewhere. -/
theorem mem_listed_iff : (∃ listing, listed s directory root tree = .ok listing ∧
      ∃ entry ∈ listing.entries, entry.name = name) ↔
    ∃ relative names, relative? directory root = some relative ∧ directory.hasNul = false ∧
      scan s directory tree = .ok names ∧ name ∈ names ∧ hides s directory relative name = false ∧
      ∃ status, tree.status s.site.working (directory.child name) = .ok status := by
  constructor
  · rintro ⟨listing, h, entry, hMem, rfl⟩
    obtain ⟨relative, names, hRelative, hNul, hScan, rfl⟩ := listed_ok.mp h
    obtain ⟨name, hName, hEntry⟩ := List.mem_filterMap.mp hMem
    obtain ⟨hHides, status, hStatus, rfl⟩ := entryOf_eq_some_iff.mp hEntry
    exact ⟨relative, names, hRelative, hNul, hScan, hName, hHides, status, hStatus⟩
  · rintro ⟨relative, names, hRelative, hNul, hScan, hName, hHides, status, hStatus⟩
    exact ⟨⟨relative, names.filterMap fun name => entryOf s directory relative name tree⟩,
      listed_ok.mpr ⟨relative, names, hRelative, hNul, hScan, rfl⟩, .ofStatus name status,
      List.mem_filterMap.mpr ⟨name, hName, entryOf_eq_some_iff.mpr ⟨hHides, status, hStatus, rfl⟩⟩, rfl⟩

end Listing

namespace Access

/-- A request for a directory comes to what is listed. -/
theorem attempt_perform_listed {listing : Listing} :
    (attempt (perform s ⟨file, none⟩) world).1 = .ok (.listed directory listing) ↔
      ∃ root, (attempt (ConfigRoot.resolve s) world).1 = .ok root ∧
        Guard.decision s root file world.tree = .ok directory ∧
        s.isDirectory directory world.tree = .ok true ∧
        Listing.listed s directory root world.tree = .ok listing := by
  have hPerform (root path : Path) (hRoot : (attempt (ConfigRoot.resolve s) world).1 = .ok root)
      (hDecision : Guard.decision s root file world.tree = .ok path)
      (hDirectory : s.isDirectory path world.tree = .ok true) :
      (attempt (perform s ⟨file, none⟩) world).1 =
        (Listing.listed s path root world.tree).map (.listed path) := by
    have hTarget : (attempt (target s ⟨file, none⟩) world).1 = .ok (path, root) :=
      attempt_target_eq_ok.mpr ⟨hRoot, hDecision⟩
    have hTree : (attempt (target s ⟨file, none⟩) world).2.tree = world.tree :=
      (attempt_target_ok (attempt_eq_of_result hTarget)).2.2.tree
    unfold perform
    rw [attempt_bind_of_ok (attempt_eq_of_result hTarget)]
    dsimp only
    rw [attempt_bind, attempt_ask, hTree, hDirectory]
    dsimp only
    rw [if_pos rfl, attempt_bind, ← hTree, ← (Listing.attempt_list s path root _).1]
    rcases attempt (Listing.list s path root) _ with ⟨_ | listing, after⟩ <;> rfl
  constructor
  · intro h
    obtain ⟨root, hRoot, hDecision, hReply⟩ := attempt_perform_read (attempt_eq_of_result h)
    rcases hReply with ⟨stream, hReply, _⟩ | ⟨path, _, hReply, hDirectory⟩
    · cases hReply
    · cases hReply
      rw [hPerform root directory hRoot hDecision hDirectory] at h
      cases hListed : Listing.listed s directory root world.tree with
      | error failure =>
          rw [hListed] at h
          cases h
      | ok told =>
          rw [hListed] at h
          cases h
          exact ⟨root, hRoot, hDecision, hDirectory, hListed⟩
  · rintro ⟨root, hRoot, hDecision, hDirectory, hListed⟩
    rw [hPerform root directory hRoot hDecision hDirectory, hListed]
    rfl

/-- A request for a directory is answered with what is listed. -/
theorem attempt_handle_listed {listing : Listing} :
    (attempt (handle s ⟨file, none⟩) world).1 = .ok (.listed directory listing) ↔
      ∃ root, (attempt (ConfigRoot.resolve s) world).1 = .ok root ∧
        Guard.decision s root file world.tree = .ok directory ∧
        s.isDirectory directory world.tree = .ok true ∧
        Listing.listed s directory root world.tree = .ok listing := by
  rw [attempt_handle]
  exact attempt_perform_listed

/-- Where all times are dates, a reply can be given as it is. -/
theorem dated_perform {reply : Reply} (hDated : world.tree.IsDated)
    (h : (attempt (perform s request) world).1 = .ok reply) : dated reply = .ok reply := by
  obtain ⟨file, _ | text⟩ := request
  · cases reply with
    | listed path listing =>
        obtain ⟨_, _, _, _, hListed⟩ := attempt_perform_listed.mp h
        rw [dated, Listing.undated?_of_isDated hDated hListed]
    | read | written => rfl
  · obtain ⟨path, rfl⟩ := reply_of_write h
    rfl

/-- Where all times are dates, a request from outside is answered like any other. -/
theorem attempt_call_eq_handle (hDated : world.tree.IsDated) (request : Request) :
    attempt (call s request.demand) world = attempt (handle s request) world := by
  rw [attempt_call_demand, attempt_handle]
  cases h : (attempt (perform s request) world).1 with
  | error failure => rfl
  | ok reply =>
      dsimp only [Except.bind]
      rw [dated_perform hDated h]

/-- The name is in the listing that the request is answered with. -/
def Lists (s : Setting) (file : Option String) (directory : Path) (name : String) (world : World) :
    Prop :=
  ∃ listing, (attempt (handle s ⟨file, none⟩) world).1 = .ok (.listed directory listing) ∧
    ∃ entry ∈ listing.entries, entry.name = name

/-- The guard protects nothing at the path: it leads below the root, to a place that is not hidden. -/
def IsPublic (s : Setting) (root path : Path) (tree : Tree) : Prop :=
  ∃ base location, s.canonical root tree = .ok base ∧ s.canonical path tree = .ok location ∧
    base <+: location ∧ isHiddenAt s base location = false

/-- The paths that are looked up among the hidden names before a name is listed: those of the entry and
of the request, as they are spelled, and that of the canonical location of the directory. -/
inductive LookedUp (s : Setting) (root directory : Path) (file : Option String) (name : String)
    (tree : Tree) : String → Prop
  | entry {relative : String} (hRelative : Listing.relative? directory root = some relative) :
      LookedUp s root directory file name tree (Listing.spelled relative name)
  | request {requested : String} (hFile : file = some requested) :
      LookedUp s root directory file name tree requested
  | directory {requested : String} {parts : List String} (hFile : file = some requested)
      (hParts : Guard.canonicalRelative s directory root tree = .ok (some parts)) :
      LookedUp s root directory file name tree (Path.relativeText parts)

/-- Under other hidden names the guard still admits the directory, unless a path that it looks up is
hidden now. -/
theorem decision_withHidden (h : Guard.decision s root file tree = .ok directory) (hidden : HiddenNames) :
    Guard.decision (s.withHidden hidden) root file tree = .ok directory ↔
      ∀ requested ∈ file, hidden.hides requested = false ∧
        ∀ parts, Guard.canonicalRelative s directory root tree = .ok (some parts) →
          hidden.hides (Path.relativeText parts) = false := by
  obtain ⟨hShown, hFile⟩ := Guard.decision_ok h
  rcases hFile with ⟨rfl, rfl⟩ | ⟨requested, rfl, hVerdict⟩
  · exact iff_of_true h (by simp)
  · obtain ⟨hCandidate, _, hTraversal, hNul, parts, hParts, _⟩ := Guard.verdict_ok_iff.mp hVerdict
    constructor
    · rintro hAnew _ ⟨⟩
      obtain ⟨_, hFile⟩ := Guard.decision_ok hAnew
      rcases hFile with ⟨hNone, _⟩ | ⟨_, ⟨⟩, hAdmitted⟩
      · cases hNone
      · obtain ⟨_, hLiteral, _, _, parts', hParts', hVisible⟩ := Guard.verdict_ok_iff.mp hAdmitted
        refine ⟨(HiddenNames.hides_congr (nameKey_withForwardSlashes requested)).symm.trans hLiteral,
          fun other hOther => ?_⟩
        have hSame := hOther.symm.trans hParts'
        cases hSame
        exact hVisible
    · intro hVisible
      obtain ⟨hLiteral, hRelative⟩ := hVisible requested rfl
      refine Guard.decision_of_verdict (Guard.verdict_ok_iff.mpr ⟨hCandidate, ?_, hTraversal, hNul,
        parts, hParts, hRelative parts hParts⟩) hShown
      exact (HiddenNames.hides_congr (nameKey_withForwardSlashes requested)).trans hLiteral

/-- A name that is listed stays listed under other hidden names, unless a path that is looked up is
hidden now. -/
theorem lists_withHidden (hRoot : (attempt (ConfigRoot.resolve s) world).1 = .ok root)
    (h : Lists s file directory name world) (hidden : HiddenNames) :
    Lists (s.withHidden hidden) file directory name world ↔
      ∀ path, LookedUp s root directory file name world.tree path → hidden.hides path = false := by
  have hLists (other : Setting) (hOther : ConfigRoot.resolve other = ConfigRoot.resolve s)
      (hKind : other.isDirectory = s.isDirectory) : Lists other file directory name world ↔
      Guard.decision other root file world.tree = .ok directory ∧
        s.isDirectory directory world.tree = .ok true ∧
        ∃ listing, Listing.listed other directory root world.tree = .ok listing ∧
          ∃ entry ∈ listing.entries, entry.name = name := by
    unfold Lists
    simp only [attempt_handle_listed, hOther, hRoot, hKind, Except.ok.injEq]
    constructor
    · rintro ⟨listing, ⟨_, rfl, hDecision, hDirectory, hListed⟩, hEntry⟩
      exact ⟨hDecision, hDirectory, listing, hListed, hEntry⟩
    · rintro ⟨hDecision, hDirectory, listing, hListed, hEntry⟩
      exact ⟨listing, ⟨root, rfl, hDecision, hDirectory, hListed⟩, hEntry⟩
  obtain ⟨hDecision, hDirectory, hListed⟩ := (hLists s rfl rfl).mp h
  obtain ⟨relative, found, hRelative, hNul, hScan, hName, hHides, hStatus⟩ :=
    Listing.mem_listed_iff.mp hListed
  simp only [Listing.hides, Bool.or_eq_false_iff] at hHides
  rw [hLists (s.withHidden hidden) (ConfigRoot.resolve_withHidden hidden)
    (Setting.isDirectory_withHidden hidden), decision_withHidden hDecision, Listing.mem_listed_iff]
  constructor
  · rintro ⟨hAdmitted, _, relative', _, hRelative', _, _, _, hHides', _⟩ path hPath
    simp only [Listing.hides, Bool.or_eq_false_iff] at hHides'
    cases hPath with
    | entry hRelative'' =>
        have hSame := hRelative''.symm.trans hRelative'
        cases hSame
        exact hHides'.1.1
    | request hFile => exact (hAdmitted _ hFile).1
    | directory hFile hParts => exact (hAdmitted _ hFile).2 _ hParts
  · intro hVisible
    refine ⟨fun requested hFile => ⟨hVisible _ (.request hFile), fun parts hParts =>
      hVisible _ (.directory hFile hParts)⟩, hDirectory, relative, found, hRelative, hNul, hScan, hName, ?_,
      hStatus⟩
    simp only [Listing.hides, Bool.or_eq_false_iff]
    exact ⟨⟨hVisible _ (.entry hRelative), hHides.1.2⟩, hHides.2⟩

/-- An entry that is no link stands in the directory that was judged. -/
theorem Confined.child (hWorking : Path.IsPlain s.site.working)
    (h : Confined s root directory tree base location)
    (hFit : LinkNamesFit tree s.site.working directory) (hName : Path.IsName name)
    (hNul : (directory.child name).hasNul = false)
    (hLink : tree.linkAt? (location ++ [name]) = none) {status : Tree.Status}
    (hStatus : tree.status s.site.working (directory.child name) = .ok status) :
    Confined s root (directory.child name) tree base (location ++ [name]) := by
  obtain ⟨links, there, hLeads, hPlace, _⟩ := leads_of_find (by decide) h.reached
  have hChild {links' : List Path} {end' : Path} (hEnd : Leads tree s.site.working
      (directory.child name).beginning (directory.child name).parts links' end') :
      links' = links ∧ end'.place s.site.working = location ++ [name] := by
    obtain ⟨middle, inner, outer, rfl, hFirst, hLast⟩ := Leads.split hEnd
    obtain ⟨rfl, rfl⟩ := hFirst.deterministic hLeads
    cases hLast with
    | idle hPart => rw [hName.1] at hPart; cases hPart
    | up => exact absurd rfl hName.2
    | enter _ _ _ _ _ hRest =>
        cases hRest
        exact ⟨List.append_nil _, by rw [Path.place_child, Path.descend_name hName, hPlace]⟩
    | follow _ _ _ hTarget =>
        rw [hPlace, hLink] at hTarget
        cases hTarget
  have hChildFit : LinkNamesFit tree s.site.working (directory.child name) := by
    intro links' end' hEnd
    rw [(hChild hEnd).1]
    exact hFit hLeads
  obtain ⟨place, hReached, _⟩ := status_ok.mp hStatus
  obtain ⟨_, _, hEnd, hThere, _⟩ := leads_of_find (by decide) hReached
  rw [(hChild hEnd).2] at hThere
  subst hThere
  exact ⟨hReached, Setting.canonical_of_find hWorking hNul hChildFit hReached, h.root,
    h.below.trans (List.prefix_append _ _)⟩

/-- Where the directory is spelled as its canonical location is, what is listed of it is not hidden. -/
theorem Confined.visible_child (hWorking : Path.IsPlain s.site.working)
    (h : Confined s root directory tree base location)
    (hSpelled : directory = ⟨root.anchor, root.parts ++ location.drop base.length⟩)
    (hVisible : ∀ path, LookedUp s root directory file name tree path →
      s.service.hidden.hides path = false) :
    isHiddenAt s base (location ++ [name]) = false := by
  have hEmpty : "" ∉ location.drop base.length := by
    obtain ⟨_, there, _, rfl, _⟩ := leads_of_find (by decide) h.reached
    intro hMem
    exact absurd (Path.isPlain_place hWorking "" (List.mem_of_mem_drop hMem)) (by decide)
  obtain ⟨relative, hRelative, hText⟩ := Listing.spelled_relative hEmpty hSpelled
  rw [isHiddenAt, List.drop_append_of_le_length h.below.length_le, ← hText]
  exact hVisible _ (.entry hRelative)

/-- What is known of a listed entry: its name has no dot at the beginning, and it leads somewhere. -/
theorem Lists.status (h : Lists s file directory name world) :
    Guard.isDotName name = false ∧ (directory.child name).hasNul = false ∧
      ∃ status, world.tree.status s.site.working (directory.child name) = .ok status := by
  obtain ⟨listing, hReply, hEntry⟩ := h
  obtain ⟨root, _, _, _, hListed⟩ := attempt_handle_listed.mp hReply
  obtain ⟨_, _, _, _, _, _, hHides, hStatus⟩ := Listing.mem_listed_iff.mp ⟨listing, hListed, hEntry⟩
  simp only [Listing.hides, Bool.or_eq_false_iff] at hHides
  exact ⟨hHides.1.2, hHides.2, hStatus⟩

/-- The guard protects nothing that is listed, whichever names are hidden, exactly if it leads below the
root and the guard looks its canonical location up under one of the names that listing it looks up. -/
theorem isPublic_iff (hRoot : (attempt (ConfigRoot.resolve s) world).1 = .ok root)
    (h : Lists s file directory name world) :
    (∀ names, Lists (s.withHidden (.ofList names)) file directory name world →
        IsPublic (s.withHidden (.ofList names)) root (directory.child name) world.tree) ↔
      ∃ base location, s.canonical root world.tree = .ok base ∧
        s.canonical (directory.child name) world.tree = .ok location ∧ base <+: location ∧
        ∀ names, (HiddenNames.ofList names).hides (Path.relativeText (location.drop base.length)) →
          ∃ path, LookedUp s root directory file name world.tree path ∧
            nameKey path = nameKey (Path.relativeText (location.drop base.length)) := by
  constructor
  · intro hPublic
    obtain ⟨base, location, hBase, hLocation, hBelow, _⟩ :=
      hPublic [] ((lists_withHidden hRoot h _).mpr fun _ _ => rfl)
    refine ⟨base, location, hBase, hLocation, hBelow, fun names hHides => ?_⟩
    -- A list that hides nothing but this location would let the entry be listed.
    obtain ⟨alone, hAlone⟩ := HiddenNames.hides_singleton hHides
    refine Classical.byContradiction fun hNone => ?_
    obtain ⟨base', location', hBase', hLocation', _, hVisible⟩ :=
      hPublic [alone] ((lists_withHidden hRoot h _).mpr fun path hPath => by
        rw [Bool.eq_false_iff, ne_eq, hAlone]
        exact fun hKey => hNone ⟨path, hPath, hKey⟩)
    rw [Setting.canonical_withHidden] at hBase hBase' hLocation hLocation'
    cases hBase.symm.trans hBase'
    cases hLocation.symm.trans hLocation'
    rw [isHiddenAt, Setting.withHidden, Bool.eq_false_iff, ne_eq, hAlone] at hVisible
    exact hVisible rfl
  · rintro ⟨base, location, hBase, hLocation, hBelow, hKeys⟩ names hLists
    refine ⟨base, location, hBase, hLocation, hBelow, ?_⟩
    rw [Bool.eq_false_iff]
    intro hHides
    obtain ⟨path, hPath, hKey⟩ := hKeys names hHides
    have hVisible := (lists_withHidden hRoot h _).mp hLists path hPath
    rw [HiddenNames.hides_congr hKey] at hVisible
    exact Bool.false_ne_true (hVisible.symm.trans hHides)

/-- Whether the guard protects anything that is listed. -/
theorem public_of_listed (hWorking : Path.IsPlain s.site.working) {listing : Listing} {after : World}
    (h : attempt (handle s ⟨file, none⟩) world = (.ok (.listed directory listing), after)) :
    ∃ root, (attempt (ConfigRoot.resolve s) world).1 = .ok root ∧ ∀ entry ∈ listing.entries,
      ((∀ names, Lists (s.withHidden (.ofList names)) file directory entry.name world →
          IsPublic (s.withHidden (.ofList names)) root (directory.child entry.name) world.tree) ↔
        ∃ base location, s.canonical root world.tree = .ok base ∧
          s.canonical (directory.child entry.name) world.tree = .ok location ∧ base <+: location ∧
          ∀ names, (HiddenNames.ofList names).hides (Path.relativeText (location.drop base.length)) →
            ∃ path, LookedUp s root directory file entry.name world.tree path ∧
              nameKey path = nameKey (Path.relativeText (location.drop base.length))) ∧
      (LinkNamesFit world.tree s.site.working directory → entry.name ≠ "" →
        ∃ base location, Confined s root directory world.tree base location ∧
          (world.tree.linkAt? (location ++ [entry.name]) = none →
            Confined s root (directory.child entry.name) world.tree base (location ++ [entry.name]) ∧
            (directory = ⟨root.anchor, root.parts ++ location.drop base.length⟩ →
              IsPublic s root (directory.child entry.name) world.tree))) := by
  have hReply : (attempt (handle s ⟨file, none⟩) world).1 = .ok (.listed directory listing) := by
    rw [h]
  obtain ⟨root, hRoot, hDecision, _⟩ := attempt_handle_listed.mp hReply
  refine ⟨root, hRoot, fun entry hEntry => ?_⟩
  have hLists : Lists s file directory entry.name world := ⟨listing, hReply, entry, hEntry, rfl⟩
  refine ⟨isPublic_iff hRoot hLists, fun hFit hNonempty => ?_⟩
  obtain ⟨base, location, hConfined, _⟩ := confined_of_decision hWorking hDecision hFit
  obtain ⟨hDot, hNul, status, hStatus⟩ := hLists.status
  have hName : Path.IsName entry.name := by
    refine ⟨?_, fun hUp => ?_⟩
    · have hOther : entry.name ≠ "." := by
        intro hHere
        rw [hHere] at hDot
        cases hDot
      simp [Path.isIdle, hNonempty, hOther]
    · rw [hUp] at hDot
      cases hDot
  refine ⟨base, location, hConfined, fun hLink => ?_⟩
  have hChild := hConfined.child hWorking hFit hName hNul hLink hStatus
  refine ⟨hChild, fun hSpelled => ⟨base, _, hChild.root, hChild.canonical, hChild.below, ?_⟩⟩
  exact hConfined.visible_child hWorking hSpelled ((lists_withHidden hRoot hLists s.service.hidden).mp hLists)

/-- A directory with a file, and a link to the directory. -/
def viewTree : Tree where
  entries := [
    (["conf"], .directory 0o755 .recent),
    (["conf", "sub"], .directory 0o755 .recent),
    (["conf", "sub", "key"], .file 0),
    (["conf", "view"], .link "sub")]
  files := [(0, ⟨0o644, [0x73], .recent⟩)]
  nextFile := 1

/-- The directory is listed under its own name. -/
theorem public_of_listed_sub :
    ∃ listing after,
      attempt (handle (plainSetting .atomic) ⟨some "sub", none⟩) (World.initial viewTree) =
        (.ok (.listed (Path.ofLocation ["conf", "sub"]) listing), after) ∧
      listing.entries.map (·.name) = ["key"] ∧
      IsPublic (plainSetting .atomic) (Path.ofLocation ["conf"])
        (Path.ofLocation ["conf", "sub", "key"]) viewTree := by
  have hListed : (attempt (handle (plainSetting .atomic) ⟨some "sub", none⟩)
      (World.initial viewTree)).1 =
      .ok (.listed (Path.ofLocation ["conf", "sub"]) ⟨"sub", [⟨"key", false, some 1, .recent⟩]⟩) := by
    decide +kernel
  have hResolved : (attempt (ConfigRoot.resolve (plainSetting .atomic)) (World.initial viewTree)).1 =
      .ok (Path.ofLocation ["conf"]) := by
    decide
  refine ⟨_, _, attempt_eq_of_result hListed, rfl, ?_⟩
  obtain ⟨root, hRoot, hEntries⟩ := public_of_listed (by decide) (attempt_eq_of_result hListed)
  cases hRoot.symm.trans hResolved
  obtain ⟨base, location, hConfined, hEntry⟩ := (hEntries _ (List.mem_singleton_self _)).2
    (linkNamesFit_of_entries (by simp [Path.ofLocation]) (by decide)) (by decide)
  have hBase : (plainSetting .atomic).canonical (Path.ofLocation ["conf"]) viewTree =
      .ok ["conf"] := by
    decide
  have hLocation : (plainSetting .atomic).canonical (Path.ofLocation ["conf", "sub"]) viewTree =
      .ok ["conf", "sub"] := by
    decide
  cases hConfined.root.symm.trans hBase
  cases hConfined.canonical.symm.trans hLocation
  exact (hEntry (by decide)).2 rfl

/-- Under the name of the link a hidden file is listed, although the guard does not let it be read. -/
theorem listed_over_link :
    let s := (plainSetting .atomic).withHidden (.ofList ["sub/key"])
    Lists s (some "view") (Path.ofLocation ["conf", "view"]) "key" (World.initial viewTree) ∧
    (attempt (handle s ⟨some "view/key", none⟩) (World.initial viewTree)).1 =
      .error (.rejected .hidden "view/key") ∧
    ¬ IsPublic s (Path.ofLocation ["conf"]) (Path.ofLocation ["conf", "view", "key"]) viewTree := by
  intro s
  refine ⟨⟨⟨"view", [⟨"key", false, some 1, .recent⟩]⟩, by decide +kernel, _,
    List.mem_singleton_self _, rfl⟩, by decide, ?_⟩
  rintro ⟨base, location, hBase, hLocation, _, hVisible⟩
  have hRoot : s.canonical (Path.ofLocation ["conf"]) viewTree = .ok ["conf"] := by decide
  have hKey : s.canonical (Path.ofLocation ["conf", "view", "key"]) viewTree =
      .ok ["conf", "sub", "key"] := by
    decide
  cases hBase.symm.trans hRoot
  cases hLocation.symm.trans hKey
  have hHidden : isHiddenAt s ["conf"] ["conf", "sub", "key"] = true := by decide
  exact Bool.false_ne_true (hVisible.symm.trans hHidden)

end Access

end ConfigGate
