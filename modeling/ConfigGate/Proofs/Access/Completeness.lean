import ConfigGate.Proofs.Access.Disclosure
import ConfigGate.Proofs.Access.Rereading

/-! What is missing from a listing. Nothing is that a request for the entry could see: the listing and the
guard look the entry up under one spelling, and both ask the system for what the entry leads to. What the
listing tells of it is then what the request gives, a listing of its own or so many bytes. -/
namespace ConfigGate

open Act Tree

variable {s : Setting} {root directory path : Path} {tree : Tree} {relative name : String} {world : World}

namespace Listing

theorem relative?_isSome_iff : (relative? directory root).isSome ↔
    directory.anchor = root.anchor ∧ root.parts <+: directory.parts := by
  unfold relative? Path.relativeTo? Path.below?
  by_cases hSame : directory = root
  · simp [hSame]
  · by_cases hAnchor : directory.anchor = root.anchor
    · simp [hSame, hAnchor]
    · simp [hSame, hAnchor]

/-- What lies in a directory below the root lies below the root. -/
theorem relative?_child (h : (relative? directory root).isSome) (name : String) :
    (relative? (directory.child name) root).isSome := by
  obtain ⟨hAnchor, hPrefix⟩ := relative?_isSome_iff.mp h
  exact relative?_isSome_iff.mpr ⟨hAnchor, hPrefix.trans (List.prefix_append _ _)⟩

/-- The names of the entries are those of the directory, without the ones of which nothing is told. -/
theorem map_name_entries (s : Setting) (directory : Path) (relative : String) (tree : Tree)
    (names : List String) :
    (names.filterMap fun name => entryOf s directory relative name tree).map (·.name) =
      names.filter fun name => (entryOf s directory relative name tree).isSome := by
  induction names with
  | nil => rfl
  | cons name rest ih =>
      cases hEntry : entryOf s directory relative name tree with
      | none => simpa [hEntry] using ih
      | some entry => simpa [hEntry, (entryOf_some hEntry).1] using ih

theorem scan_ok {names : List String} : scan s directory tree = .ok names ↔
    s.faultAt? .scan = none ∧
      ∃ found, tree.namesIn s.site.working directory = .ok found ∧ names = found.mergeSort (· ≤ ·) := by
  unfold scan
  cases s.faultAt? .scan with
  | some e => simp
  | none => cases tree.namesIn s.site.working directory <;> simp [eq_comm]

/-- The names in a directory can be seen if it may be read. -/
theorem namesIn_of_status {status : Status} (h : tree.status s.site.working directory = .ok status)
    (hKind : status.isDirectory = true) (hMay : mayRead status.mode) :
    ∃ found, tree.namesIn s.site.working directory = .ok found := by
  obtain ⟨place, hFind, hAt⟩ := status_ok.mp h
  unfold statusAt? at hAt
  split at hAt
  · rename_i mode modified hEntry
    cases hAt
    refine ⟨tree.names place, ?_⟩
    simp only [namesIn, locate_ok.mpr hFind, directoryModeAt?, hEntry]
    exact if_pos hMay
  · obtain ⟨data, _, rfl⟩ := Option.map_eq_some_iff.mp hAt
    cases hKind
  · cases hAt

/-- Every name in a directory comes once, in the order of its characters. -/
theorem pairwise_scan (wf : tree.WellFormed) {names : List String}
    (h : scan s directory tree = .ok names) : names.Pairwise (· < ·) := by
  obtain ⟨_, found, hNames, rfl⟩ := scan_ok.mp h
  have hNodup : found.Nodup := by
    unfold namesIn at hNames
    split at hNames
    · cases hNames
    · split at hNames
      · cases hNames
      · split at hNames
        · cases hNames
          exact nodup_names wf _
        · cases hNames
  have hSorted : (found.mergeSort (· ≤ ·)).Nodup := (List.mergeSort_perm _ _).nodup_iff.mpr hNodup
  exact (pairwise_mergeSort found).imp₂ (fun _ _ => Std.lt_of_le_of_ne) hSorted

end Listing

namespace Access

/-- What a request for an entry of a listing gives: a listing of its own if the entry is a directory, and
else a stream with as many bytes as the listing tells. -/
def Agrees (s : Setting) (entry : ListedEntry) (path : Path) (after : World) : Reply → Prop
  | .listed shown _ => shown = path ∧ entry.isDirectory = true ∧ entry.size = none
  | .read shown stream => shown = path ∧ entry.isDirectory = false ∧
    ∃ drained, (attempt (stream.drain s) after).1 = .ok drained ∧ drained.error = none ∧
      entry.size = some drained.bytes.length
  | .written _ _ => False

/-- A path that the guard admits is listed or read, as its status tells. -/
theorem handle_of_decision (hFault : s.fault = none) {requested : Option String}
    (hRoot : (attempt (ConfigRoot.resolve s) world).1 = .ok root)
    (hDecision : Guard.decision s root requested world.tree = .ok path)
    (hBelow : (Listing.relative? path root).isSome) {status : Status}
    (hStatus : world.tree.status s.site.working path = .ok status) (name : String) :
    ∃ reply after, attempt (handle s ⟨requested, none⟩) world = (.ok reply, after) ∧
      Agrees s (.ofStatus name status) path after reply := by
  have hNone (fault : Fault) : s.faultAt? fault = none := by simp [Setting.faultAt?, hFault]
  obtain ⟨_, hNul, _, found, hFound, hMay⟩ := Guard.shown_ok (Guard.decision_ok hDecision).1
  cases hStatus.symm.trans hFound
  have hIs := Setting.isDirectory_of_status hNul hStatus
  cases hKind : status.isDirectory with
  | true =>
      rw [hKind] at hIs
      obtain ⟨names, hNames⟩ := Listing.namesIn_of_status hStatus hKind hMay
      obtain ⟨relative, hRelative⟩ := Option.isSome_iff_exists.mp hBelow
      have hListed := Listing.listed_ok.mpr ⟨relative, _, hRelative, hNul,
        Listing.scan_ok.mpr ⟨hNone .scan, names, hNames, rfl⟩, rfl⟩
      have hReply := attempt_handle_listed.mpr ⟨root, hRoot, hDecision, hIs, hListed⟩
      exact ⟨_, _, attempt_eq_of_result hReply, rfl, hKind, by simp [ListedEntry.ofStatus, hKind]⟩
  | false =>
      rw [hKind] at hIs
      obtain ⟨bytes, hHolds⟩ := Holds.of_status hStatus hKind
      obtain ⟨modified, hTold⟩ := hHolds.status
      obtain ⟨number, _, _, hOpen⟩ := hHolds.openForReading
      rw [hMay, if_pos rfl] at hOpen
      have hReply := attempt_handle_file hRoot hDecision hIs (Stream.opened_ok.mpr ⟨hNone .openFile, hOpen⟩)
      obtain ⟨_, hOpens, hTree⟩ := read_of_handle hRoot (attempt_eq_of_result hReply)
      have hContent := Stream.content_of_holds hHolds hOpens
      refine ⟨_, _, attempt_eq_of_result hReply, rfl, hKind, _, (Stream.attempt_drain _ _).1,
        Stream.error_drained fun n => hNone (.read n), ?_⟩
      rw [Stream.bytes_drained (Stream.error_drained fun n => hNone (.read n)), hTree, hContent]
      rw [Except.ok.inj (hStatus.symm.trans hTold)]
      rfl

/-- A listing leaves the tree as it is, and keeps the root. -/
theorem listed_of_handle {requested : Option String} {listing : Listing} {after : World}
    (h : attempt (handle s ⟨requested, none⟩) world = (.ok (.listed directory listing), after)) :
    after.tree = world.tree ∧ ∃ root, after.root = some root ∧
      (attempt (ConfigRoot.resolve s) world).1 = .ok root ∧
      Listing.listed s directory root world.tree = .ok listing := by
  have hResult : (attempt (handle s ⟨requested, none⟩) world).1 = .ok (.listed directory listing) := by
    rw [h]
  obtain ⟨root, hRoot, _, _, hListed⟩ := attempt_handle_listed.mp hResult
  obtain ⟨last, hPerform, hCounted⟩ := performed_of_handle h
  unfold perform at hPerform
  obtain ⟨⟨path, found⟩, middle, hTarget, hPerform⟩ := attempt_bind_ok.mp hPerform
  obtain ⟨isDirectory, _, hAsk, hPerform⟩ := attempt_bind_ok.mp hPerform
  rw [attempt_ask, Prod.mk.injEq] at hAsk
  obtain ⟨_, rfl⟩ := hAsk
  cases isDirectory with
  | false =>
      obtain ⟨_, _, _, hPerform⟩ := attempt_bind_ok.mp hPerform
      cases hPerform
  | true =>
      obtain ⟨_, _, hList, hPerform⟩ := attempt_bind_ok.mp hPerform
      cases hPerform
      obtain ⟨hFound, _, hQuiet⟩ := attempt_target_ok hTarget
      have hQuietList := (Listing.attempt_list s directory found middle).2
      rw [hList] at hQuietList
      have hQuietEnd := hQuietList.trans hCounted
      cases hRoot.symm.trans hFound
      exact ⟨hQuietEnd.tree.trans hQuiet.tree, root, hQuietEnd.root.trans (root_of_target hTarget), hRoot, hListed⟩

end Access

end ConfigGate
