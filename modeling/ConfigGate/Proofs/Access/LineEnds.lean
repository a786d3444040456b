import ConfigGate.Proofs.Access.Lookup
import ConfigGate.Proofs.Access.Rereading
import ConfigGate.Proofs.Text.Utf8

/-! The text that the lookup gives of a file, and the bytes that an access streams. Both come from the same
file, and the text is what the bytes encode up to its line ends, which the lookup unifies. -/
namespace ConfigGate

open Act Tree

/-! Line ends -/

namespace Text

variable {text found : List Char}

/-- A character that is no carriage return is taken over. -/
theorem unifyLineEndsAfter_cons {c : Char} (h : c ≠ '\r') (rest found : List Char) :
    unifyLineEndsAfter (c :: rest) found = unifyLineEndsAfter rest (c :: found) := by
  rw [unifyLineEndsAfter]
  · exact fun _ hReturn => absurd hReturn h
  · exact h

/-- No carriage return is left. -/
theorem not_mem_unifyLineEndsAfter (h : '\r' ∉ found) : '\r' ∉ unifyLineEndsAfter text found := by
  induction text, found using unifyLineEndsAfter.induct with
  | case1 found => simpa [unifyLineEndsAfter] using h
  | case2 rest found ih => exact ih (by simpa using h)
  | case3 rest found hNext ih =>
      rw [unifyLineEndsAfter]
      · exact ih (by simpa using h)
      · exact hNext
  | case4 c rest found _ hReturn ih =>
      rw [unifyLineEndsAfter_cons hReturn]
      exact ih (by simpa [Ne.symm hReturn] using h)

theorem unifyLineEndsAfter_of_not_mem (h : '\r' ∉ text) : unifyLineEndsAfter text found = found.reverse ++ text := by
  induction text generalizing found with
  | nil => simp [unifyLineEndsAfter]
  | cons c rest ih =>
      obtain ⟨hFirst, hRest⟩ : '\r' ≠ c ∧ '\r' ∉ rest := by simpa using h
      rw [unifyLineEndsAfter_cons (Ne.symm hFirst), ih hRest]
      simp

/-- A text is left as it is if it has no carriage return. -/
theorem unifyLineEnds_eq_self : unifyLineEnds text = text ↔ '\r' ∉ text := by
  constructor
  · intro hSame
    rw [← hSame]
    exact not_mem_unifyLineEndsAfter List.not_mem_nil
  · intro hNone
    exact unifyLineEndsAfter_of_not_mem hNone

end Text

variable {s : Setting} {tree : Tree} {world after : World} {root path : Path} {file text : String}
  {stream : Stream} {drained : Drained} {reply : Reply}

/-! One file for both readers -/

/-- A stream that has not broken off has given the whole file. -/
theorem Stream.bytes_of_drain (h : attempt (stream.drain s) world = (.ok drained, after))
    (hWhole : drained.error = none) : drained.bytes = stream.content world.tree ∧ after.tree = world.tree := by
  obtain ⟨hResult, hQuiet⟩ := attempt_drain (s := s) stream world
  rw [h] at hResult hQuiet
  cases hResult
  exact ⟨bytes_drained hWhole, hQuiet.tree⟩

/-- The lookup opens a file as a stream does, and decodes its bytes. -/
theorem Lookup.textAt_of_content (hOpen : tree.openForReading s.site.working path = .ok stream.file)
    (hBytes : stream.content tree = Text.Utf8.encode text) :
    textAt s path tree = .ok (String.ofList (Text.unifyLineEnds text.toList)) := by
  rw [Stream.content] at hBytes
  unfold textAt
  rw [hOpen]
  dsimp only
  rw [hBytes, Text.Utf8.decode_encode]

namespace Access

/-- The lookup reads the file that is streamed. -/
theorem lookup_of_read {middle : World} (hRoot : (attempt (ConfigRoot.resolve s) world).1 = .ok root)
    (hHandle : attempt (handle s ⟨some file, none⟩) world = (.ok (.read path stream), middle))
    (hDrain : attempt (stream.drain s) middle = (.ok drained, after)) (hWhole : drained.error = none)
    (hBytes : drained.bytes = Text.Utf8.encode text) :
    (attempt (Lookup.contents s root file) after).1 =
      .ok (String.ofList (Text.unifyLineEnds text.toList)) := by
  obtain ⟨hDecision, hOpen, hMiddle⟩ := read_of_handle hRoot hHandle
  have hVerdict := Guard.verdict_of_decision hDecision
  obtain ⟨hContent, hAfter⟩ := Stream.bytes_of_drain hDrain hWhole
  have hTree := hAfter.trans hMiddle
  rw [hMiddle, hBytes] at hContent
  rw [Lookup.contents_eq_contentsBy, Lookup.attempt_contentsBy, hTree, hVerdict]
  dsimp only
  rw [Lookup.textAt_of_content hOpen hContent.symm]
  rfl

end Access

/-! After a write -/

namespace Access

/-- A write goes to the path that the guard admits, and keeps the root for later. -/
theorem write_of_handle (h : attempt (handle s ⟨some file, some text⟩) world = (.ok reply, after)) :
    ∃ root path before done, Guard.verdict s root file world.tree = .ok path ∧
      before.root = some root ∧ before.tree = world.tree ∧
      (∃ status, world.tree.status s.site.working path = .ok status) ∧
      attempt (Write.file s path text) before = (.ok (), done) ∧ World.Quiet done after := by
  obtain ⟨last, hPerform, hCounted⟩ := performed_of_handle h
  unfold perform at hPerform
  obtain ⟨⟨path, root⟩, before, hTarget, hPerform⟩ := attempt_bind_ok.mp hPerform
  obtain ⟨⟨⟩, done, hFile, hPerform⟩ := attempt_bind_ok.mp hPerform
  cases hPerform
  obtain ⟨hRoot, hDecision, hQuiet⟩ := attempt_target_ok hTarget
  have hFound := root_of_target hTarget
  have hStatus := status_of_target (congrArg Prod.fst hTarget)
  exact ⟨root, path, before, _, Guard.verdict_of_decision hDecision, hFound, hQuiet.tree, hStatus, hFile,
    hCounted⟩

/-- A stream that is opened after a write to the same path gives what has been written. -/
theorem content_of_write {contents : String} {before middle : World} (wf : before.tree.WellFormed)
    (hWrite : attempt (handle s ⟨some file, some contents⟩) before = (.ok reply, world))
    (hRoot : (attempt (ConfigRoot.resolve s) world).1 = .ok root)
    (hHandle : attempt (handle s ⟨some file, none⟩) world = (.ok (.read path stream), middle)) :
    stream.content world.tree = Text.Utf8.encode contents := by
  obtain ⟨found, target, start, done, hVerdict, hFound, hTree, ⟨status, hStatus⟩, hFile, hDone⟩ :=
    write_of_handle hWrite
  have hLeaves := Write.leaves_of_file (hTree ▸ wf) (hTree ▸ hStatus) hFile
  have hKept : world.root = some found := (hDone.root.trans hLeaves.root).trans hFound
  rw [ConfigRoot.attempt_resolve_of_root hKept] at hRoot
  cases hRoot
  obtain ⟨hDecision, hOpen, _⟩ := read_of_handle (by rw [ConfigRoot.attempt_resolve_of_root hKept]) hHandle
  have hAdmitted := Guard.verdict_of_decision hDecision
  cases (Guard.verdict_ok hVerdict).1.trans (Guard.verdict_ok hAdmitted).1.symm
  have hSame : world.tree = done.tree := hDone.tree
  exact Stream.content_of_holds (hSame ▸ hLeaves.holds) hOpen

/-- The lookup gives the text of the bytes that are streamed, with unified line ends. It is this text itself
exactly if no carriage return is in it, and so it is with a text that has been written to the file before. -/
theorem lookup_agrees_iff {middle : World} (hRoot : (attempt (ConfigRoot.resolve s) world).1 = .ok root)
    (hHandle : attempt (handle s ⟨some file, none⟩) world = (.ok (.read path stream), middle))
    (hDrain : attempt (stream.drain s) middle = (.ok drained, after)) (hWhole : drained.error = none) :
    (∀ ⦃text⦄, drained.bytes = Text.Utf8.encode text →
      (attempt (Lookup.contents s root file) after).1 =
          .ok (String.ofList (Text.unifyLineEnds text.toList)) ∧
        ((attempt (Lookup.contents s root file) after).1 = .ok text ↔ '\r' ∉ text.toList)) ∧
    ∀ ⦃before contents reply⦄, before.tree.WellFormed →
      attempt (handle s ⟨some file, some contents⟩) before = (.ok reply, world) →
      drained.bytes = Text.Utf8.encode contents ∧
        ((attempt (Lookup.contents s root file) after).1 = .ok contents ↔ '\r' ∉ contents.toList) := by
  have hAgrees {text : String} (hBytes : drained.bytes = Text.Utf8.encode text) :
      (attempt (Lookup.contents s root file) after).1 = .ok text ↔ '\r' ∉ text.toList := by
    rw [lookup_of_read hRoot hHandle hDrain hWhole hBytes, Except.ok.injEq, ← Text.unifyLineEnds_eq_self,
      ← String.toList_inj, String.toList_ofList]
  refine ⟨fun text hBytes => ⟨lookup_of_read hRoot hHandle hDrain hWhole hBytes, hAgrees hBytes⟩, ?_⟩
  intro before contents reply wf hWrite
  obtain ⟨_, _, hMiddle⟩ := read_of_handle hRoot hHandle
  obtain ⟨hContent, _⟩ := Stream.bytes_of_drain hDrain hWhole
  rw [hMiddle, content_of_write wf hWrite hRoot hHandle] at hContent
  exact ⟨hContent, hAgrees hContent⟩

/-- What is written through a link is streamed and looked up through it. -/
theorem lookup_agrees_link :
    let s := plainSetting .overwrite
    ∃ world middle after stream drained,
      attempt (handle s ⟨some "link.txt", some "new"⟩) (World.initial linkedTree) =
          (.ok (.written (Path.ofLocation ["conf", "link.txt"]) "new"), world) ∧
        attempt (handle s ⟨some "link.txt", none⟩) world =
          (.ok (.read (Path.ofLocation ["conf", "link.txt"]) stream), middle) ∧
        attempt (stream.drain s) middle = (.ok drained, after) ∧
        drained.bytes = Text.Utf8.encode "new" ∧
        (attempt (Lookup.contents s (Path.ofLocation ["conf"]) "link.txt") after).1 = .ok "new" := by
  intro s
  let world := (attempt (handle s ⟨some "link.txt", some "new"⟩) (World.initial linkedTree)).2
  let stream : Stream := ⟨Path.ofLocation ["conf", "link.txt"], 0, 0⟩
  let middle := (attempt (handle s ⟨some "link.txt", none⟩) world).2
  have hWrite : (attempt (handle s ⟨some "link.txt", some "new"⟩) (World.initial linkedTree)).1 =
      .ok (.written (Path.ofLocation ["conf", "link.txt"]) "new") := by
    decide
  have hRoot : (attempt (ConfigRoot.resolve s) world).1 = .ok (Path.ofLocation ["conf"]) := by
    decide
  have hHandle : (attempt (handle s ⟨some "link.txt", none⟩) world).1 =
      .ok (.read (Path.ofLocation ["conf", "link.txt"]) stream) := by
    decide
  have hDrain : (attempt (stream.drain s) middle).1 = .ok ⟨[Text.Utf8.encode "new"], none⟩ := by
    decide
  obtain ⟨_, hWritten⟩ :=
    lookup_agrees_iff hRoot (attempt_eq_of_result hHandle) (attempt_eq_of_result hDrain) rfl
  obtain ⟨hBytes, hLookup⟩ := hWritten (by decide) (attempt_eq_of_result hWrite)
  exact ⟨world, middle, _, stream, _, attempt_eq_of_result hWrite, attempt_eq_of_result hHandle,
    attempt_eq_of_result hDrain, hBytes, hLookup.mpr (by decide)⟩

/-- A carriage return before a line feed is streamed, and the lookup drops it. -/
theorem lookup_differs_return :
    let s := plainSetting .atomic
    let tree := singleTree "a.txt" ⟨0o644, Text.Utf8.encode "a\r\nb", .recent⟩
    ∃ middle after stream drained,
      attempt (handle s ⟨some "a.txt", none⟩) (World.initial tree) =
          (.ok (.read (Path.ofLocation ["conf", "a.txt"]) stream), middle) ∧
        attempt (stream.drain s) middle = (.ok drained, after) ∧ drained.error = none ∧
        drained.bytes = Text.Utf8.encode "a\r\nb" ∧
        (attempt (Lookup.contents s (Path.ofLocation ["conf"]) "a.txt") after).1 = .ok "a\nb" ∧
        "a\nb" ≠ "a\r\nb" := by
  intro s tree
  let stream : Stream := ⟨Path.ofLocation ["conf", "a.txt"], 0, 0⟩
  let middle := (attempt (handle s ⟨some "a.txt", none⟩) (World.initial tree)).2
  have hHandle : (attempt (handle s ⟨some "a.txt", none⟩) (World.initial tree)).1 =
      .ok (.read (Path.ofLocation ["conf", "a.txt"]) stream) := by
    decide
  have hDrain : (attempt (stream.drain s) middle).1 = .ok ⟨[Text.Utf8.encode "a\r\nb"], none⟩ := by
    decide
  exact ⟨middle, _, stream, _, attempt_eq_of_result hHandle, attempt_eq_of_result hDrain, rfl, by decide,
    by decide, by decide⟩

end Access

end ConfigGate
