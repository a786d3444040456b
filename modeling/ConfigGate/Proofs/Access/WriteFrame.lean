import ConfigGate.Proofs.Access.Confinement
import ConfigGate.Proofs.Access.Write

/-! What a successful write changes. It changes one entry, but which one depends on the strategy: under
the atomic strategy the entry that the path itself names, and under the other the file that the path
leads to. They differ where the path ends at a link. -/
namespace ConfigGate

open Act Tree

namespace Tree

variable {before after : Tree} {place : Location} {bytes : Bytes} {data : FileData}

/-- The file at the location has the new contents. All other entries are what they were, and so are
their contents unless they are further names of the file that stood at the location. -/
structure WritesOnly (before after : Tree) (place : Location) (bytes : Bytes) : Prop where
  written : ∃ number data, after.fileAt? place = some number ∧
    after.data? number = some data ∧ data.bytes = bytes
  entries : ∀ location, location ≠ place → after.timeless? location = before.timeless? location
  contents : ∀ location number, location ≠ place → before.fileAt? location = some number →
    before.fileAt? place ≠ some number → after.data? number = before.data? number

theorem Gains.writesOnly (h : before.Gains after place data) (wf : before.WellFormed) :
    WritesOnly before after place data.bytes where
  written := ⟨before.nextFile, data, h.fileAt?_place, h.data?_place, rfl⟩
  entries location hNe := by rw [h.timeless, if_neg hNe]
  contents location number _ hFile _ := by
    rw [h.data, if_neg (Nat.ne_of_lt (wf.lt_nextFile hFile))]

theorem Rewrites.writesOnly {number : Nat} (h : before.Rewrites after number data)
    (hFile : before.fileAt? place = some number) : WritesOnly before after place data.bytes where
  written := by
    refine ⟨number, data, ?_, ?_, rfl⟩
    · rw [fileAt?_congr after (h.timeless place), hFile]
    · rw [h.data, if_pos rfl]
  entries location _ := h.timeless location
  contents location n _ _ hOther := by
    rw [h.data, if_neg]
    rintro rfl
    exact hOther hFile

end Tree

/-- What a write finds: the entry that a path names, or what the path leads to. -/
def WriteStrategy.finds : WriteStrategy → Purpose
  | .atomic => .entry
  | .overwrite => .target

namespace Access

variable {s : Setting} {world : World}

theorem writesOnly_of_stages (wf : world.tree.WellFormed) {path : Path} {status : Status}
    (hStatus : world.tree.status s.site.working path = .ok status) {text : String} {after : World}
    (h : Write.stages s path text world = (.ok (), after)) :
    ∃ place, world.tree.find s.site.working s.service.strategy.finds path = .ok (.present place) ∧
      WritesOnly world.tree after.tree place (Text.Utf8.encode text) := by
  cases hStrategy : s.service.strategy with
  | atomic =>
      have hEnds := Write.stages_atomic hStrategy wf hStatus text
      rw [h] at hEnds
      cases hEnds with
      | replaced _ _ hFind _ _ hGains => exact ⟨_, hFind, hGains.writesOnly wf⟩
  | overwrite =>
      have hEnds := Write.stages_overwrite hStrategy wf hStatus text
      rw [h] at hEnds
      cases hEnds with
      | rewritten _ _ hFind hFile _ hRewrites => exact ⟨_, hFind, hRewrites.writesOnly hFile⟩

/-- The canonical location of the target is the one that was judged. A request without a name is about
the root itself. -/
theorem judged_of_decision {root path : Path} {file : Option String} {tree : Tree}
    {location : Location} (hDecision : Guard.decision s root file tree = .ok path)
    (hCanonical : s.canonical path tree = .ok location) :
    ∃ base, s.canonical root tree = .ok base ∧ base <+: location ∧
      (∀ name ∈ file, path = root.join (Path.parse (withForwardSlashes name)) ∧
        isHiddenAt s base location = false) ∧
      (file = none → path = root ∧ location = base) := by
  obtain ⟨_, hFile⟩ := Guard.decision_ok hDecision
  rcases hFile with ⟨rfl, rfl⟩ | ⟨name, rfl, hVerdict⟩
  · exact ⟨location, hCanonical, List.prefix_refl _, by simp, fun _ => ⟨rfl, rfl⟩⟩
  · obtain ⟨hPath, other, base, hOther, hBase, hBelow, hVisible⟩ := Guard.verdict_ok hVerdict
    rw [hCanonical] at hOther
    cases hOther
    refine ⟨base, hBase, hBelow, ?_, by simp⟩
    rintro _ ⟨⟩
    exact ⟨hPath, hVisible⟩

/-- Where all links on the way have names that the system can look up, the place that was judged is
the one place that a write changes, unless the atomic strategy meets a link at the end of the path. -/
theorem writesOnly_iff (hWorking : Path.IsPlain s.site.working)
    {path : Path} {after : Tree} {text : String} {place changed : Location}
    (hCanonical : s.canonical path world.tree = .ok place)
    (hFind : world.tree.find s.site.working s.service.strategy.finds path = .ok (.present changed))
    (hWrites : WritesOnly world.tree after changed (Text.Utf8.encode text))
    {status : Status} (hStatus : world.tree.status s.site.working path = .ok status)
    (hFit : LinkNamesFit world.tree s.site.working path) :
    WritesOnly world.tree after place (Text.Utf8.encode text) ↔
      (s.service.strategy = .atomic →
        world.tree.find s.site.working .entry path = .ok (.present place)) := by
  obtain ⟨there, hThere, _⟩ := status_ok.mp hStatus
  have hJudged := Setting.canonical_of_find hWorking (Setting.hasNul_of_canonical hCanonical) hFit
    hThere
  rw [hCanonical] at hJudged
  cases hJudged
  cases hStrategy : s.service.strategy with
  | overwrite =>
      rw [hStrategy] at hFind
      have hSame : Except.ok (Destination.present changed) = .ok (.present place) :=
        hFind.symm.trans hThere
      cases hSame
      exact ⟨fun _ hAtomic => (nomatch hAtomic), fun _ => hWrites⟩
  | atomic =>
      rw [hStrategy] at hFind
      change world.tree.find s.site.working .entry path = _ at hFind
      constructor
      · intro hOnly _
        obtain ⟨entry, hEntry, hSame | hLink⟩ := find_entry_of_target hThere
        · rw [hEntry, hSame]
        · have hSame : Except.ok (Destination.present changed) = .ok (.present entry) :=
            hFind.symm.trans hEntry
          cases hSame
          apply Decidable.byContradiction
          intro hOther
          have hNe : changed ≠ place := by
            rintro rfl
            exact hOther hEntry
          obtain ⟨number, _, hFile, _⟩ := hWrites.written
          rw [fileAt?_congr after (hOnly.entries changed hNe)] at hFile
          obtain ⟨target, hTarget⟩ := Option.isSome_iff_exists.mp hLink
          rw [fileAt?_eq, (timeless?_eq_link world.tree).mpr hTarget] at hFile
          cases hFile
      · intro hEntry
        have hSame : Except.ok (Destination.present changed) = .ok (.present place) :=
          hFind.symm.trans (hEntry rfl)
        cases hSame
        exact hWrites

/-- A successful write changes one entry. It is the place that was judged, which lies below the root
and is not hidden, as long as the names of the links on the way are short enough for the system to look
them up and, under the atomic strategy, the path does not end at a link. A link at the end of the path is
replaced itself. -/
theorem frame_of_write (wf : world.tree.WellFormed) (hWorking : Path.IsPlain s.site.working)
    {file : Option String} {text : String} {reply : Reply} {after : World}
    (h : attempt (handle s ⟨file, some text⟩) world = (.ok reply, after)) :
    ∃ root base place changed, (attempt (ConfigRoot.resolve s) world).1 = .ok root ∧
      s.canonical root world.tree = .ok base ∧ s.canonical reply.path world.tree = .ok place ∧
      base <+: place ∧
      (∀ name ∈ file, reply.path = root.join (Path.parse (withForwardSlashes name)) ∧
        isHiddenAt s base place = false) ∧
      (file = none → s.isDirectory root world.tree = .ok false ∧ place = base) ∧
      world.tree.find s.site.working s.service.strategy.finds reply.path = .ok (.present changed) ∧
      WritesOnly world.tree after.tree changed (Text.Utf8.encode text) ∧
      (LinkNamesFit world.tree s.site.working reply.path →
        (WritesOnly world.tree after.tree place (Text.Utf8.encode text) ↔
          (s.service.strategy = .atomic →
            world.tree.find s.site.working .entry reply.path = .ok (.present place)))) ∧
      (world.tree.isDirectoryAt s.site.working → world.tree.LinksDescend →
        ".." ∉ reply.path.parts →
        world.tree.find s.site.working .target reply.path = .ok (.present place) →
        LinkNamesFit world.tree s.site.working reply.path) := by
  obtain ⟨middle, hPerform, hQuiet⟩ := performed_of_handle h
  rw [hQuiet.tree]
  rcases perform_write_cases hPerform with
    ⟨⟨failure, hFailure⟩, _⟩ | ⟨path, root, key, before, hTarget, hPrepared, hTree, hResult, hAfter⟩
  · cases hFailure
  · obtain ⟨hRoot, hDecision, _⟩ := attempt_target_ok (attempt_eq_of_result hTarget)
    obtain ⟨hDirectory, hCanonical⟩ := Write.prepared_ok.mp hPrepared
    obtain ⟨base, hBase, hBelow, hNamed, hUnnamed⟩ := judged_of_decision hDecision hCanonical
    obtain ⟨status, hStatus⟩ := status_of_target hTarget
    rw [hAfter]
    rcases hStages : Write.stages s path text before with ⟨e | done, final⟩
    · rw [hStages] at hResult
      cases hResult
    · rw [hStages] at hResult
      cases hResult
      obtain ⟨changed, hFind, hWrites⟩ :=
        writesOnly_of_stages (hTree ▸ wf) (hTree ▸ hStatus) hStages
      rw [hTree] at hFind hWrites
      refine ⟨root, base, key, changed, hRoot, hBase, hCanonical, hBelow, hNamed, ?_, hFind, hWrites,
        writesOnly_iff hWorking hCanonical hFind hWrites hStatus, ?_⟩
      · intro hNone
        obtain ⟨rfl, hSame⟩ := hUnnamed hNone
        exact ⟨hDirectory, hSame⟩
      · intro hHome hLinks hUp hReached
        exact linkNamesFit_of_judged wf hWorking hHome hLinks hUp hReached hCanonical

/-- The file is written to under its own name, and under the overwrite strategy also through the link. -/
theorem frame_of_write_real :
    (∃ after, attempt (handle (plainSetting .atomic) ⟨some "real.txt", some "new"⟩)
          (World.initial linkedTree) =
        (.ok (.written (Path.ofLocation ["conf", "real.txt"]) "new"), after) ∧
      WritesOnly linkedTree after.tree ["conf", "real.txt"] (Text.Utf8.encode "new")) ∧
    ∃ after, attempt (handle (plainSetting .overwrite) ⟨some "link.txt", some "new"⟩)
          (World.initial linkedTree) =
        (.ok (.written (Path.ofLocation ["conf", "link.txt"]) "new"), after) ∧
      WritesOnly linkedTree after.tree ["conf", "real.txt"] (Text.Utf8.encode "new") := by
  have wf : linkedTree.WellFormed := by decide
  have hFit (location : Location) : LinkNamesFit linkedTree [] (Path.ofLocation location) :=
    linkNamesFit_of_entries (by simp [Path.ofLocation]) (by decide)
  constructor
  · have hReply : (attempt (handle (plainSetting .atomic) ⟨some "real.txt", some "new"⟩)
        (World.initial linkedTree)).1 =
          .ok (.written (Path.ofLocation ["conf", "real.txt"]) "new") := by
      decide
    have hJudged : (plainSetting .atomic).canonical (Path.ofLocation ["conf", "real.txt"])
        linkedTree = .ok ["conf", "real.txt"] := by
      decide
    obtain ⟨_, _, place, _, _, _, hPlace, _, _, _, _, _, hIff, _⟩ :=
      frame_of_write wf (by decide) (attempt_eq_of_result hReply)
    have hSame : Except.ok place = .ok ["conf", "real.txt"] := hPlace.symm.trans hJudged
    cases hSame
    exact ⟨_, attempt_eq_of_result hReply, (hIff (hFit _)).mpr fun _ => by decide⟩
  · have hReply : (attempt (handle (plainSetting .overwrite) ⟨some "link.txt", some "new"⟩)
        (World.initial linkedTree)).1 =
          .ok (.written (Path.ofLocation ["conf", "link.txt"]) "new") := by
      decide
    have hJudged : (plainSetting .overwrite).canonical (Path.ofLocation ["conf", "link.txt"])
        linkedTree = .ok ["conf", "real.txt"] := by
      decide
    obtain ⟨_, _, place, _, _, _, hPlace, _, _, _, _, _, hIff, _⟩ :=
      frame_of_write wf (by decide) (attempt_eq_of_result hReply)
    have hSame : Except.ok place = .ok ["conf", "real.txt"] := hPlace.symm.trans hJudged
    cases hSame
    exact ⟨_, attempt_eq_of_result hReply,
      (hIff (hFit _)).mpr fun hAtomic => absurd hAtomic (by decide)⟩

/-- Under the atomic strategy a write through a link replaces the link. The file that was judged keeps
its contents. -/
theorem link_replaced_by_write :
    ∃ after, attempt (handle (plainSetting .atomic) ⟨some "link.txt", some "new"⟩)
          (World.initial linkedTree) =
        (.ok (.written (Path.ofLocation ["conf", "link.txt"]) "new"), after) ∧
      (plainSetting .atomic).canonical (Path.ofLocation ["conf", "link.txt"]) linkedTree =
        .ok ["conf", "real.txt"] ∧
      after.tree.node? ["conf", "real.txt"] = linkedTree.node? ["conf", "real.txt"] ∧
      after.tree.linkAt? ["conf", "link.txt"] = none ∧
      ¬ WritesOnly linkedTree after.tree ["conf", "real.txt"] (Text.Utf8.encode "new") := by
  have hReply : (attempt (handle (plainSetting .atomic) ⟨some "link.txt", some "new"⟩)
      (World.initial linkedTree)).1 =
        .ok (.written (Path.ofLocation ["conf", "link.txt"]) "new") := by
    decide
  have hLink : (attempt (handle (plainSetting .atomic) ⟨some "link.txt", some "new"⟩)
      (World.initial linkedTree)).2.tree.linkAt? ["conf", "link.txt"] = none := by
    decide
  refine ⟨_, attempt_eq_of_result hReply, by decide, by decide, hLink, ?_⟩
  intro hOnly
  rw [linkAt?_congr _ (hOnly.entries ["conf", "link.txt"] (by decide))] at hLink
  cases hLink

end Access

end ConfigGate
