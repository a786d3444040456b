import ConfigGate.Proofs.Access.Guard
import ConfigGate.Proofs.Tree.Change

/-! How a write ends. One law for each stage of a write tells what the stage does while the private file
is there; put together they tell what a whole write leaves behind when nothing comes in between. -/
namespace ConfigGate

open Act Tree

namespace WriteStage

variable {s : Setting} {target p : Path} {bytes : Bytes} {world : World} {place : Location}
  {number : Nat} {data : FileData}

/-! Single stages -/

theorem run_openPrivate (h : world.tree.IsPrivate s.site.working p place number)
    (hData : world.tree.data? number = some data) (hMay : mayWrite data.mode) :
    run s target bytes (.openPrivate p) world =
      match s.faultAt? .openFile with
      | some e => (.next (.discard p e), world)
      | none => (.next (.fillPrivate p number), { world with
          tree := world.tree.change number (·.rewritten []) }) := by
  unfold run
  dsimp only
  cases s.faultAt? .openFile with
  | some e => rfl
  | none => rw [openForWriting_file (h.found .creation) h.file hData hMay]

/-- Copying the mode changes the mode of the private file at most. -/
theorem run_copyMode (target : Path) (bytes : Bytes)
    (h : world.tree.IsPrivate s.site.working p place number) :
    (∃ e, run s target bytes (.copyMode p) world = (.next (.discard p e), world)) ∨
      ∃ status, world.tree.status s.site.working target = .ok status ∧
        run s target bytes (.copyMode p) world = (.next (.replace p), { world with
          tree := world.tree.change number fun data => { data with mode := status.mode } }) := by
  unfold run
  dsimp only
  split
  · exact .inl ⟨_, rfl⟩
  · cases hStatus : world.tree.status s.site.working target with
    | error errno => exact .inl ⟨_, rfl⟩
    | ok status =>
        refine .inr ⟨status, rfl, ?_⟩
        dsimp only
        rw [setMode_file (h.found .target) h.file]

/-- Replacing the target moves the private file. -/
theorem run_replace (target : Path) (bytes : Bytes)
    (h : world.tree.IsPrivate s.site.working p place number) :
    (∃ e, run s target bytes (.replace p) world = (.next (.discard p e), world)) ∨
      ∃ destination, world.tree.find s.site.working .entry target = .ok destination ∧
        world.tree.isOpenToChange destination.entry.dropLast ∧
        world.tree.isDirectoryAt destination.entry = false ∧
        run s target bytes (.replace p) world = (.finished, { world with
          tree := rename.move world.tree place destination.entry (.file number) }) := by
  unfold run
  dsimp only
  split
  · exact .inl ⟨_, rfl⟩
  · cases hRename : world.tree.rename s.site.working p target with
    | error errno => exact .inl ⟨_, rfl⟩
    | ok tree =>
        obtain ⟨destination, hFind, _, hOpen, hOver, rfl⟩ :=
          (rename_file (h.found .entry) h.file).mp hRename
        exact .inr ⟨destination, hFind, hOpen, hOver, rfl⟩

theorem run_discard (h : world.tree.IsPrivate s.site.working p place number) (e : SystemError) :
    run s target bytes (.discard p e) world =
      (.failed e, { world with tree := world.tree.take place }) := by
  unfold run
  dsimp only
  rw [remove_file (h.found .entry) h.file h.isOpen]

/-! A whole write -/

/-- The world has a private file beside what there was before. -/
structure HasPrivate (s : Setting) (before world : World) (p : Path) (place : Location)
    (data : FileData) : Prop where
  quiet : World.Quiet { before with tree := world.tree, temporaries := world.temporaries } world
  wf : world.tree.WellFormed
  free : before.tree.timeless? place = none
  gains : before.tree.Gains world.tree place data
  isPrivate : world.tree.IsPrivate s.site.working p place before.tree.nextFile

/-- How a write under the atomic strategy ends: what there was before is there again, or a new file
with the new contents stands where the target stood, and nothing else is different. -/
inductive Ends (s : Setting) (target : Path) (bytes : Bytes) (before : World) :
    Except SystemError Unit × World → Prop where
  | restored {after : World} (e : SystemError)
      (hQuiet : World.Quiet { before with tree := after.tree, temporaries := after.temporaries } after)
      (hWell : after.tree.WellFormed) (hAlike : before.tree.Alike after.tree) :
      Ends s target bytes before (.error e, after)
  | replaced {after : World} {entry : Location} {status : Status}
      (hQuiet : World.Quiet { before with tree := after.tree, temporaries := after.temporaries } after)
      (hWell : after.tree.WellFormed)
      (hFind : before.tree.find s.site.working .entry target = .ok (.present entry))
      (hStatus : before.tree.status s.site.working target = .ok status)
      (hOver : before.tree.isDirectoryAt entry = false)
      (hGains : before.tree.Gains after.tree entry ⟨status.mode, bytes, .recent⟩) :
      Ends s target bytes before (.ok (), after)

variable {before : World}

namespace HasPrivate

theorem change (h : HasPrivate s before world p place data) (f : FileData → FileData) :
    HasPrivate s before { world with tree := world.tree.change before.tree.nextFile f } p place
      (f data) where
  quiet := ⟨rfl, h.quiet.root, h.quiet.locks, rfl, h.quiet.streams, h.quiet.nextStream⟩
  wf := h.wf.change _ f
  free := h.free
  gains := h.gains.change f
  isPrivate := h.isPrivate.change _ f

theorem runAll_discard (h : HasPrivate s before world p place data) (wf : before.tree.WellFormed)
    (e : SystemError) (fuel : Nat) :
    Ends s target bytes before (runAll s target bytes (fuel + 1) (.discard p e) world) := by
  rw [runAll, run_discard h.isPrivate]
  have hFile := h.gains.fileAt?_place
  refine .restored e ?_ ?_ (h.gains.take wf h.free)
  · exact ⟨rfl, h.quiet.root, h.quiet.locks, rfl, h.quiet.streams, h.quiet.nextStream⟩
  · exact h.wf.take (ne_nil_of_file hFile) (not_isDirectoryAt_of_file hFile)

theorem runAll_replace {status : Status}
    (h : HasPrivate s before world p place ⟨status.mode, bytes, .recent⟩)
    (wf : before.tree.WellFormed)
    (hStatus : before.tree.status s.site.working target = .ok status) (fuel : Nat) :
    Ends s target bytes before (runAll s target bytes (fuel + 2) (.replace p) world) := by
  rw [runAll]
  rcases run_replace target bytes h.isPrivate with
    ⟨e, hRun⟩ | ⟨destination, hFind, hOpen, hOver, hRun⟩
  · rw [hRun]
    exact h.runAll_discard wf e fuel
  · rw [hRun]
    obtain ⟨entry, hEntry, hSome⟩ := find_entry_of_status hStatus
    have hGrows := h.gains.grows h.free
    have hSame : Except.ok destination = .ok (.present entry) :=
      hFind.symm.trans (find_grow hGrows hEntry)
    cases hSame
    have hNe : place ≠ entry := by
      rintro rfl
      rw [(timeless?_eq_none before.tree).mp h.free] at hSome
      cases hSome
    have hRoot : entry ≠ [] := by
      rintro rfl
      cases hOver
    refine .replaced ?_ ?_ hEntry hStatus ?_ (h.gains.move h.wf h.free hNe hRoot)
    · exact ⟨rfl, h.quiet.root, h.quiet.locks, rfl, h.quiet.streams, h.quiet.nextStream⟩
    · exact h.wf.move h.gains.fileAt?_place hNe hRoot (isDirectoryAt_of_isOpenToChange hOpen) hOver
    · rw [← hGrows.isDirectoryAt]
      exact hOver

theorem runAll_copyMode {mode : Nat}
    (h : HasPrivate s before world p place ⟨mode, bytes, .recent⟩) (wf : before.tree.WellFormed)
    {status : Status} (hStatus : before.tree.status s.site.working target = .ok status)
    (fuel : Nat) :
    Ends s target bytes before (runAll s target bytes (fuel + 3) (.copyMode p) world) := by
  rw [runAll]
  rcases run_copyMode target bytes h.isPrivate with
    ⟨e, hRun⟩ | ⟨found, hFound, hRun⟩
  · rw [hRun]
    exact h.runAll_discard wf e (fuel + 1)
  · rw [hRun]
    obtain ⟨other, hOther, hTimeless⟩ := h.gains.status wf h.free hStatus
    rw [hFound] at hOther
    cases hOther
    have hMode : found.timeless.mode = status.timeless.mode := congrArg Status.mode hTimeless
    rw [show found.mode = status.mode from hMode]
    exact (h.change fun data => { data with mode := status.mode }).runAll_replace wf hStatus fuel

theorem runAll_fillPrivate {mode : Nat}
    (h : HasPrivate s before world p place ⟨mode, [], .recent⟩) (wf : before.tree.WellFormed)
    {status : Status} (hStatus : before.tree.status s.site.working target = .ok status)
    (fuel : Nat) :
    Ends s target bytes before
      (runAll s target bytes (fuel + 5) (.fillPrivate p before.tree.nextFile) world) := by
  rw [runAll]
  unfold run
  dsimp only
  cases s.faultAt? .write with
  | some e => exact h.runAll_discard wf e (fuel + 3)
  | none =>
      dsimp only
      rw [runAll]
      unfold run
      dsimp only
      have hFilled := h.change fun data => data.rewritten (bytes ++ data.bytes.drop bytes.length)
      dsimp only [FileData.rewritten] at hFilled
      rw [List.drop_nil, List.append_nil] at hFilled
      cases s.faultAt? .flush with
      | some e => exact hFilled.runAll_discard wf e (fuel + 2)
      | none => exact hFilled.runAll_copyMode wf hStatus fuel

theorem runAll_openPrivate (h : HasPrivate s before world p place ⟨0o600, [], .recent⟩)
    (wf : before.tree.WellFormed) {status : Status}
    (hStatus : before.tree.status s.site.working target = .ok status) (fuel : Nat) :
    Ends s target bytes before (runAll s target bytes (fuel + 6) (.openPrivate p) world) := by
  rw [runAll, run_openPrivate h.isPrivate h.gains.data?_place (by decide)]
  cases s.faultAt? .openFile with
  | some e => exact h.runAll_discard wf e (fuel + 4)
  | none =>
      exact (h.change (·.rewritten [])).runAll_fillPrivate wf hStatus fuel

end HasPrivate

/-- A private file is made under one of its names, or not at all. -/
theorem createTemporary_ok {working : Location} {tree after : Tree} {tries n next : Nat}
    (h : createTemporary working target tries n tree = .ok (p, next, after)) :
    ∃ m, p = (target.parent.lexical working).child (temporaryName target m) ∧
      tree.createPrivate working p = .ok after := by
  induction tries generalizing n with
  | zero => cases h
  | succ tries ih =>
      rw [createTemporary] at h
      split at h
      · rename_i made hCreate
        cases h
        exact ⟨n, rfl, hCreate⟩
      · exact ih h
      · cases h

theorem temporaryName_ne (target : Path) (n : Nat) : temporaryName target n ≠ "" := by
  simp [temporaryName]

/-- A write under the atomic strategy leaves everything as it was, or replaces the target. -/
theorem runAll_create (wf : before.tree.WellFormed) {status : Status}
    (hStatus : before.tree.status s.site.working target = .ok status) (fuel : Nat) :
    Ends s target bytes before (runAll s target bytes (fuel + 7) .create before) := by
  rw [runAll]
  unfold run
  dsimp only
  cases s.faultAt? .createTemporary with
  | some e => exact .restored e (.refl before) wf (.refl before.tree)
  | none =>
      cases hCreate : createTemporary s.site.working target temporaryNames before.temporaries
          before.tree with
      | error e => exact .restored e (.refl before) wf (.refl before.tree)
      | ok made =>
          obtain ⟨p, temporaries, tree⟩ := made
          obtain ⟨m, rfl, hPrivate⟩ := createTemporary_ok hCreate
          obtain ⟨place, hFree, hIsPrivate, hGains, hWell⟩ :=
            isPrivate_of_createPrivate wf (by simp [Path.child, temporaryName_ne]) hPrivate
          have hHas : HasPrivate s before { before with tree, temporaries }
              ((target.parent.lexical s.site.working).child (temporaryName target m)) place
              ⟨0o600, [], .recent⟩ :=
            ⟨.refl _, hWell, hFree, hGains, hIsPrivate⟩
          exact hHas.runAll_openPrivate wf hStatus fuel

/-! Writing in place -/

/-- How a write under the other strategy ends. Before the target has been opened nothing changes; after
it the contents of the target change and nothing else. -/
inductive EndsInPlace (s : Setting) (target : Path) (bytes : Bytes) (before : World) :
    Except SystemError Unit × World → Prop where
  | refused (e : SystemError) : EndsInPlace s target bytes before (.error e, before)
  | broken {after : World} {number : Nat} (e : SystemError)
      (hOpened : (run s target bytes .openTarget before).1 = .next (.fillTarget number))
      (hQuiet : World.Quiet { before with tree := after.tree } after)
      (hWell : after.tree.WellFormed) : EndsInPlace s target bytes before (.error e, after)
  | rewritten {after : World} {there : Location} {number : Nat} {old : FileData}
      (hQuiet : World.Quiet { before with tree := after.tree } after)
      (hWell : after.tree.WellFormed)
      (hFind : before.tree.find s.site.working .target target = .ok (.present there))
      (hFile : before.tree.fileAt? there = some number)
      (hData : before.tree.data? number = some old)
      (hRewrites : before.tree.Rewrites after.tree number (old.rewritten bytes)) :
      EndsInPlace s target bytes before (.ok (), after)

/-- A target that is there is opened without a change of the entries. -/
theorem run_openTarget (bytes : Bytes) {status : Status}
    (hStatus : before.tree.status s.site.working target = .ok status) :
    (∃ e, run s target bytes .openTarget before = (.failed e, before)) ∨
      ∃ there number data, before.tree.find s.site.working .target target = .ok (.present there) ∧
        before.tree.fileAt? there = some number ∧ before.tree.data? number = some data ∧
        run s target bytes .openTarget before = (.next (.fillTarget number), { before with
          tree := before.tree.change number (·.rewritten []) }) := by
  unfold run
  dsimp only
  cases s.faultAt? .openFile with
  | some e => exact .inl ⟨e, rfl⟩
  | none =>
      cases hOpen : before.tree.openForWriting s.site.working target with
      | error errno => exact .inl ⟨_, rfl⟩
      | ok opened =>
          obtain ⟨number, tree⟩ := opened
          obtain ⟨there, hThere, _⟩ := status_ok.mp hStatus
          rcases openForWriting_ok hOpen with ⟨_, _, hFree⟩ | ⟨place, hPlace, hFile, hData, rfl⟩
          · have hSame := hThere.symm.trans (find_target_of_creation hFree)
            cases hSame
          · obtain ⟨data, hData⟩ := Option.isSome_iff_exists.mp hData
            exact .inr ⟨place, number, data, find_target_of_creation hPlace, hFile, hData, rfl⟩

theorem runAll_openTarget (wf : before.tree.WellFormed) {status : Status}
    (hStatus : before.tree.status s.site.working target = .ok status) (fuel : Nat) :
    EndsInPlace s target bytes before (runAll s target bytes (fuel + 2) .openTarget before) := by
  rw [runAll]
  rcases run_openTarget bytes hStatus with
    ⟨e, hRun⟩ | ⟨there, number, data, hThere, hFile, hData, hRun⟩
  · rw [hRun]
    exact .refused e
  · rw [hRun]
    dsimp only
    rw [runAll]
    unfold run
    dsimp only
    have hEmptied := wf.change number (·.rewritten [])
    cases s.faultAt? .write with
    | some e =>
        have hOpened : (run s target bytes .openTarget before).1 = .next (.fillTarget number) := by
          rw [hRun]
        exact .broken e hOpened ⟨rfl, rfl, rfl, rfl, rfl, rfl⟩ hEmptied
    | none =>
        have hRewrites : before.tree.Rewrites
            ((before.tree.change number (·.rewritten [])).append number bytes) number
            (data.rewritten bytes) := by
          refine ⟨fun _ => rfl, fun n => ?_⟩
          rw [append, data?_change, data?_change]
          by_cases hn : n = number
          · subst hn
            simp [hData, FileData.rewritten]
          · simp [hn]
        refine .rewritten ⟨rfl, rfl, rfl, rfl, rfl, rfl⟩ ?_ hThere hFile hData hRewrites
        exact hEmptied.append number bytes

end WriteStage

namespace Write

variable {s : Setting} {target : Path} {world : World}

/-- The checks before a write, and the key of its lock. -/
def prepared (s : Setting) (target : Path) (tree : Tree) : Except Failure Location := do
  if ← s.isDirectory target tree then .error (.writesDirectory target.name)
  else s.canonical target tree

theorem prepared_ok {tree : Tree} {key : Location} :
    prepared s target tree = .ok key ↔
      s.isDirectory target tree = .ok false ∧ s.canonical target tree = .ok key := by
  unfold prepared
  cases s.isDirectory target tree with
  | error failure => simp [bind, Except.bind]
  | ok found => cases found <;> simp [bind, Except.bind]

theorem attempt_prepare (s : Setting) (target : Path) (world : World) :
    attempt (prepare s target) world = (prepared s target world.tree, world) := by
  unfold prepare prepared
  rw [attempt_bind, attempt_ask]
  cases s.isDirectory target world.tree with
  | error failure => rfl
  | ok found =>
      cases found with
      | true => rfl
      | false => exact attempt_ask _ world

/-- The end of a write changes no file. Whatever has gone wrong, the caller is told the same. -/
theorem attempt_conclude (s : Setting) (target : Path) (key : Location) (caller : Nat)
    (bytes : Bytes) (result : Except SystemError Unit) (world : World) :
    (attempt (conclude s target key caller bytes result) world).1 =
        result.mapError (fun _ => Failure.internal) ∧
      World.Quiet { world with locks := world.locks.release key caller }
        (attempt (conclude s target key caller bytes result) world).2 := by
  cases result with
  | error e => exact ⟨rfl, ⟨rfl, rfl, rfl, rfl, rfl, rfl⟩⟩
  | ok done => exact ⟨rfl, ⟨rfl, rfl, rfl, rfl, rfl, rfl⟩⟩

/-- The stages of a write from the first to the last. -/
def stages (s : Setting) (target : Path) (contents : String) (world : World) :
    Except SystemError Unit × World :=
  let stage := WriteStage.first s.service.strategy
  stage.runAll s target (Text.Utf8.encode contents) stage.remaining world

theorem stages_atomic (hStrategy : s.service.strategy = .atomic) (wf : world.tree.WellFormed)
    {status : Status} (hStatus : world.tree.status s.site.working target = .ok status)
    (contents : String) :
    WriteStage.Ends s target (Text.Utf8.encode contents) world (stages s target contents world) := by
  unfold stages
  rw [hStrategy]
  exact WriteStage.runAll_create wf hStatus 0

theorem stages_overwrite (hStrategy : s.service.strategy = .overwrite) (wf : world.tree.WellFormed)
    {status : Status} (hStatus : world.tree.status s.site.working target = .ok status)
    (contents : String) :
    WriteStage.EndsInPlace s target (Text.Utf8.encode contents) world
      (stages s target contents world) := by
  unfold stages
  rw [hStrategy]
  exact WriteStage.runAll_openTarget wf hStatus 0

/-- A write is its stages between the checks and the end. -/
theorem attempt_file (s : Setting) (target : Path) (contents : String) (world : World) :
    attempt (file s target contents) world =
      match prepared s target world.tree with
      | .error failure => (.error failure, world)
      | .ok key =>
        let (result, after) :=
          stages s target contents { world with locks := world.locks.request key 0 }
        attempt (conclude s target key 0 (Text.Utf8.encode contents) result) after := by
  unfold file
  cases hPrepared : prepared s target world.tree with
  | error failure =>
      rw [attempt_bind_of_error ((attempt_prepare s target world).trans (by rw [hPrepared]))]
  | ok key =>
      rw [attempt_bind_of_ok ((attempt_prepare s target world).trans (by rw [hPrepared]))]
      rfl

/-- A write is stopped by the checks, or it goes through its stages. What goes wrong in them is told to the
caller in one way only. -/
theorem file_cases {contents : String} {result : Except Failure Unit} {after : World}
    (h : attempt (file s target contents) world = (result, after)) :
    (∃ failure, prepared s target world.tree = .error failure ∧ result = .error failure ∧ after = world) ∨
      ∃ key before done outcome, prepared s target world.tree = .ok key ∧
        before = { world with locks := world.locks.request key 0 } ∧
        stages s target contents before = (outcome, done) ∧ result = outcome.mapError (fun _ => .internal) ∧
        World.Quiet { done with locks := done.locks.release key 0 } after := by
  rw [attempt_file] at h
  cases hPrepared : prepared s target world.tree with
  | error failure =>
      rw [hPrepared] at h
      cases h
      exact .inl ⟨failure, rfl, rfl, rfl⟩
  | ok key =>
      rw [hPrepared] at h
      dsimp only at h
      rcases hStages : stages s target contents { world with locks := world.locks.request key 0 } with
        ⟨outcome, done⟩
      rw [hStages] at h
      obtain ⟨hResult, hQuiet⟩ := attempt_conclude s target key 0 (Text.Utf8.encode contents) outcome done
      rw [h] at hResult hQuiet
      exact .inr ⟨key, _, done, outcome, rfl, rfl, hStages, hResult, hQuiet⟩

end Write

namespace Access

variable {s : Setting} {world after : World} {file : Option String} {text : String}

/-- The target of a request has a status. -/
theorem status_of_target {request : Request} {path root : Path}
    (h : (attempt (target s request) world).1 = .ok (path, root)) :
    ∃ status, world.tree.status s.site.working path = .ok status := by
  obtain ⟨_, hDecision, _⟩ := attempt_target_ok (attempt_eq_of_result h)
  obtain ⟨_, _, _, status, hStatus, _⟩ := Guard.shown_ok (Guard.decision_ok hDecision).1
  exact ⟨status, hStatus⟩

/-- A request to write is turned down with all files as they were, or it gets as far as the stages of
a write. What goes wrong there is told to the caller in one way only. -/
theorem perform_write_cases {result : Except Failure Reply}
    (h : attempt (perform s ⟨file, some text⟩) world = (result, after)) :
    ((∃ failure, result = .error failure) ∧ after.tree = world.tree ∧
        ∀ path root key, (attempt (target s ⟨file, some text⟩) world).1 = .ok (path, root) →
          Write.prepared s path world.tree ≠ .ok key) ∨
      ∃ path root key before, (attempt (target s ⟨file, some text⟩) world).1 = .ok (path, root) ∧
        Write.prepared s path world.tree = .ok key ∧ before.tree = world.tree ∧
        result = ((Write.stages s path text before).1.mapError fun _ => Failure.internal).map
          (fun _ => .written path text) ∧
        after.tree = (Write.stages s path text before).2.tree := by
  have hQuiet := quiet_target (s := s) ⟨file, some text⟩ world
  unfold perform at h
  rw [attempt_bind] at h
  rcases hTarget : attempt (target s ⟨file, some text⟩) world with ⟨failure | ⟨path, root⟩, middle⟩
  · rw [hTarget] at h hQuiet
    cases h
    exact .inl ⟨⟨failure, rfl⟩, hQuiet.tree, by simp⟩
  · rw [hTarget] at h hQuiet
    have hTree : middle.tree = world.tree := hQuiet.tree
    dsimp only at h
    rw [attempt_bind] at h
    rcases hFile : attempt (Write.file s path text) middle with ⟨outcome, last⟩
    have hEnd : result = outcome.map (fun _ => .written path text) ∧ after = last := by
      rw [hFile] at h
      cases outcome <;> cases h <;> exact ⟨rfl, rfl⟩
    obtain ⟨rfl, rfl⟩ := hEnd
    rcases Write.file_cases hFile with
      ⟨failure, hPrepared, rfl, rfl⟩ | ⟨key, before, done, found, hPrepared, hBefore, hStages, rfl, hDone⟩
    · refine .inl ⟨⟨failure, rfl⟩, hTree, ?_⟩
      rintro _ _ key ⟨⟩
      simp [← hTree, hPrepared]
    · have hStart : before.tree = world.tree := by rw [hBefore, hTree]
      refine .inr ⟨path, root, key, before, rfl, hTree ▸ hPrepared, hStart, ?_⟩
      rw [hStages]
      exact ⟨rfl, hDone.tree⟩

end Access

end ConfigGate
