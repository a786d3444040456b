import ConfigGate.Proofs.Access.Confinement
import ConfigGate.Proofs.Access.Listing
import ConfigGate.Proofs.Access.Read
import ConfigGate.Proofs.Access.Write
import ConfigGate.Proofs.Tree.Replacement

/-! What is read after a write. The path leads to a file with the new contents, whether the old file has been
filled again or another one has taken its place with its permission bits. A stream gives all of it if its
owner may read it. -/
namespace ConfigGate

open Act Tree

namespace Tree

variable {tree before after : Tree} {working : Location} {p : Path} {mode number : Nat} {bytes : Bytes}
  {place : Location}

/-- The path leads to a file with these permission bits and contents. -/
def Holds (tree : Tree) (working : Location) (p : Path) (mode : Nat) (bytes : Bytes) : Prop :=
  ∃ place number modified, tree.find working .target p = .ok (.present place) ∧
    tree.fileAt? place = some number ∧ tree.data? number = some ⟨mode, bytes, modified⟩

theorem statusAt?_of_file {data : FileData} (hFile : tree.fileAt? place = some number)
    (hData : tree.data? number = some data) :
    tree.statusAt? place = some ⟨false, data.bytes.length, data.mode, data.modified⟩ := by
  rw [statusAt?, entry?_of_fileAt? hFile]
  simp [hData]

namespace Holds

/-- What the system tells about the file. -/
theorem status (h : tree.Holds working p mode bytes) :
    ∃ modified, tree.status working p = .ok ⟨false, bytes.length, mode, modified⟩ := by
  obtain ⟨place, number, modified, hFind, hFile, hData⟩ := h
  exact ⟨modified, status_ok.mpr ⟨place, hFind, statusAt?_of_file hFile hData⟩⟩

/-- What has a status and is no directory is a file. -/
theorem of_status {status : Status} (h : tree.status working p = .ok status)
    (hKind : status.isDirectory = false) : ∃ old, tree.Holds working p status.mode old := by
  obtain ⟨place, hFind, hAt⟩ := status_ok.mp h
  unfold statusAt? at hAt
  split at hAt
  · cases hAt
    cases hKind
  · rename_i number hEntry
    obtain ⟨data, hData, rfl⟩ := Option.map_eq_some_iff.mp hAt
    exact ⟨data.bytes, place, number, data.modified, hFind, by simp [fileAt?, hEntry], hData⟩
  · cases hAt

/-- The file is opened if its owner may read it. -/
theorem openForReading (h : tree.Holds working p mode bytes) :
    ∃ number modified, tree.data? number = some ⟨mode, bytes, modified⟩ ∧
      tree.openForReading working p = if mayRead mode then .ok number else .error .permission := by
  obtain ⟨place, number, modified, hFind, hFile, hData⟩ := h
  refine ⟨number, modified, hData, ?_⟩
  unfold Tree.openForReading
  rw [locate_ok.mpr hFind]
  simp only [hFile, hData]

/-- The file that has replaced the entry is found, with what is in it. -/
theorem of_gains {data : FileData} (h : before.Holds working p mode bytes) (hGains : before.Gains after place data)
    (hEntry : before.find working .entry p = .ok (.present place)) (hOver : before.isDirectoryAt place = false) :
    after.Holds working p data.mode data.bytes := by
  obtain ⟨there, number, _, hTarget, hFile, _⟩ := h
  have hFound := find_replace (hGains.replaces hOver) hTarget hFile hEntry
  exact ⟨place, before.nextFile, data.modified, hFound, hGains.fileAt?_place, hGains.data?_place⟩

/-- The file that has been filled again is found, without the privileges that it lent. -/
theorem of_rewrites {old : FileData} {contents : Bytes} (h : before.Holds working p mode bytes)
    (hFind : before.find working .target p = .ok (.present place)) (hFile : before.fileAt? place = some number)
    (hData : before.data? number = some old)
    (hRewrites : before.Rewrites after number (old.rewritten contents)) :
    after.Holds working p (withoutPrivileges mode) contents := by
  obtain ⟨there, n, modified, hThere, hOther, hHeld⟩ := h
  cases hThere.symm.trans hFind
  cases hOther.symm.trans hFile
  cases hHeld.symm.trans hData
  refine ⟨place, number, .recent, find_grow (.of_timeless hRewrites.timeless) hFind, ?_, ?_⟩
  · rw [fileAt?_congr after (hRewrites.timeless place), hFile]
  · rw [hRewrites.data, if_pos rfl]
    rfl

end Holds

/-- Every directory has the names that it had. -/
def SameNames (before after : Tree) : Prop :=
  ∀ directory name, name ∈ after.names directory ↔ name ∈ before.names directory

/-- No name comes or goes when the new file stands where an entry was. -/
theorem Gains.sameNames {data : FileData} (h : before.Gains after place data)
    (hSome : (before.entry? place).isSome) : before.SameNames after := by
  intro directory name
  rw [mem_names, mem_names, h.timeless]
  split
  · rename_i hPlace
    simpa [hPlace, timeless?] using hSome
  · rfl

theorem Rewrites.sameNames {data : FileData} (h : before.Rewrites after number data) :
    before.SameNames after := by
  intro directory name
  rw [mem_names, mem_names, h.timeless]

end Tree

namespace Stream

variable {s : Setting} {world : World} {p : Path} {mode : Nat} {bytes : Bytes}

/-- A stream of the file gives what is in it. -/
theorem content_of_holds {tree : Tree} {stream : Stream} (h : tree.Holds s.site.working p mode bytes)
    (hOpen : tree.openForReading s.site.working p = .ok stream.file) : stream.content tree = bytes := by
  obtain ⟨number, modified, hData, hOpened⟩ := h.openForReading
  rw [hOpened] at hOpen
  split at hOpen
  · cases hOpen
    simp [content, hData]
  · cases hOpen

/-- A file that is there is opened, and its stream gives what is in it. -/
theorem attempt_readAll (hFault : s.fault = none) (hNul : p.hasNul = false)
    (h : world.tree.Holds s.site.working p mode bytes) :
    (attempt (readAll s p) world).1 = if mayRead mode then .ok bytes else .error .internal := by
  have hNone (fault : Fault) : s.faultAt? fault = none := by simp [Setting.faultAt?, hFault]
  obtain ⟨number, modified, hData, hOpen⟩ := h.openForReading
  have hOpened : opened s p world.tree =
      if mayRead mode then .ok number else .error (Setting.refusal p .permission) := by
    rw [opened, hNone]
    dsimp only
    rw [hOpen]
    cases mayRead mode <;> rfl
  unfold readAll
  rw [attempt_bind, attempt_ofPath hNul, hOpened]
  cases mayRead mode with
  | false => rfl
  | true =>
      obtain ⟨stream, middle, hStart, hFile, hTree⟩ : ∃ stream middle,
          attempt (start p (.ok number)) world = (.ok stream, middle) ∧ stream.file = number ∧
            middle.tree = world.tree := ⟨_, _, rfl, rfl, rfl⟩
      have hContent : middle.tree.data? stream.file = some ⟨mode, bytes, modified⟩ := by
        rw [hTree, hFile, hData]
      have hDrained := drained_of_data (fun n => hNone (.read n)) hContent
      rw [if_pos rfl, if_pos rfl, hStart]
      dsimp only
      rw [attempt_bind_of_ok (attempt_eq_of_result (attempt_drain stream middle).1), hDrained]
      exact congrArg Except.ok (flatten_chunksOf chunkSize_pos bytes)

end Stream

/-- The permission bits of a file after a write. A file that replaces another one has all of its bits. -/
def WriteStrategy.modeAfter : WriteStrategy → Nat → Nat
  | .atomic, mode => mode
  | .overwrite, mode => Tree.withoutPrivileges mode

theorem WriteStrategy.mayRead_modeAfter (strategy : WriteStrategy) (mode : Nat) :
    mayRead (strategy.modeAfter mode) = mayRead mode := by
  cases strategy with
  | atomic => rfl
  | overwrite => exact mayRead_withoutPrivileges mode

namespace Write

variable {s : Setting} {world after : World} {p : Path} {status : Status} {text : String}

/-- What a write leaves behind when it succeeds: a file with the new contents where the path leads, with these
permission bits. No name is new or missing, and the root is kept. -/
structure Leaves (s : Setting) (p : Path) (mode : Nat) (bytes : Bytes) (before after : World) : Prop where
  holds : after.tree.Holds s.site.working p mode bytes
  names : before.tree.SameNames after.tree
  root : after.root = before.root

theorem leaves_of_stages (h : stages s p text world = (.ok (), after)) (wf : world.tree.WellFormed)
    (hStatus : world.tree.status s.site.working p = .ok status) (hKind : status.isDirectory = false) :
    Leaves s p (s.service.strategy.modeAfter status.mode) (Text.Utf8.encode text) world after := by
  obtain ⟨old, hOld⟩ := Holds.of_status hStatus hKind
  cases hStrategy : s.service.strategy with
  | atomic =>
      have hEnds := stages_atomic hStrategy wf hStatus text
      rw [h] at hEnds
      cases hEnds with
      | replaced hQuiet _ hFind hFound hOver hGains =>
          cases hStatus.symm.trans hFound
          obtain ⟨entry, hEntry, hSome⟩ := find_entry_of_status hStatus
          cases hFind.symm.trans hEntry
          exact ⟨hOld.of_gains hGains hEntry hOver, hGains.sameNames hSome, hQuiet.root⟩
  | overwrite =>
      have hEnds := stages_overwrite hStrategy wf hStatus text
      rw [h] at hEnds
      cases hEnds with
      | rewritten hQuiet _ hFind hFile hData hRewrites =>
          exact ⟨hOld.of_rewrites hFind hFile hData hRewrites, hRewrites.sameNames, hQuiet.root⟩

/-- A write that succeeds has passed the checks, and all its stages have succeeded. -/
theorem file_ok (h : attempt (file s p text) world = (.ok (), after)) :
    ∃ key done, prepared s p world.tree = .ok key ∧
      stages s p text { world with locks := world.locks.request key 0 } = (.ok (), done) ∧
      World.Quiet { done with locks := done.locks.release key 0 } after := by
  rcases file_cases h with ⟨_, _, hFailure, _⟩ | ⟨key, _, done, outcome, hPrepared, rfl, hStages, hResult, hQuiet⟩
  · cases hFailure
  · cases outcome with
    | error e => cases hResult
    | ok => exact ⟨key, done, hPrepared, hStages, hQuiet⟩

theorem leaves_of_file (wf : world.tree.WellFormed) (hStatus : world.tree.status s.site.working p = .ok status)
    (h : attempt (file s p text) world = (.ok (), after)) :
    Leaves s p (s.service.strategy.modeAfter status.mode) (Text.Utf8.encode text) world after := by
  obtain ⟨key, done, hPrepared, hStages, hQuiet⟩ := file_ok h
  obtain ⟨hDirectory, hCanonical⟩ := prepared_ok.mp hPrepared
  have hIs := Setting.isDirectory_of_status (Setting.hasNul_of_canonical hCanonical) hStatus
  have hKind : status.isDirectory = false := Except.ok.inj (hIs.symm.trans hDirectory)
  have hLeaves := leaves_of_stages hStages wf hStatus hKind
  have hTree : after.tree = done.tree := hQuiet.tree
  exact ⟨hTree ▸ hLeaves.holds, hTree ▸ hLeaves.names, hQuiet.root.trans hLeaves.root⟩

/-- Reading after a write gives the new contents and nothing else, if the owner of the file may read it. The
permission bits are the old ones in any case, except for the privileges that a write in place takes away, and
every directory has the names that it had. -/
theorem read_after_write (wf : world.tree.WellFormed) (hStatus : world.tree.status s.site.working p = .ok status)
    (h : attempt (file s p text) world = (.ok (), after)) :
    (attempt (Stream.readAll { s with fault := none } p) after).1 =
        (if mayRead status.mode then .ok (Text.Utf8.encode text) else .error .internal) ∧
      (∃ modified, after.tree.status s.site.working p =
        .ok ⟨false, (Text.Utf8.encode text).length, s.service.strategy.modeAfter status.mode, modified⟩) ∧
      world.tree.SameNames after.tree := by
  obtain ⟨_, _, hPrepared, _⟩ := file_ok h
  have hNul := Setting.hasNul_of_canonical (prepared_ok.mp hPrepared).2
  have hLeaves := leaves_of_file wf hStatus h
  have hRead := Stream.attempt_readAll (s := { s with fault := none }) rfl hNul hLeaves.holds
  rw [WriteStrategy.mayRead_modeAfter] at hRead
  exact ⟨hRead, hLeaves.holds.status, hLeaves.names⟩

/-- A link is replaced by a file of its own, which has the contents and the permission bits that are seen
through the link. -/
theorem read_after_write_link :
    ∃ after, attempt (file (Access.plainSetting .atomic) (Path.ofLocation ["conf", "link.txt"]) "new")
          (World.initial Access.linkedTree) = (.ok (), after) ∧
      (attempt (Stream.readAll (Access.plainSetting .atomic) (Path.ofLocation ["conf", "link.txt"])) after).1 =
        .ok (Text.Utf8.encode "new") ∧
      (∃ modified, after.tree.status [] (Path.ofLocation ["conf", "link.txt"]) =
        .ok ⟨false, 3, 0o644, modified⟩) ∧
      Access.linkedTree.SameNames after.tree := by
  have hWritten : (attempt (file (Access.plainSetting .atomic) (Path.ofLocation ["conf", "link.txt"]) "new")
      (World.initial Access.linkedTree)).1 = .ok () := by
    decide
  have hStatus : Access.linkedTree.status [] (Path.ofLocation ["conf", "link.txt"]) =
      .ok ⟨false, 3, 0o644, .recent⟩ := by
    decide
  obtain ⟨hRead, hAfter, hNames⟩ := read_after_write (by decide) hStatus (attempt_eq_of_result hWritten)
  exact ⟨_, attempt_eq_of_result hWritten, hRead, hAfter, hNames⟩

/-- A file that its owner may write to, but not read, and that lends the rights of its owner, is written to in
place. It cannot be read afterwards, and does not lend them any more. -/
theorem unread_after_write :
    let tree := Access.singleTree "wo" ⟨0o4200, Text.Utf8.encode "old", .recent⟩
    tree.WellFormed ∧ tree.status [] (Path.ofLocation ["conf", "wo"]) = .ok ⟨false, 3, 0o4200, .recent⟩ ∧
      ∃ after, attempt (file (Access.plainSetting .overwrite) (Path.ofLocation ["conf", "wo"]) "new")
            (World.initial tree) = (.ok (), after) ∧
        (attempt (Stream.readAll (Access.plainSetting .overwrite) (Path.ofLocation ["conf", "wo"])) after).1 =
          .error .internal ∧
        after.tree.status [] (Path.ofLocation ["conf", "wo"]) = .ok ⟨false, 3, 0o200, .recent⟩ := by
  intro tree
  have hWritten : (attempt (file (Access.plainSetting .overwrite) (Path.ofLocation ["conf", "wo"]) "new")
      (World.initial tree)).1 = .ok () := by
    decide
  exact ⟨by decide, by decide, _, attempt_eq_of_result hWritten, by decide, by decide⟩

end Write

end ConfigGate
