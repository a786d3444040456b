import ConfigGate.Proofs.Access.Call
import ConfigGate.Proofs.Access.Confinement
import ConfigGate.Proofs.Tree.Refill

/-! A write under the overwrite strategy that is under way while other writes are. It asks for the lock
of its file, opens and empties the file once it holds the lock, fills it, and gives the lock back. No
step changes an entry, so that every check comes to the result that it had in the beginning. -/
namespace ConfigGate

open Act Tree

variable {s : Setting} {base tree : Tree} {requests : List Request} {request : Request} {path : Path}
  {key place location : Location} {text : String} {bytes : Bytes} {number i : Nat} {world : World}

namespace Tree

/-- No file has two names. -/
def IsUnshared (tree : Tree) : Prop :=
  ∀ location other number, tree.fileAt? location = some number → tree.fileAt? other = some number →
    location = other

theorem isUnshared_of_entries (h : ∀ entry ∈ tree.entries, ∀ other ∈ tree.entries,
    ∀ number ∈ entry.2.number?, other.2.number? = some number → entry.1 = other.1) :
    tree.IsUnshared :=
  fun _ _ number hFile hOther =>
    h _ (mem_entries_of_file hFile) _ (mem_entries_of_file hOther) number rfl rfl

/-- The bytes of the file at a location. -/
def bytesAt (tree : Tree) (location : Location) : Bytes :=
  match tree.node? location with
  | some (.file _ bytes) => bytes
  | _ => []

/-- A file stands at the location, and its owner may write to it. -/
def isWritableAt (tree : Tree) (location : Location) : Bool :=
  match tree.node? location with
  | some (.file mode _) => mayWrite mode
  | _ => false

theorem bytesAt_of_file {data : FileData} (hFile : tree.fileAt? location = some number)
    (hData : tree.data? number = some data) : tree.bytesAt location = data.bytes := by
  rw [bytesAt, node?_of_file hFile, hData]
  rfl

theorem isWritableAt_of_file {data : FileData} (hFile : tree.fileAt? location = some number)
    (hData : tree.data? number = some data) : tree.isWritableAt location = mayWrite data.mode := by
  rw [isWritableAt, node?_of_file hFile, hData]
  rfl

theorem bytesAt_change {data : FileData} (hFile : tree.fileAt? place = some number)
    (hData : tree.data? number = some data) (f : FileData → FileData) :
    (tree.change number f).bytesAt place = (f data).bytes := by
  refine bytesAt_of_file (hFile : (tree.change number f).fileAt? place = some number) ?_
  rw [data?_change, if_pos rfl, hData, Option.map_some]

/-- Other files keep their bytes. -/
theorem bytesAt_change_of_ne (h : tree.IsUnshared) (hFile : tree.fileAt? place = some number)
    (hNe : location ≠ place) (f : FileData → FileData) :
    (tree.change number f).bytesAt location = tree.bytesAt location := by
  have hNode : (tree.change number f).node? location = tree.node? location := by
    refine node?_congr rfl fun n hOther => ?_
    rw [data?_change, if_neg]
    rintro rfl
    exact hNe (h location place n hOther hFile)
  rw [bytesAt, hNode, ← bytesAt]

theorem Refills.isUnshared (h : base.Refills tree) (hBase : base.IsUnshared) : tree.IsUnshared := by
  intro location other number hFile hOther
  rw [h.fileAt?] at hFile hOther
  exact hBase location other number hFile hOther

end Tree

/-! Planning -/

theorem Setting.canonical_of_refills (h : base.Refills tree) (p : Path) :
    s.canonical p tree = s.canonical p base := by
  unfold canonical
  rw [canonical_of_entries h.entries, nesting_of_entries h.entries]

namespace Access

theorem found_of_refills (h : base.Refills tree) :
    ConfigRoot.found s tree = ConfigRoot.found s base := by
  refine ConfigRoot.found_congr (fun _ => Setting.isDirectory_of_agree h.status_agree)
    (Setting.canonical_of_refills h) fun p name => ?_
  unfold Setting.hasEntry
  rw [namesIn_of_entries h.entries]

/-- Every check comes to the same result when files have other bytes. -/
theorem planUnder_of_refills (h : base.Refills tree) (request : Request) (root : Path) :
    planUnder s request tree root = planUnder s request base root := by
  have hDirectory (p : Path) : s.isDirectory p tree = s.isDirectory p base :=
    Setting.isDirectory_of_agree h.status_agree
  have hCanonical (p : Path) : s.canonical p tree = s.canonical p base :=
    Setting.canonical_of_refills h p
  have hShown (p : Path) : Guard.shown s p tree = Guard.shown s p base :=
    Guard.shown_of_agree h.status_agree
  have hDecision (root : Path) (requested : Option String) :
      Guard.decision s root requested tree = Guard.decision s root requested base := by
    unfold Guard.decision
    simp only [hShown, Guard.verdict_congr hCanonical]
  unfold planUnder chosen Write.prepared
  simp only [hDecision, hDirectory, hCanonical]

theorem attempt_planned_of_refills (h : base.Refills world.tree)
    (hKept : ConfigRoot.IsKept s base world) (request : Request) :
    ∃ after, attempt (planned s request) world = (plan s request base, after) ∧
      Keeps s base world after := by
  obtain ⟨hResult, hKeeps⟩ := attempt_planned request hKept
  have hUnder : planUnder s request world.tree = planUnder s request base :=
    funext (planUnder_of_refills h request)
  rw [hUnder] at hResult
  exact ⟨_, attempt_eq_of_result (hResult.trans (plan_eq_bind s request base).symm), hKeeps⟩

/-- The path leads to a file, and the lock for the path has the name of this file. -/
structure LocksFile (s : Setting) (base : Tree) (path : Path) (key : Location) : Prop where
  found : base.find s.site.working .creation path = .ok (.present key)
  canonical : s.canonical path base = .ok key
  file : ∃ number data, base.fileAt? key = some number ∧ base.data? number = some data

theorem locksFile_of_plan (hWorking : Path.IsPlain s.site.working)
    (hPlan : plan s request base = .ok (.write path key text))
    (hFit : LinkNamesFit base s.site.working path) :
    LocksFile s base path key ∧ request.contents = some text := by
  obtain ⟨root, _, _, hDecision, rfl, hContents, hPrepared⟩ := plan_ok hPlan
  obtain ⟨hDirectory, hCanonical⟩ := Write.prepared_ok.mp hPrepared
  obtain ⟨_, hNul, _, status, hStatus, _⟩ := Guard.shown_ok (Guard.decision_ok hDecision).1
  obtain ⟨there, hFind, hThere⟩ := status_ok.mp hStatus
  have hKey := Setting.canonical_of_find hWorking hNul hFit hFind
  rw [hCanonical] at hKey
  cases hKey
  have hKind : status.isDirectory = false :=
    Except.ok.inj ((Setting.isDirectory_of_status hNul hStatus).symm.trans hDirectory)
  have hAt : base.isDirectoryAt key = false := (isDirectoryAt_of_status hThere).trans hKind
  have hOutline := outline?_of_status hThere
  rw [hKind, if_neg Bool.false_ne_true] at hOutline
  obtain ⟨number, data, hFile, hData, _⟩ := fileAt?_of_outline hOutline
  exact ⟨⟨find_creation_of_target hFind hAt, hCanonical, number, data, hFile, hData⟩, hContents⟩

end Access

/-- What is assumed of the service, of the tree that it starts with, and of the calls: the overwrite
strategy, no fault, no file with two names, and writes only, to paths over links that resolution sees
under the names that the system can look up. -/
structure IsInPlace (s : Setting) (base : Tree) (requests : List Request) : Prop where
  strategy : s.service.strategy = .overwrite
  fault : s.fault = none
  working : Path.IsPlain s.site.working
  unshared : base.IsUnshared
  writes : ∀ request ∈ requests, request.contents.isSome
  fits : ∀ request ∈ requests, ∀ path key text,
    Access.plan s request base = .ok (.write path key text) → LinkNamesFit base s.site.working path

namespace IsInPlace

theorem faultAt? (h : IsInPlace s base requests) (fault : Fault) : s.faultAt? fault = none := by
  simp [Setting.faultAt?, h.fault]

theorem locksFile (h : IsInPlace s base requests) (hRequest : requests[i]? = some request)
    (hPlan : Access.plan s request base = .ok (.write path key text)) :
    Access.LocksFile s base path key ∧ request.contents = some text :=
  Access.locksFile_of_plan h.working hPlan
    (h.fits request (List.mem_of_getElem? hRequest) path key text hPlan)

end IsInPlace

/-! Stages -/

namespace WriteStage

/-- The file is opened and emptied if its owner may write to it. -/
theorem run_openTarget_of_find (hFault : s.faultAt? .openFile = none)
    (hRefills : base.Refills world.tree)
    (hFind : base.find s.site.working .creation path = .ok (.present place)) {data : FileData}
    (hFile : base.fileAt? place = some number) (hData : base.data? number = some data)
    (bytes : Bytes) : ∃ now, world.tree.data? number = some now ∧
      openTarget.run s path bytes world =
        if base.isWritableAt place then
          (.next (.fillTarget number), { world with
            tree := world.tree.change number (·.rewritten []) })
        else (.failed (Setting.refusal path .permission), world) := by
  obtain ⟨now, hNow, hMode⟩ := hRefills.data? hData
  refine ⟨now, hNow, ?_⟩
  rw [← find_of_entries hRefills.entries] at hFind
  unfold run openForWriting
  simp only [hFault, hFind, hRefills.fileAt?, hFile, hNow, isWritableAt_of_file hFile hData,
    mayWrite_of_withoutPrivileges hMode]
  cases mayWrite data.mode <;> rfl

theorem run_fillTarget (hFault : s.faultAt? .write = none) (path : Path) (number : Nat)
    (bytes : Bytes) (world : World) :
    (fillTarget number).run s path bytes world =
      (.finished, { world with tree := world.tree.append number bytes }) := by
  unfold run
  simp only [hFault]

end WriteStage

/-! Calls -/

namespace Call

/-- The key of the lock that the call holds or waits for. -/
def key? : Call → Option Location
  | .waiting _ _ key _ => some key
  | .writing _ _ key _ _ => some key
  | .settled _ _ key _ _ _ => some key
  | _ => none

/-- The path that the call writes to, once the guard has let it through. -/
def target? : Call → Option Path
  | .waiting _ path _ _ => some path
  | .writing _ path _ _ _ => some path
  | .settled _ path _ _ _ _ => some path
  | _ => none

/-- The file that the call has open for a write in place. -/
def openFile? : Call → Option Nat
  | .writing _ _ _ _ stage => stage.openFile?
  | .settled _ _ _ _ file _ => file
  | _ => none

/-- What the call has made of the bytes of its file. -/
def shown (old : Bytes) : Call → Bytes
  | .writing _ _ _ _ (.fillTarget _) => []
  | .settled _ _ _ bytes _ (.ok ()) => bytes
  | _ => old

/-- The call after it has asked for its lock: it begins at once if it holds it. -/
def entered (request : Request) (path : Path) (key : Location) (bytes : Bytes) (holds : Bool) :
    Call :=
  if holds then .writing request path key bytes .openTarget else .waiting request path key bytes

theorem key?_entered (holds : Bool) : (entered request path key bytes holds).key? = some key := by
  cases holds <;> rfl

theorem shown_entered (old : Bytes) (holds : Bool) :
    (entered request path key bytes holds).shown old = old := by
  cases holds <;> rfl

theorem enter_in_place (h : s.service.strategy = .overwrite) (me : Nat) (request : Request)
    (path : Path) (key : Location) (bytes : Bytes) (world : World) :
    enter s me request path key bytes world =
      (entered request path key bytes (world.locks.holder? key = some me), world) := by
  unfold enter entered
  rw [h]
  by_cases hHolds : world.locks.holder? key = some me
  · simp [hHolds, WriteStage.first]
  · simp [hHolds]

/-- What one step does to a call that writes in place, and to the world. -/
inductive Moves (s : Setting) (base : Tree) (i : Nat) (world : World) : Call → Call → World → Prop where
  /-- The guard turns the request down, or there is nothing that could be written to. -/
  | turnedDown {request : Request} {failure : Failure} {after : World}
      (hTree : after.tree = world.tree) (hLocks : after.locks = world.locks)
      (hKept : ConfigRoot.IsKept s base after) :
      Moves s base i world (.ready request) (.finished (.error failure)) after
  /-- The call asks for its lock. -/
  | asked {request : Request} {path : Path} {key : Location} {text : String} {after : World}
      (hPlan : Access.plan s request base = .ok (.write path key text))
      (hTree : after.tree = world.tree) (hLocks : after.locks = world.locks.request key i)
      (hKept : ConfigRoot.IsKept s base after) :
      Moves s base i world (.ready request)
        (entered request path key (Text.Utf8.encode text) (after.locks.holder? key = some i)) after
  | called {request : Request} {path : Path} {key : Location} {bytes : Bytes} :
      Moves s base i world (.waiting request path key bytes)
        (entered request path key bytes (world.locks.holder? key = some i)) world
  | opened {request : Request} {path : Path} {key : Location} {bytes : Bytes} {number : Nat}
      {data : FileData} (hFile : base.fileAt? key = some number)
      (hData : world.tree.data? number = some data) (hMay : base.isWritableAt key) :
      Moves s base i world (.writing request path key bytes .openTarget)
        (.writing request path key bytes (.fillTarget number))
        { world with
          tree := world.tree.change number (·.rewritten []) }
  | refused {request : Request} {path : Path} {key : Location} {bytes : Bytes} {e : SystemError}
      (hMay : base.isWritableAt key = false) :
      Moves s base i world (.writing request path key bytes .openTarget)
        (.settled request path key bytes none (.error e)) world
  | filled {request : Request} {path : Path} {key : Location} {bytes : Bytes} {number : Nat} :
      Moves s base i world (.writing request path key bytes (.fillTarget number))
        (.settled request path key bytes (some number) (.ok ()))
        { world with tree := world.tree.append number bytes }
  /-- The call gives its lock back. -/
  | left {request : Request} {path : Path} {key : Location} {bytes : Bytes}
      {file : Option Nat} {result : Except SystemError Unit} {reply : Except Failure Reply}
      {after : World}
      (hTree : after.tree = world.tree) (hLocks : after.locks = world.locks.release key i)
      (hRoot : after.root = world.root) :
      Moves s base i world (.settled request path key bytes file result) (.finished reply) after
  | ended {result : Except Failure Reply} :
      Moves s base i world (.finished result) (.finished result) world

/-- A call that is let through asks for its lock. -/
theorem step_ready_of_plan (hStrategy : s.service.strategy = .overwrite)
    (hRefills : base.Refills world.tree) (hKept : ConfigRoot.IsKept s base world)
    (hPlan : Access.plan s request base = .ok (.write path key text)) (i : Nat) :
    ∃ after, (Call.ready request).step s i world =
        (entered request path key (Text.Utf8.encode text) (after.locks.holder? key = some i), after) ∧
      after.tree = world.tree ∧ after.locks = world.locks.request key i ∧
      ConfigRoot.IsKept s base after := by
  obtain ⟨after, hPlanned, hKeeps⟩ := Access.attempt_planned_of_refills hRefills hKept request
  rw [step_ready, hPlanned, hPlan]
  dsimp only
  rw [enter_in_place hStrategy]
  exact ⟨_, rfl, hKeeps.quiet.tree, by rw [hKeeps.quiet.locks],
    hKeeps.kept.of_root rfl rfl⟩

section

variable (hBase : IsInPlace s base requests) (hRefills : base.Refills world.tree)

include hBase hRefills

theorem moves_ready (hKept : ConfigRoot.IsKept s base world) (hRequest : requests[i]? = some request) :
    Moves s base i world (.ready request) ((Call.ready request).step s i world).1
      ((Call.ready request).step s i world).2 := by
  have hWrites := hBase.writes request (List.mem_of_getElem? hRequest)
  cases hPlan : Access.plan s request base with
  | error failure =>
      obtain ⟨after, hPlanned, hKeeps⟩ := Access.attempt_planned_of_refills hRefills hKept request
      obtain ⟨last, hFinish, hQuiet⟩ := finish_eq request (.error failure) after
      rw [step_ready, hPlanned, hPlan]
      dsimp only
      rw [hFinish]
      exact .turnedDown (hQuiet.tree.trans hKeeps.quiet.tree)
        (hQuiet.locks.trans hKeeps.quiet.locks) (hKeeps.kept.of_root hQuiet.root hQuiet.tree)
  | ok made =>
      cases made with
      | write path key text =>
          obtain ⟨after, hStep, hTree, hLocks, hAfter⟩ :=
            step_ready_of_plan hBase.strategy hRefills hKept hPlan i
          rw [hStep]
          exact .asked hPlan hTree hLocks hAfter
      | list path root =>
          obtain ⟨_, _, _, _, _, _, hNone, _⟩ := Access.plan_ok hPlan
          rw [hNone] at hWrites
          cases hWrites
      | read path =>
          obtain ⟨_, _, _, _, _, hNone, _⟩ := Access.plan_ok hPlan
          rw [hNone] at hWrites
          cases hWrites

theorem moves_openTarget (hRequest : requests[i]? = some request)
    (hPlan : Access.plan s request base = .ok (.write path key text)) (bytes : Bytes) :
    Moves s base i world (.writing request path key bytes .openTarget)
      ((Call.writing request path key bytes .openTarget).step s i world).1
      ((Call.writing request path key bytes .openTarget).step s i world).2 := by
  obtain ⟨hLocks, _⟩ := hBase.locksFile hRequest hPlan
  obtain ⟨number, data, hFile, hData⟩ := hLocks.file
  obtain ⟨now, hNow, hRun⟩ := WriteStage.run_openTarget_of_find (hBase.faultAt? _) hRefills
    hLocks.found hFile hData bytes
  unfold step advance
  dsimp only
  rw [hRun]
  cases hMay : base.isWritableAt key with
  | true => exact .opened hFile hNow hMay
  | false => exact .refused hMay

end

theorem moves_fillTarget (hBase : IsInPlace s base requests) :
    Moves s base i world (.writing request path key bytes (.fillTarget number))
      ((Call.writing request path key bytes (.fillTarget number)).step s i world).1
      ((Call.writing request path key bytes (.fillTarget number)).step s i world).2 := by
  unfold step advance
  dsimp only
  rw [WriteStage.run_fillTarget (hBase.faultAt? _)]
  exact .filled

theorem moves_settled (base : Tree) (file : Option Nat) (result : Except SystemError Unit) :
    Moves s base i world (.settled request path key bytes file result)
      ((Call.settled request path key bytes file result).step s i world).1
      ((Call.settled request path key bytes file result).step s i world).2 := by
  obtain ⟨after, hConclude, hQuiet⟩ := conclude_eq s i request path key bytes result world
  unfold step
  dsimp only
  rw [hConclude]
  exact .left hQuiet.tree hQuiet.locks hQuiet.root

theorem moves_waiting (hBase : IsInPlace s base requests) :
    Moves s base i world (.waiting request path key bytes)
      ((Call.waiting request path key bytes).step s i world).1
      ((Call.waiting request path key bytes).step s i world).2 := by
  unfold step
  dsimp only
  rw [enter_in_place hBase.strategy]
  exact .called

end Call

end ConfigGate
