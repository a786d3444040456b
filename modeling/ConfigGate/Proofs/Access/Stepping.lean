import ConfigGate.Proofs.Access.History

/-! Every step of a client keeps the history in order. There is one law for each state that a client can
be in. Most steps leave the tree alone, and only the stages of a write do not. -/
namespace ConfigGate

open Act Tree

variable {s : Setting} {base : Tree} {requests : List Request}

namespace Client

/-- A listing that is over has been told, or the reason why there is none. -/
theorem ofCall_listed (s : Setting) (tree : Tree) (path : Path) (result : Except Failure Listing) :
    ofCall (.finished (result.map (.listed path))) =
      .served (Access.answerOf s tree (result.map (.listed path))) := by
  cases result <;> rfl

end Client

theorem Answer.timeless_listed (s : Setting) (tree : Tree) (path : Path)
    (result : Except Failure Listing) :
    (Access.answerOf s tree (result.map (.listed path))).timeless =
      Access.answerOf s tree ((result.map Listing.timeless).map (.listed path)) := by
  cases result <;> rfl

/-- The client `i` has come to a new state, and the history is in order. -/
def StaysInOrder (s : Setting) (base : Tree) (requests : List Request) (pool : Clients)
    (history : List (Nat × Answer)) (alone : World) (i : Nat) (next : Client × World) : Prop :=
  ∃ history' alone', Adds s requests i history alone history' alone' ∧
    Linearized s base requests ⟨pool.clients.set i next.1, next.2⟩ history' alone'

namespace Linearized

variable {pool : Clients} {history history' : List (Nat × Answer)} {alone alone' world : World}
  {i : Nat} {client client' : Client}

/-- A step that leaves the tree alone. -/
theorem of_quiet (hBase : IsOrdinary s base) (h : Linearized s base requests pool history alone)
    (hClient : pool.clients[i]? = some client) (hPrivate : client.private? = none)
    (hAdds : Adds s requests i history alone history' alone')
    (hTree : world.tree = pool.world.tree) (hAlone : alone'.tree = alone.tree)
    (hKept : ConfigRoot.IsKept s base world) (hRoot : pool.world.root.isSome → world.root.isSome)
    (hLocks : ∀ key j, j ≠ i → pool.world.locks.holder? key = some j →
      world.locks.holder? key = some j)
    (hMine : Stands s base requests world history' i client') :
    StaysInOrder s base requests pool history alone i (client', world) := by
  refine ⟨history', alone', hAdds, h.of_step hBase hClient hAdds hKept (hTree ▸ h.hosts)
    (.of_tree hTree hRoot hLocks) hMine fun location => ?_⟩
  exact .inr (.inr ⟨by rw [hTree], by rw [hAlone], by simp [hPrivate]⟩)

/-- A step that gives the answer and leaves the tree alone. -/
theorem of_answered (hBase : IsOrdinary s base) (h : Linearized s base requests pool history alone)
    (hClient : pool.clients[i]? = some client) (hPrivate : client.private? = none)
    {request : Request} {answer told : Answer} {last : World} (hRequest : requests[i]? = some request)
    (hNew : i ∉ history.map Prod.fst) (hServe : Access.serve s request alone = (told, last))
    (hSame : answer.timeless = told.timeless) (hTree : world.tree = pool.world.tree)
    (hLast : last.tree = alone.tree) (hKept : ConfigRoot.IsKept s base world)
    (hRoot : pool.world.root.isSome → world.root.isSome)
    (hLocks : ∀ key j, j ≠ i → pool.world.locks.holder? key = some j →
      world.locks.holder? key = some j) :
    StaysInOrder s base requests pool history alone i (.served answer, world) :=
  h.of_quiet hBase hClient hPrivate (.answer hRequest hNew hServe) hTree hLast hKept hRoot hLocks
    (.served (List.mem_append_right _ (List.mem_singleton_self _)) hSame)

section

variable (hBase : IsOrdinary s base)
  (hNames : ∀ request ∈ requests, ¬ Access.NamesTemporary request)
  (h : Linearized s base requests pool history alone) (hClient : pool.clients[i]? = some client)

include hBase hNames h

/-- What was free in the beginning is free, or it is the place of a private file. -/
theorem private_of_free {location : Location} {number : Nat}
    (hFree : base.outline? location = none) (hFile : pool.world.tree.fileAt? location = some number) :
    ∃ j client path bytes stage n number', pool.clients[j]? = some client ∧
      client.private?.isSome ∧
      location = WriteStage.temporaryPlace s.site.working path n ∧
      pool.world.locks.holder? (path.place s.site.working) = some j ∧
      WriteStage.Underway s base pool.world.tree path bytes stage n number' := by
  have hThere : pool.world.tree.node? location ≠ none := by
    rw [ne_eq, node?_eq_none h.hosts.wf, (timeless?_eq_file _).mpr hFile]
    simp
  rcases h.shows location with hSame | ⟨j, client, temporary, hClient, hTemporary, rfl⟩
  · have hOutline := (h.steady hBase hNames).preserved.outline location
    rw [hFree, Tree.outline?, ← hSame, Option.map_eq_none_iff] at hOutline
    exact absurd hOutline hThere
  · obtain ⟨path, bytes, stage, n, number', hPlace, hHolds, hUnderway⟩ :=
      (h.stands j client hClient).isUnderway hBase hTemporary
    exact ⟨j, client, path, bytes, stage, n, number', hClient, by simp [hTemporary], hPlace, hHolds,
      hUnderway⟩

/-- A file that a request has opened is read by nobody but readers. -/
theorem reads_of_target {path : Path} {number : Nat} {data : FileData}
    (hTarget : Access.IsTarget s base path)
    (hFile : pool.world.tree.fileAt? (path.place s.site.working) = some number)
    (hData : pool.world.tree.data? number = some data) :
    Reads base pool.world.tree number data.bytes where
  known := h.hosts.wf.lt_nextFile hFile
  data := by rw [hData]; rfl
  named location hLocation := by
    rw [Option.isSome_iff_ne_none]
    intro hFree
    obtain ⟨j, client, other, bytes, stage, n, number', _, _, rfl, _, hUnderway⟩ :=
      h.private_of_free hBase hNames hFree hLocation
    have hSame : number = number' := Option.some.inj (hLocation.symm.trans hUnderway.file)
    subst hSame
    exact hUnderway.place_ne hTarget (hUnderway.alone _ hFile).symm

include hClient

section Entering

variable {request : Request} {path : Path} {text : String} (hPrivate : client.private? = none)
  (hTree : world.tree = pool.world.tree)
  (hLocks : ∀ key j, j ≠ i → pool.world.locks.holder? key = some j →
    world.locks.holder? key = some j)

include hPrivate hTree hLocks

/-- The holder of a lock has all names for private files to itself. -/
theorem free_of_holds (hHolds : world.locks.holder? (path.place s.site.working) = some i) {n : Nat}
    (hNone : base.outline? (WriteStage.temporaryPlace s.site.working path n) = none) :
    world.tree.timeless? (WriteStage.temporaryPlace s.site.working path n) = none := by
  have hHosts : Hosts base world.tree := hTree ▸ h.hosts
  rcases hHosts.resembles (WriteStage.temporaryPlace s.site.working path n) with
    hSame | ⟨_, _, mode, hFile⟩
  · rwa [timeless?_eq_none, ← outline?_eq_none hHosts.wf, hSame]
  · obtain ⟨number, _, hNumber, _⟩ := fileAt?_of_outline hFile
    rw [hTree] at hNumber
    obtain ⟨j, other, path', bytes, stage, m, _, hOther, hHas, hPlace, hOtherHolds, _⟩ :=
      h.private_of_free hBase hNames hNone hNumber
    have hNe : j ≠ i := by
      rintro rfl
      cases hOther.symm.trans hClient
      rw [hPrivate] at hHas
      cases hHas
    have hSame := hLocks _ j hNe hOtherHolds
    rw [← WriteStage.place_of_temporaryPlace hPlace, hHolds] at hSame
    exact absurd (Option.some.inj hSame).symm hNe

variable (hRequest : requests[i]? = some request) (hNew : i ∉ history.map Prod.fst)
  (hKept : ConfigRoot.IsKept s base world) (hRoot : world.root.isSome)
  (hPlan : Access.plan s request base = .ok (.write path (path.place s.site.working) text))

include hRequest hNew hKept hRoot hPlan

/-- A write that may begin makes its private file. -/
theorem step_of_created (hHolds : world.locks.holder? (path.place s.site.working) = some i)
    (hCan : WriteStage.CanCreate s.site.working path base) :
    ∃ temporary next after, WriteStage.createTemporary s.site.working path WriteStage.temporaryNames
        world.temporaries world.tree = .ok (temporary, next, after) ∧
      StaysInOrder s base requests pool history alone i
        (.calling (.writing request path (path.place s.site.working) (Text.Utf8.encode text)
          (.openPrivate temporary)), { world with tree := after, temporaries := next }) := by
  have hHosts : Hosts base world.tree := hTree ▸ h.hosts
  obtain ⟨hTarget, _, _⟩ := Access.isTarget_of_write hBase.working hBase.linkless hPlan
  obtain ⟨n, next, after, hMade, _, hTouches, hAfter, hUnderway⟩ :=
    WriteStage.createTemporary_hosted (Text.Utf8.encode text) hBase hHosts hCan
      (fun _ => h.free_of_holds hBase hNames hClient hPrivate hTree hLocks hHolds) world.temporaries
  refine ⟨_, next, after, hMade, history, alone, .nothing, h.of_step hBase hClient .nothing
    (hKept.of_isSome rfl hRoot) hAfter ?_ (.writing hRequest hNew hRoot hPlan hHolds hUnderway)
    fun location => ?_⟩
  · have hPlaces : ∀ location ∈ [WriteStage.temporaryPlace s.site.working path n],
        location = path.place s.site.working ∨
          ∃ m, location = WriteStage.temporaryPlace s.site.working path m := by
      intro location hMem
      exact .inr ⟨n, by simpa using hMem⟩
    exact Leaves.trans (.of_tree hTree (fun _ => hRoot) hLocks)
      (.of_touches hHosts.wf hTarget hHolds hPlaces (.inl rfl) hTouches rfl rfl)
  · by_cases hPlace : location = WriteStage.temporaryPlace s.site.working path n
    · left
      refine ⟨_, rfl, ?_⟩
      rw [WriteStage.place_temporaryPath hBase.working, hPlace]
    · refine .inr (.inr ⟨?_, rfl, by simp [hPrivate]⟩)
      rw [← hTree]
      exact hTouches.node? (by simpa using hPlace) fun hFile =>
        Nat.lt_irrefl _ (hHosts.wf.lt_nextFile hFile)

/-- A write that cannot make a private file is refused. -/
theorem step_of_refused (hCannot : ¬ WriteStage.CanCreate s.site.working path base)
    (e : SystemError) :
    StaysInOrder s base requests pool history alone i
      (Client.ofCall (Call.conclude s i request path (path.place s.site.working)
          (Text.Utf8.encode text) (.error e) world).1,
        (Call.conclude s i request path (path.place s.site.working) (Text.Utf8.encode text)
          (.error e) world).2) := by
  have hName := hNames request (List.mem_of_getElem? hRequest)
  obtain ⟨after, hConclude, hQuiet⟩ := Call.conclude_eq s i request path
    (path.place s.site.working) (Text.Utf8.encode text) (.error e) world
  rw [hConclude]
  obtain ⟨last, hServe, hLast, _⟩ :=
    Access.serve_refused hBase (h.steady hBase hNames) hName hPlan hCannot
  refine h.of_answered hBase hClient hPrivate hRequest hNew hServe rfl (hQuiet.tree.trans hTree)
    hLast (hKept.of_root hQuiet.root hQuiet.tree) (fun _ => hQuiet.root ▸ hRoot) ?_
  intro key j hNe hOther
  rw [hQuiet.locks]
  exact LockTable.holder?_release (hLocks key j hNe hOther) hNe

end Entering

theorem step_of_enter (world : World) (hPrivate : client.private? = none) {request : Request} {path : Path}
    {key : Location} {text : String} (hRequest : requests[i]? = some request)
    (hNew : i ∉ history.map Prod.fst)
    (hPlan : Access.plan s request base = .ok (.write path key text))
    (hTree : world.tree = pool.world.tree) (hKept : ConfigRoot.IsKept s base world)
    (hRoot : world.root.isSome)
    (hLocks : ∀ key j, j ≠ i → pool.world.locks.holder? key = some j →
      world.locks.holder? key = some j) :
    StaysInOrder s base requests pool history alone i
      (Client.ofCall (Call.enter s i request path key (Text.Utf8.encode text) world).1,
        (Call.enter s i request path key (Text.Utf8.encode text) world).2) := by
  obtain ⟨_, rfl, _⟩ := Access.isTarget_of_write hBase.working hBase.linkless hPlan
  rw [Call.enter_eq hBase]
  by_cases hHolds : world.locks.holder? (path.place s.site.working) = some i
  · rw [if_pos hHolds]
    by_cases hCan : WriteStage.CanCreate s.site.working path base
    · obtain ⟨temporary, next, after, hMade, hStays⟩ := h.step_of_created hBase hNames hClient
        hPrivate hTree hLocks hRequest hNew hKept hRoot hPlan hHolds hCan
      rw [hMade]
      exact hStays
    · obtain ⟨e, hRefused⟩ := WriteStage.createTemporary_refused hBase (hTree ▸ h.hosts) hCan
        WriteStage.temporaryNames world.temporaries
      rw [hRefused]
      exact h.step_of_refused hBase hNames hClient hPrivate hTree hLocks hRequest hNew hKept hRoot
        hPlan hCan e
  · rw [if_neg hHolds]
    exact h.of_quiet hBase hClient hPrivate .nothing hTree rfl hKept (fun _ => hRoot) hLocks
      (.waiting hRequest hNew hRoot hPlan)

/-- A directory is listed in one step. -/
theorem step_of_listed {request : Request} {path root : Path} {listed : World}
    (hPrivate : client.private? = none) (hRequest : requests[i]? = some request)
    (hNew : i ∉ history.map Prod.fst)
    (hPlan : Access.plan s request base = .ok (.list path root))
    (hTree : listed.tree = pool.world.tree) (hKept : ConfigRoot.IsKept s base listed)
    (hRoot : pool.world.root.isSome → listed.root.isSome)
    (hLocks : listed.locks = pool.world.locks) :
    StaysInOrder s base requests pool history alone i
      (Client.ofCall (Call.finish request
          ((Listing.listed s path root pool.world.tree).map (.listed path)) listed).1,
        (Call.finish request
          ((Listing.listed s path root pool.world.tree).map (.listed path)) listed).2) := by
  have hSteady := h.steady hBase hNames
  have hName := hNames request (List.mem_of_getElem? hRequest)
  obtain ⟨last, hFinish, hEnd⟩ := Call.finish_eq request
    ((Listing.listed s path root pool.world.tree).map (.listed path)) listed
  rw [hFinish]
  dsimp only
  rw [Client.ofCall_listed s alone.tree]
  obtain ⟨last', hServe, hLast, _⟩ := Access.serve_list hBase hSteady hName hPlan
  refine h.of_answered hBase hClient hPrivate hRequest hNew hServe ?_ (hEnd.tree.trans hTree) hLast
    (hKept.of_root hEnd.root hEnd.tree) (fun hSome => hEnd.root ▸ hRoot hSome) ?_
  · obtain ⟨_, hFind, mode, hMode, _⟩ := Access.outline_of_list hBase.linkless hPlan
    have hGrows := hSteady.preserved.hosts.grows hBase.wf
    have hDirectory : alone.tree.directoryModeAt? (path.place s.site.working) = some mode := by
      rw [hGrows.directoryModeAt?]
      exact directoryModeAt?_of_outline hMode
    rw [Answer.timeless_listed, Answer.timeless_listed,
      Listing.listed_mirrors (h.mirrors hBase hNames) hSteady.preserved.wf h.hosts.wf
        (hGrows.isLinkless hBase.linkless) (find_grow hGrows hFind) hDirectory]
  · intro key j _ hOther
    rwa [hEnd.locks, hLocks]

theorem step_ready {request : Request} (hState : client = .calling (.ready request))
    (hRequest : requests[i]? = some request) (hNew : i ∉ history.map Prod.fst) :
    StaysInOrder s base requests pool history alone i (client.step s i pool.world) := by
  subst hState
  have hName := hNames request (List.mem_of_getElem? hRequest)
  obtain ⟨hResult, hKeeps⟩ := Access.attempt_planned_hosted hBase h.hosts h.kept hName
  unfold Client.step
  dsimp only
  have hPlanned := attempt_eq_of_result hResult
  rw [Call.step_ready, hPlanned]
  generalize (attempt (Access.planned s request) pool.world).2 = after at hKeeps hPlanned
  have hTree : after.tree = pool.world.tree := hKeeps.quiet.tree
  have hLocks : after.locks = pool.world.locks := hKeeps.quiet.locks
  cases hPlan : Access.plan s request base with
  | error failure =>
      obtain ⟨last, hFinish, hQuiet⟩ := Call.finish_eq request (.error failure) after
      obtain ⟨last', hServe, hLast, _⟩ :=
        Access.serve_rejected hBase (h.steady hBase hNames) hName hPlan
      dsimp only
      rw [hFinish]
      refine h.of_answered hBase hClient rfl hRequest hNew hServe rfl (hQuiet.tree.trans hTree) hLast
        (hKeeps.kept.of_root hQuiet.root hQuiet.tree) (fun hSome => hQuiet.root ▸ hKeeps.root hSome)
        fun key j _ hOther => ?_
      rwa [hQuiet.locks, hLocks]
  | ok made =>
      cases made with
      | write path key text =>
          rw [hPlan] at hPlanned
          have hRoot : after.root.isSome := Access.root_of_planned hPlanned
          refine h.step_of_enter hBase hNames hClient
            { after with locks := after.locks.request key i } rfl hRequest hNew hPlan hTree
            (hKeeps.kept.of_root rfl rfl) hRoot fun key' j _ hOther => ?_
          exact LockTable.holder?_request (by rwa [hLocks])
      | list path root =>
          dsimp only
          obtain ⟨hListed, hQuiet⟩ := Listing.attempt_list s path root after
          rw [hListed, hTree]
          exact h.step_of_listed hBase hNames hClient rfl hRequest hNew hPlan
            (hQuiet.tree.trans hTree) (hKeeps.kept.of_root hQuiet.root hQuiet.tree)
            (fun hSome => hQuiet.root ▸ hKeeps.root hSome) (hQuiet.locks.trans hLocks)
      | read path =>
          exact h.of_quiet hBase hClient rfl .nothing hTree rfl hKeeps.kept hKeeps.root
            (fun key j _ hOther => by rwa [hLocks]) (.opening hRequest hNew hPlan)

section Writing

variable {request : Request} {path : Path} {text : String} {stage : WriteStage} {n number : Nat}
  (hState : client = .calling (.writing request path (path.place s.site.working)
    (Text.Utf8.encode text) stage))
  (hRequest : requests[i]? = some request) (hNew : i ∉ history.map Prod.fst)
  (hRoot : pool.world.root.isSome)
  (hPlan : Access.plan s request base = .ok (.write path (path.place s.site.working) text))
  (hHolds : pool.world.locks.holder? (path.place s.site.working) = some i)
  (hUnderway : WriteStage.Underway s base pool.world.tree path (Text.Utf8.encode text) stage n
    number)

include hState hRequest hNew hRoot hPlan hHolds hUnderway

omit hNames h hClient hRequest hNew hRoot hPlan hHolds in
/-- A writer has one private file. -/
theorem ne_private_of_ne {location : Location}
    (hNe : location ≠ WriteStage.temporaryPlace s.site.working path n) {temporary : Path}
    (hTemporary : client.private? = some temporary) : location ≠ temporary.place s.site.working := by
  subst hState
  cases hUnderway.temporary.symm.trans hTemporary
  rwa [WriteStage.place_temporaryPath hBase.working]

omit hNames in
/-- The private file changes, and nobody else has it. -/
theorem step_of_changed {next : WriteStage} {f : FileData → FileData}
    (hNext : WriteStage.Underway s base (pool.world.tree.change number f) path
      (Text.Utf8.encode text) next n number) :
    StaysInOrder s base requests pool history alone i
      (.calling (.writing request path (path.place s.site.working) (Text.Utf8.encode text) next),
        { pool.world with tree := pool.world.tree.change number f }) := by
  obtain ⟨hTarget, _, _⟩ := Access.isTarget_of_write hBase.working hBase.linkless hPlan
  have hTouches := touches_change pool.world.tree number f
  refine ⟨history, alone, .nothing, h.of_step hBase hClient .nothing (h.kept.of_isSome rfl hRoot)
    (hUnderway.hosts h.hosts f) ?_ (.writing hRequest hNew hRoot hPlan hHolds hNext) fun location => ?_⟩
  · exact .of_touches h.hosts.wf hTarget hHolds (by simp)
      (.inr ⟨n, hUnderway.outline?_place, hUnderway.file⟩) hTouches rfl rfl
  · by_cases hPlace : location = WriteStage.temporaryPlace s.site.working path n
    · left
      refine ⟨_, hNext.temporary, ?_⟩
      rw [WriteStage.place_temporaryPath hBase.working, hPlace]
    · refine .inr (.inr ⟨?_, rfl, fun _ => ne_private_of_ne hBase hState hUnderway hPlace⟩)
      exact hTouches.node? (by simp) fun hFile => hPlace (hUnderway.alone _ hFile)

/-- The private file takes the place of the target, which decides the answer. -/
theorem step_of_moved {data : FileData} (hData : pool.world.tree.data? number = some data)
    (hBytes : data.bytes = Text.Utf8.encode text)
    (hMode : base.outline? (path.place s.site.working) = some (.file data.mode [])) (file : Option Nat) :
    StaysInOrder s base requests pool history alone i
      (.calling (.settled request path (path.place s.site.working) (Text.Utf8.encode text) file (.ok ())),
        { pool.world with
          tree := rename.move pool.world.tree (WriteStage.temporaryPlace s.site.working path n)
            (path.place s.site.working) (.file number) }) := by
  have hSteady := h.steady hBase hNames
  have hName := hNames request (List.mem_of_getElem? hRequest)
  obtain ⟨hTarget, _, hText⟩ := Access.isTarget_of_write hBase.working hBase.linkless hPlan
  have hCan : WriteStage.CanCreate s.site.working path base :=
    ⟨n, _, hUnderway.free, hUnderway.isOpen⟩
  obtain ⟨mode, last, hOver, hServe, hAfter, _⟩ :=
    Access.serve_write hBase hSteady hName hPlan hCan
  have hSameMode : data.mode = mode := by
    rw [hMode] at hOver
    cases hOver
    rfl
  have hNode := hUnderway.node?_move hTarget h.hosts hData
  refine ⟨_, last, .answer hRequest hNew hServe, h.of_step hBase hClient
    (.answer hRequest hNew hServe) (h.kept.of_isSome rfl hRoot)
    (hUnderway.hosts_move hTarget h.hosts hData hMode) ?_
    (.settled hText (List.mem_append_right _ (List.mem_singleton_self _))) fun location => .inr ?_⟩
  · refine .of_touches h.hosts.wf hTarget hHolds ?_
      (.inr ⟨n, hUnderway.outline?_place, hUnderway.file⟩) (hUnderway.touches_move hTarget h.hosts)
      rfl rfl
    intro location hMem
    simp only [List.mem_cons, List.not_mem_nil, or_false] at hMem
    rcases hMem with rfl | rfl
    · exact .inr ⟨n, rfl⟩
    · exact .inl rfl
  · dsimp only
    rw [hNode, hAfter]
    -- The target is as it is after the write alone, the private name is free as it is there, and
    -- everything else is as it was.
    by_cases hTo : location = path.place s.site.working
    · rw [if_pos hTo, if_pos hTo, hSameMode, hBytes]
      exact .inl rfl
    rw [if_neg hTo, if_neg hTo]
    by_cases hPlace : location = WriteStage.temporaryPlace s.site.working path n
    · rw [if_pos hPlace, hPlace]
      left
      have hOutline := hSteady.preserved.outline
        (WriteStage.temporaryPlace s.site.working path n)
      rw [hUnderway.outline?_place] at hOutline
      exact (Option.map_eq_none_iff.mp hOutline).symm
    · rw [if_neg hPlace]
      exact .inr ⟨rfl, rfl, fun _ => ne_private_of_ne hBase hState hUnderway hPlace⟩

theorem step_writing :
    StaysInOrder s base requests pool history alone i (client.step s i pool.world) := by
  obtain ⟨hTarget, _, _⟩ := Access.isTarget_of_write hBase.working hBase.linkless hPlan
  have hStep : client.step s i pool.world =
      (.ofCall (Call.advance s request path (path.place s.site.working) (Text.Utf8.encode text) stage
        pool.world).1, (Call.advance s request path (path.place s.site.working)
          (Text.Utf8.encode text) stage pool.world).2) := by
    rw [hState]
    rfl
  rw [hStep, Call.advance]
  rcases hUnderway.run hBase hTarget h.hosts with
    ⟨next, f, hRun, hNext, _⟩ | ⟨data, hRun, hData, hBytes, hMode⟩
  · rw [hRun]
    exact h.step_of_changed hBase hClient hState hRequest hNew hRoot hPlan hHolds hUnderway hNext
  · rw [hRun]
    exact h.step_of_moved hBase hNames hClient hState hRequest hNew hRoot hPlan hHolds hUnderway
      hData hBytes hMode _

end Writing

theorem step_opening {request : Request} {path : Path}
    (hState : client = .calling (.opening request path))
    (hRequest : requests[i]? = some request) (hNew : i ∉ history.map Prod.fst)
    (hPlan : Access.plan s request base = .ok (.read path)) :
    StaysInOrder s base requests pool history alone i (client.step s i pool.world) := by
  subst hState
  have hSteady := h.steady hBase hNames
  have hName := hNames request (List.mem_of_getElem? hRequest)
  have hTarget := Access.isTarget_of_read hBase.working hBase.linkless hPlan
  obtain ⟨number, data, hOpened, hFile, hData⟩ := hTarget.opened hBase h.hosts
  have hStep : (Client.calling (.opening request path)).step s i pool.world =
      (.calling (.opened request path (.ok number)), pool.world) := by
    unfold Client.step
    dsimp only [Call.step]
    rw [hTarget.nul, hOpened]
    rfl
  rw [hStep]
  obtain ⟨mode, bytes, last, hNode, hServe, hLast, _⟩ := Access.serve_read hBase hSteady hName hPlan
  have hBytes : data.bytes = bytes := by
    have hThere : pool.world.tree.node? (path.place s.site.working) =
        some (.file data.mode data.bytes) := by
      rw [node?_of_file hFile, hData]
      rfl
    rcases h.mirrors hBase hNames (path.place s.site.working) with hSame | ⟨_, hNone, _⟩
    · rw [hThere, hNode] at hSame
      cases hSame
      rfl
    · rw [hNode] at hNone
      cases hNone
  refine h.of_quiet hBase hClient rfl (.answer hRequest hNew hServe) rfl hLast h.kept id
    (fun _ _ _ hOther => hOther)
    (.opened (h.reads_of_target hBase hNames hTarget hFile hData) ?_)
  rw [hBytes]
  exact List.mem_append_right _ (List.mem_singleton_self _)

omit hNames in
theorem step_settled {request : Request} {path : Path} {key : Location} {bytes : Bytes}
    {text : String} {file : Option Nat}
    (hState : client = .calling (.settled request path key bytes file (.ok ())))
    (hText : request.contents = some text) (hDone : (i, .written path text) ∈ history) :
    StaysInOrder s base requests pool history alone i (client.step s i pool.world) := by
  subst hState
  obtain ⟨after, hConclude, hQuiet⟩ :=
    Call.conclude_eq s i request path key bytes (.ok ()) pool.world
  unfold Client.step
  dsimp only [Call.step]
  rw [hConclude]
  refine h.of_quiet hBase hClient rfl .nothing hQuiet.tree rfl (h.kept.of_root hQuiet.root hQuiet.tree)
    (fun hSome => hQuiet.root ▸ hSome) ?_ (.served hDone ?_)
  · intro key' j hNe hOther
    rw [hQuiet.locks]
    exact LockTable.holder?_release hOther hNe
  · rw [hText]
    rfl

omit hNames in
theorem step_opened {request : Request} {path : Path} {file : Nat} {bytes : Bytes}
    (hState : client = .calling (.opened request path (.ok file)))
    (hReads : Reads base pool.world.tree file bytes)
    (hDone : (i, .received path ⟨Stream.chunksOf Stream.chunkSize bytes, none⟩) ∈ history) :
    StaysInOrder s base requests pool history alone i (client.step s i pool.world) := by
  subst hState
  obtain ⟨id, after, hStep, hTree, hLocks, hRoot⟩ :=
    Client.step_opened s i request path file pool.world
  rw [hStep]
  have hAfter : Reads base after.tree file bytes := by rwa [hTree]
  have hFirst : ([] : List Bytes).reverse ++
      Stream.chunksOf Stream.chunkSize (bytes.drop ([] : List Bytes).flatten.length) =
        Stream.chunksOf Stream.chunkSize bytes := by
    rw [List.reverse_nil, List.nil_append, List.flatten_nil, List.length_nil, List.drop_zero]
  refine h.of_quiet hBase hClient rfl .nothing hTree rfl (h.kept.of_root hRoot hTree)
    (fun hSome => hRoot ▸ hSome) (fun key j _ hOther => ?_) (.receiving hAfter hDone hFirst)
  rwa [hLocks]

omit hNames in
theorem step_receiving {stream : Stream} {found : List Bytes} {bytes : Bytes}
    (hState : client = .receiving stream found)
    (hReads : Reads base pool.world.tree stream.file bytes)
    (hDone : (i, .received stream.path ⟨Stream.chunksOf Stream.chunkSize bytes, none⟩) ∈ history)
    (hFound : found.reverse ++ Stream.chunksOf Stream.chunkSize (bytes.drop found.flatten.length) =
      Stream.chunksOf Stream.chunkSize bytes) :
    StaysInOrder s base requests pool history alone i (client.step s i pool.world) := by
  subst hState
  obtain ⟨data, hData, rfl⟩ := Option.map_eq_some_iff.mp hReads.data
  change StaysInOrder s base requests pool history alone i (Client.receive s stream found pool.world)
  rcases Client.receive_eq (fun _ => hBase.faultAt? _) hData with
    ⟨hEnd, after, hStep, hTree, hLocks, hRoot⟩ | ⟨hMore, hStep⟩
  · rw [hStep]
    refine h.of_quiet hBase hClient rfl .nothing hTree rfl (h.kept.of_root hRoot hTree)
      (fun hSome => hRoot ▸ hSome) (fun key j _ hOther => ?_) (.served hDone ?_)
    · rwa [hLocks]
    · rw [hEnd, Stream.chunksOf_nil Stream.chunkSize_pos, List.append_nil] at hFound
      rw [hFound]
  · rw [hStep]
    refine h.of_quiet hBase hClient rfl .nothing rfl rfl h.kept id (fun _ _ _ hOther => hOther)
      (.receiving hReads hDone ?_)
    rw [Stream.chunksOf_eq_cons Stream.chunkSize_pos hMore] at hFound
    have hRest : data.bytes.drop (((data.bytes.drop found.flatten.length).take Stream.chunkSize) ::
        found).flatten.length = (data.bytes.drop found.flatten.length).drop Stream.chunkSize := by
      rw [List.flatten_cons, List.length_append, Nat.add_comm, ← List.drop_drop,
        List.drop_eq_drop_iff]
      simp
    rw [← hFound, List.reverse_cons, List.append_assoc, List.singleton_append, hRest]

/-- Whatever a client does next, the history stays in order. -/
theorem step : StaysInOrder s base requests pool history alone i (client.step s i pool.world) := by
  cases h.stands i client hClient with
  | ready hRequest hNew => exact h.step_ready hBase hNames hClient rfl hRequest hNew
  | waiting hRequest hNew hRoot hPlan =>
      exact h.step_of_enter hBase hNames hClient _ rfl hRequest hNew hPlan rfl h.kept hRoot
        fun _ _ _ hOther => hOther
  | writing hRequest hNew hRoot hPlan hHolds hUnderway =>
      obtain ⟨_, rfl, _⟩ := Access.isTarget_of_write hBase.working hBase.linkless hPlan
      exact h.step_writing hBase hNames hClient rfl hRequest hNew hRoot hPlan hHolds hUnderway
  | settled hText hDone => exact h.step_settled hBase hClient rfl hText hDone
  | opening hRequest hNew hPlan => exact h.step_opening hBase hNames hClient rfl hRequest hNew hPlan
  | opened hReads hDone => exact h.step_opened hBase hClient rfl hReads hDone
  | receiving hReads hDone hFound =>
      exact h.step_receiving hBase hClient rfl hReads hDone hFound
  | served hDone hSame =>
      exact h.of_quiet hBase hClient rfl .nothing rfl rfl h.kept id (fun _ _ _ hOther => hOther)
        (.served hDone hSame)

end

end Linearized

end ConfigGate
