import ConfigGate.Access.Client
import ConfigGate.Proofs.Access.Listing
import ConfigGate.Proofs.Access.Read
import ConfigGate.Proofs.Access.Underway

/-! What an access gives when nobody comes in between. It is first planned and then carried out, and the
plan is the same as in the beginning. -/
namespace ConfigGate

open Act Tree

variable {s : Setting} {base : Tree} {request : Request} {world after : World}

/-! An access in two parts -/

namespace Access

/-- Find out what is to be done with a path that may be accessed. -/
def choose (s : Setting) (request : Request) (path root : Path) : Act Plan :=
  match request.contents with
  | some text => return .write path (← Write.prepare s path) text
  | none => do
    if ← Act.ask fun world => s.isDirectory path world.tree then return .list path root
    else return .read path

/-- Find out what an access is going to do. -/
def planned (s : Setting) (request : Request) : Act Plan := do
  let (path, root) ← target s request
  choose s request path root

/-- Do what has been planned. -/
def carryOut (s : Setting) : Plan → Act Reply
  | .write path key text => do
    let bytes := Text.Utf8.encode text
    Write.requestLock key 0
    let world ← get
    let stage := WriteStage.first s.service.strategy
    let (result, world) := stage.runAll s path bytes stage.remaining world
    set world
    Write.conclude s path key 0 bytes result
    return .written path text
  | .list path root => return .listed path (← Listing.list s path root)
  | .read path => return .read path (← Stream.ofPath s path)

theorem perform_eq (s : Setting) (request : Request) :
    perform s request = planned s request >>= carryOut s := by
  unfold perform planned choose
  rw [bind_assoc]
  congr 1
  funext ⟨path, root⟩
  dsimp only
  cases request.contents with
  | some text => simp [Write.file, carryOut]
  | none =>
      dsimp only
      rw [bind_assoc]
      congr 1
      funext found
      cases found <;> simp [carryOut]

/-! Planning -/

theorem attempt_choose (s : Setting) (request : Request) (path root : Path) (world : World) :
    attempt (choose s request path root) world = (chosen s request path root world.tree, world) := by
  unfold choose chosen
  cases request.contents with
  | some text =>
      dsimp only
      rw [attempt_bind, Write.attempt_prepare]
      cases Write.prepared s path world.tree <;> rfl
  | none =>
      dsimp only
      rw [attempt_bind, attempt_ask]
      rcases s.isDirectory path world.tree with _ | (_ | _) <;> rfl

/-- Files, locks, and streams are as they were, and the root is the one that the search finds. It is not
lost. -/
structure Keeps (s : Setting) (base : Tree) (before after : World) : Prop where
  quiet : World.Quiet { before with root := after.root } after
  kept : ConfigRoot.IsKept s base after
  root : before.root.isSome → after.root.isSome

/-- Planning changes nothing, and depends on the root and the tree alone. -/
theorem attempt_planned (request : Request) (hKept : ConfigRoot.IsKept s base world) :
    (attempt (planned s request) world).1 =
        ConfigRoot.found s base >>= planUnder s request world.tree ∧
      Keeps s base world (attempt (planned s request) world).2 := by
  obtain ⟨hResult, hRoot⟩ := attempt_target (s := s) request world
  have hQuiet := quiet_target (s := s) request world
  obtain ⟨hResolve, hKept'⟩ := hKept.attempt_resolve
  have hKeeps : Keeps s base world (attempt (target s request) world).2 :=
    ⟨hQuiet, hKept'.of_root hRoot.root hRoot.tree, fun hSome => by
      obtain ⟨root, hWorld⟩ := Option.isSome_iff_exists.mp hSome
      rw [hRoot.root, ConfigRoot.attempt_resolve_of_root hWorld]
      exact hSome⟩
  unfold planned
  rw [hResolve] at hResult
  rw [attempt_bind]
  rcases hTarget : attempt (target s request) world with ⟨result, middle⟩
  rw [hTarget] at hResult hKeeps
  have hTree : middle.tree = world.tree := hKeeps.quiet.tree
  dsimp only at hResult
  subst hResult
  cases ConfigRoot.found s base with
  | error failure => exact ⟨rfl, hKeeps⟩
  | ok root =>
      dsimp only [bind, Except.bind]
      unfold planUnder
      cases Guard.decision s root request.file world.tree with
      | error failure => exact ⟨rfl, hKeeps⟩
      | ok path =>
          dsimp only [Except.map]
          rw [attempt_choose, hTree]
          exact ⟨rfl, hKeeps⟩

theorem plan_eq_bind (s : Setting) (request : Request) (tree : Tree) :
    plan s request tree = ConfigRoot.found s tree >>= planUnder s request tree := by
  unfold plan
  cases ConfigRoot.found s tree <;> rfl

/-- A request that has been planned has found its root. -/
theorem root_of_planned {made : Plan} (h : attempt (planned s request) world = (.ok made, after)) :
    after.root.isSome := by
  unfold planned at h
  obtain ⟨⟨path, root⟩, middle, hTarget, hChoose⟩ := attempt_bind_ok.mp h
  rw [attempt_choose] at hChoose
  have hAfter : middle = after := congrArg Prod.snd hChoose
  rw [← hAfter, root_of_target hTarget]
  rfl

/-! Serving -/

/-- What a client is told after an access, if it reads its stream to the end at once. -/
def answerOf (s : Setting) (tree : Tree) : Except Failure Reply → Answer
  | .error failure => .failed failure
  | .ok (.written path text) => .written path text
  | .ok (.listed path listing) => .listed path listing
  | .ok (.read path stream) => .received path (stream.drained s tree)

theorem serve_of_perform {result : Except Failure Reply}
    (h : attempt (perform s request) world = (result, after)) :
    ∃ last, serve s request world = (answerOf s after.tree result, last) ∧
      last.tree = after.tree ∧ last.root = after.root := by
  have hCount := isQuiet_count request result after
  unfold serve
  rw [attempt_handle, h]
  dsimp only
  rcases result with failure | (⟨path, stream⟩ | ⟨path, text⟩ | ⟨path, listing⟩)
  · exact ⟨_, rfl, hCount.tree, hCount.root⟩
  · dsimp only
    generalize (attempt (count request (.ok (.read path stream))) after).2 = middle at hCount ⊢
    obtain ⟨hDrained, hQuiet⟩ := Stream.attempt_drain (s := s) stream middle
    rcases hDrain : attempt (stream.drain s) middle with ⟨drained, last⟩
    rw [hDrain] at hDrained hQuiet
    dsimp only at hDrained
    subst hDrained
    refine ⟨last, ?_, hQuiet.tree.trans hCount.tree, hQuiet.root.trans hCount.root⟩
    rw [show middle.tree = after.tree from hCount.tree]
    rfl
  · exact ⟨_, rfl, hCount.tree, hCount.root⟩
  · exact ⟨_, rfl, hCount.tree, hCount.root⟩

end Access

/-- The tree has the entries that the first one had, up to contents. -/
structure Preserved (base tree : Tree) : Prop where
  wf : tree.WellFormed
  outline : ∀ location, tree.outline? location = base.outline? location

/-- The service is in order: the tree has the entries that it had in the beginning, and the root is the
one that a search finds there. -/
structure Steady (s : Setting) (base : Tree) (world : World) : Prop where
  preserved : Preserved base world.tree
  kept : ConfigRoot.IsKept s base world

theorem Preserved.hosts {tree : Tree} (h : Preserved base tree) : Hosts base tree :=
  ⟨h.wf, fun location => .inl (h.outline location)⟩

/-- A search finds in the tree what it found in the beginning. -/
theorem Preserved.found {tree : Tree} (h : Preserved base tree) (wf : base.WellFormed)
    (hLinks : base.IsLinkless) (hWorking : Path.IsPlain s.site.working) :
    ConfigRoot.found s tree = ConfigRoot.found s base := by
  have hShape (location : Location) : tree.shape? location = base.shape? location := by
    rw [shape?_of_outline wf, shape?_of_outline h.wf, h.outline]
  have hExtends : base.Extends tree := fun location => .inl (hShape location)
  have hDirectory (p : Path) : s.isDirectory p tree = s.isDirectory p base :=
    Setting.isDirectory_of_resembles h.hosts.resembles wf h.wf hLinks
  apply ConfigRoot.found_congr hDirectory
  · intro p
    rw [Setting.canonical_of_linkless hWorking (hExtends.isLinkless hLinks),
      Setting.canonical_of_linkless hWorking hLinks]
  · intro p name
    unfold Setting.hasEntry namesIn locate
    rw [find_of_shape hShape]
    rcases base.find s.site.working .target p with errno | (there | _)
    · rfl
    · have hSome := congrArg Option.isSome (hShape (there ++ [name]))
      rw [shape?_eq_timeless, shape?_eq_timeless, Option.isSome_map, Option.isSome_map] at hSome
      have hNames : (tree.names there).contains name = (base.names there).contains name := by
        rw [Bool.eq_iff_iff, List.contains_iff_mem, List.contains_iff_mem, mem_names, mem_names, hSome]
      dsimp only
      rw [directoryModeAt?_of_shape hShape]
      cases base.directoryModeAt? there with
      | none => rfl
      | some mode =>
          dsimp only
          cases mayRead mode with
          | false => rfl
          | true => exact congrArg Except.ok hNames
    · rfl

theorem steady_initial (s : Setting) (wf : base.WellFormed) : Steady s base (World.initial base) :=
  ⟨⟨wf, fun _ => rfl⟩, rfl⟩

theorem Steady.of_tree (h : Steady s base world) (hTree : after.tree = world.tree)
    (hKept : ConfigRoot.IsKept s base after) : Steady s base after :=
  ⟨hTree ▸ h.preserved, hKept⟩

/-! Carrying out a plan -/

namespace Access

theorem attempt_carryOut_list (s : Setting) (path root : Path) (world : World) :
    (attempt (carryOut s (.list path root)) world).1 =
        (Listing.listed s path root world.tree).map (.listed path) ∧
      World.Quiet world (attempt (carryOut s (.list path root)) world).2 := by
  obtain ⟨hListed, hQuiet⟩ := Listing.attempt_list s path root world
  rw [← hListed, carryOut, attempt_bind]
  rcases hList : attempt (Listing.list s path root) world with ⟨_ | listing, after⟩
  · rw [hList] at hQuiet
    exact ⟨rfl, hQuiet⟩
  · rw [hList] at hQuiet
    exact ⟨rfl, hQuiet⟩

theorem attempt_carryOut_read {path : Path} {number : Nat} (hNul : path.hasNul = false)
    (hOpened : Stream.opened s path world.tree = .ok number) :
    (attempt (carryOut s (.read path)) world).1 =
        .ok (.read path ⟨path, world.nextStream, number⟩) ∧
      (attempt (carryOut s (.read path)) world).2.tree = world.tree ∧
      (attempt (carryOut s (.read path)) world).2.root = world.root := by
  rw [carryOut, attempt_bind, Stream.attempt_ofPath hNul, hOpened]
  exact ⟨rfl, rfl, rfl⟩

theorem attempt_carryOut_write (s : Setting) (path : Path) (key : Location) (text : String)
    (world : World) :
    let locked := { world with locks := world.locks.request key 0 }
    (attempt (carryOut s (.write path key text)) world).1 =
        ((Write.stages s path text locked).1.mapError fun _ => Failure.internal).map
          (fun _ => .written path text) ∧
      (attempt (carryOut s (.write path key text)) world).2.tree =
        (Write.stages s path text locked).2.tree ∧
      (attempt (carryOut s (.write path key text)) world).2.root =
        (Write.stages s path text locked).2.root := by
  intro locked
  rcases hStages : Write.stages s path text locked with ⟨result, after⟩
  obtain ⟨hResult, hQuiet⟩ :=
    Write.attempt_conclude s path key 0 (Text.Utf8.encode text) result after
  have hRun : attempt (carryOut s (.write path key text)) world =
      let (result, after) := Write.stages s path text locked
      attempt (Write.conclude s path key 0 (Text.Utf8.encode text) result >>= fun _ =>
        pure (Reply.written path text)) after := rfl
  rw [hStages] at hRun
  dsimp only at hRun
  rw [hRun, attempt_bind]
  rcases hConclude : attempt (Write.conclude s path key 0 (Text.Utf8.encode text) result) after with
    ⟨_ | _, last⟩
  · rw [hConclude] at hResult hQuiet
    rw [← hResult]
    exact ⟨rfl, hQuiet.tree, hQuiet.root⟩
  · rw [hConclude] at hResult hQuiet
    rw [← hResult]
    exact ⟨rfl, hQuiet.tree, hQuiet.root⟩

end Access

section

variable {path root : Path} {key : Location} {text : String} {bytes : Bytes} {stage : WriteStage}
  {n number : Nat} (hBase : IsOrdinary s base)

include hBase

/-! Reading -/

/-- A file that may be read can be opened. -/
theorem Access.IsTarget.opened {tree : Tree} (h : Access.IsTarget s base path)
    (hHosts : Hosts base tree) :
    ∃ number data, Stream.opened s path tree = .ok number ∧
      tree.fileAt? (path.place s.site.working) = some number ∧ tree.data? number = some data := by
  obtain ⟨mode, number, data, _, hMay, hFile, hData, rfl⟩ := h.fileAt hHosts
  refine ⟨number, data, ?_, hFile, hData⟩
  exact Stream.opened_ok.mpr ⟨hBase.faultAt? _, openForReading_ok.mpr
    ⟨_, data, h.find hBase hHosts, hFile, hData, hMay⟩⟩

/-! Writing -/

/-- A write that has made its private file comes to a good end. -/
theorem WriteStage.Underway.runAll (hTarget : Access.IsTarget s base path) (fuel : Nat)
    (h : WriteStage.Underway s base world.tree path bytes stage n number)
    (hHosts : Hosts base world.tree) (hFuel : stage.remaining ≤ fuel) :
    (stage.runAll s path bytes fuel world).1 = .ok () := by
  induction fuel generalizing stage world with
  | zero => cases stage <;> cases hFuel
  | succ fuel ih =>
      rw [WriteStage.runAll]
      rcases h.run hBase hTarget hHosts with ⟨next, f, hRun, hNext, hLess⟩ | ⟨data, hRun, _⟩
      · rw [hRun]
        exact ih hNext (h.hosts hHosts f) (Nat.le_of_lt_succ (Nat.lt_of_lt_of_le hLess hFuel))
      · rw [hRun]

theorem Write.stages_ok (text : String) (hTarget : Access.IsTarget s base path)
    (hPreserved : Preserved base world.tree)
    (hCan : WriteStage.CanCreate s.site.working path base) :
    (Write.stages s path text world).1 = .ok () := by
  have hFree (n : Nat)
      (hNone : base.outline? (WriteStage.temporaryPlace s.site.working path n) = none) :
      world.tree.timeless? (WriteStage.temporaryPlace s.site.working path n) = none := by
    rw [timeless?_eq_none, ← outline?_eq_none hPreserved.wf, hPreserved.outline]
    exact hNone
  obtain ⟨n, next, after, hMade, _, _, hHosts, hUnderway⟩ :=
    WriteStage.createTemporary_hosted _ hBase hPreserved.hosts hCan hFree world.temporaries
  unfold Write.stages
  rw [hBase.strategy]
  change (WriteStage.runAll s path _ 7 .create world).1 = _
  rw [WriteStage.runAll, WriteStage.run_create hBase, hMade]
  exact hUnderway.runAll hBase hTarget 6 hHosts (Nat.le_refl 6)

theorem Write.stages_refused (text : String) (hPreserved : Preserved base world.tree)
    (hCannot : ¬ WriteStage.CanCreate s.site.working path base) :
    ∃ e, Write.stages s path text world = (.error e, world) := by
  obtain ⟨e, hRefused⟩ := WriteStage.createTemporary_refused hBase hPreserved.hosts hCannot
    WriteStage.temporaryNames world.temporaries
  refine ⟨e, ?_⟩
  unfold Write.stages
  rw [hBase.strategy]
  change WriteStage.runAll s path _ 7 .create world = _
  rw [WriteStage.runAll, WriteStage.run_create hBase, hRefused]

/-- A write whose private file can be made gives its target the new contents, and changes nothing
else. -/
theorem Write.stages_replaced (text : String) (hTarget : Access.IsTarget s base path)
    (hPreserved : Preserved base world.tree)
    (hCan : WriteStage.CanCreate s.site.working path base) :
    ∃ mode after, Write.stages s path text world = (.ok (), after) ∧
      base.outline? (path.place s.site.working) = some (.file mode []) ∧
      World.Quiet { world with tree := after.tree, temporaries := after.temporaries } after ∧
      after.tree.WellFormed ∧
      ∀ location, after.tree.node? location =
        if location = path.place s.site.working then some (.file mode (Text.Utf8.encode text))
        else world.tree.node? location := by
  have hOk := Write.stages_ok hBase text hTarget hPreserved hCan
  obtain ⟨status, hStatus, hMode⟩ := hTarget.status hBase hPreserved.hosts
  have hEnds := Write.stages_atomic hBase.strategy hPreserved.wf hStatus text
  rcases hStages : Write.stages s path text world with ⟨result, final⟩
  rw [hStages] at hOk hEnds
  cases hEnds with
  | restored e => cases hOk
  | replaced hQuiet hWell hFind hStatus' _ hGains =>
      have hEntry := hFind.symm.trans (hTarget.find_entry hBase hPreserved.hosts)
      have hSameStatus := hStatus.symm.trans hStatus'
      cases hEntry
      cases hSameStatus
      refine ⟨status.mode, final, rfl, hMode, hQuiet, hWell, fun location => ?_⟩
      by_cases hPlace : location = path.place s.site.working
      · rw [if_pos hPlace, hPlace, node?_of_file hGains.fileAt?_place, hGains.data?_place]
        rfl
      · rw [if_neg hPlace, hGains.node? hPreserved.wf hPlace]

/-! The laws of serving -/

namespace Access

/-- The plan is the one that the first tree gives. -/
theorem attempt_planned_hosted (hHosts : Hosts base world.tree)
    (hKept : ConfigRoot.IsKept s base world) (hName : ¬ NamesTemporary request) :
    (attempt (planned s request) world).1 = plan s request base ∧
      Keeps s base world (attempt (planned s request) world).2 := by
  obtain ⟨hResult, hKeeps⟩ := attempt_planned request hKept
  refine ⟨hResult.trans ?_, hKeeps⟩
  rw [plan_eq_bind]
  cases hFound : ConfigRoot.found s base with
  | error failure => rfl
  | ok root =>
      exact planUnder_of_resembles hHosts.resembles hBase.wf hHosts.wf hBase.linkless hBase.working
        hName hFound

variable (hSteady : Steady s base world) (hName : ¬ NamesTemporary request)

include hSteady hName

theorem serve_rejected {failure : Failure} (hPlan : plan s request base = .error failure) :
    ∃ after, serve s request world = (.failed failure, after) ∧ after.tree = world.tree ∧
      Steady s base after := by
  obtain ⟨hResult, hKeeps⟩ := attempt_planned_hosted hBase hSteady.preserved.hosts hSteady.kept hName
  rw [hPlan] at hResult
  have hPerform := attempt_bind_of_error (attempt_eq_of_result hResult) (carryOut s)
  rw [← perform_eq] at hPerform
  obtain ⟨after, hServe, hTree, hRoot⟩ := serve_of_perform hPerform
  have hSame := hTree.trans hKeeps.quiet.tree
  exact ⟨after, hServe, hSame, hSteady.of_tree hSame (hKeeps.kept.of_root hRoot hTree)⟩

/-- After the planning the plan is carried out. -/
theorem serve_planned {made : Plan} (hPlan : plan s request base = .ok made) :
    ∃ middle, Keeps s base world middle ∧
      ∃ last, serve s request world =
          (answerOf s (attempt (carryOut s made) middle).2.tree (attempt (carryOut s made) middle).1,
            last) ∧
        last.tree = (attempt (carryOut s made) middle).2.tree ∧
        last.root = (attempt (carryOut s made) middle).2.root := by
  obtain ⟨hResult, hKeeps⟩ := attempt_planned_hosted hBase hSteady.preserved.hosts hSteady.kept hName
  rw [hPlan] at hResult
  have hPerform := attempt_bind_of_ok (attempt_eq_of_result hResult) (carryOut s)
  rw [← perform_eq] at hPerform
  exact ⟨_, hKeeps, serve_of_perform hPerform⟩

theorem serve_list (hPlan : plan s request base = .ok (.list path root)) :
    ∃ after, serve s request world =
        (answerOf s world.tree ((Listing.listed s path root world.tree).map (.listed path)), after) ∧
      after.tree = world.tree ∧ Steady s base after := by
  obtain ⟨middle, hKeeps, last, hServe, hTree, hRoot⟩ :=
    serve_planned hBase hSteady hName hPlan
  have hBefore : middle.tree = world.tree := hKeeps.quiet.tree
  obtain ⟨hListed, hQuiet⟩ := attempt_carryOut_list s path root middle
  have hSame := hQuiet.tree.trans hBefore
  rw [hListed, hSame, hBefore] at hServe
  exact ⟨last, hServe, hTree.trans hSame, hSteady.of_tree (hTree.trans hSame)
    (hKeeps.kept.of_root (hRoot.trans hQuiet.root) (hTree.trans hQuiet.tree))⟩

/-- Without anybody in between a client receives the file as it stands. -/
theorem serve_read (hPlan : plan s request base = .ok (.read path)) :
    ∃ mode bytes after, world.tree.node? (path.place s.site.working) = some (.file mode bytes) ∧
      serve s request world =
        (.received path ⟨Stream.chunksOf Stream.chunkSize bytes, none⟩, after) ∧
      after.tree = world.tree ∧ Steady s base after := by
  obtain ⟨middle, hKeeps, last, hServe, hTree, hRoot⟩ :=
    serve_planned hBase hSteady hName hPlan
  have hBefore : middle.tree = world.tree := hKeeps.quiet.tree
  have hTarget := isTarget_of_read hBase.working hBase.linkless hPlan
  obtain ⟨number, data, hOpened, hFile, hData⟩ := hTarget.opened hBase hSteady.preserved.hosts
  rw [← hBefore] at hOpened
  obtain ⟨hResult, hSame, hRoot'⟩ := attempt_carryOut_read hTarget.nul hOpened
  rw [hResult, hSame, hBefore, answerOf,
    Stream.drained_of_data (fun n => hBase.faultAt? _) hData] at hServe
  have hEnd := (hTree.trans hSame).trans hBefore
  refine ⟨data.mode, data.bytes, last, ?_, hServe, hEnd,
    hSteady.of_tree hEnd (hKeeps.kept.of_root (hRoot.trans hRoot') (hTree.trans hSame))⟩
  rw [node?_of_file hFile, hData]
  rfl

theorem serve_refused (hPlan : plan s request base = .ok (.write path key text))
    (hCannot : ¬ WriteStage.CanCreate s.site.working path base) :
    ∃ after, serve s request world = (.failed .internal, after) ∧ after.tree = world.tree ∧
      Steady s base after := by
  obtain ⟨middle, hKeeps, last, hServe, hTree, hRoot⟩ :=
    serve_planned hBase hSteady hName hPlan
  have hBefore : middle.tree = world.tree := hKeeps.quiet.tree
  obtain ⟨hResult, hSame, hRoot'⟩ := attempt_carryOut_write s path key text middle
  have hPreserved := hSteady.preserved
  rw [← hBefore] at hPreserved
  obtain ⟨e, hStages⟩ : ∃ e, Write.stages s path text
        { middle with locks := middle.locks.request key 0 } =
      (.error e, { middle with locks := middle.locks.request key 0 }) :=
    Write.stages_refused hBase text hPreserved hCannot
  rw [hStages] at hResult hSame hRoot'
  rw [hResult] at hServe
  have hEnd : last.tree = world.tree := (hTree.trans hSame).trans hBefore
  exact ⟨last, hServe, hEnd, hSteady.of_tree hEnd (hKeeps.kept.of_root (hRoot.trans hRoot') (hTree.trans hSame))⟩

/-- A write that is carried out replaces the contents of its target, and nothing else. -/
theorem serve_write (hPlan : plan s request base = .ok (.write path key text))
    (hCan : WriteStage.CanCreate s.site.working path base) :
    ∃ mode after, base.outline? (path.place s.site.working) = some (.file mode []) ∧
      serve s request world = (.written path text, after) ∧
      (∀ location, after.tree.node? location =
        if location = path.place s.site.working then some (.file mode (Text.Utf8.encode text))
        else world.tree.node? location) ∧
      Steady s base after := by
  obtain ⟨middle, hKeeps, last, hServe, hTree, hRoot⟩ :=
    serve_planned hBase hSteady hName hPlan
  have hBefore : middle.tree = world.tree := hKeeps.quiet.tree
  have hTarget := (isTarget_of_write hBase.working hBase.linkless hPlan).1
  obtain ⟨hResult, hSame, hRoot'⟩ := attempt_carryOut_write s path key text middle
  have hPreserved := hSteady.preserved
  rw [← hBefore] at hPreserved ⊢
  have hLocked : ({ middle with locks := middle.locks.request key 0 } : World).tree =
      middle.tree ∧ ({ middle with locks := middle.locks.request key 0 } : World).root =
        middle.root := ⟨rfl, rfl⟩
  generalize { middle with locks := middle.locks.request key 0 } = locked at *
  rw [← hLocked.1] at hPreserved ⊢
  obtain ⟨mode, final, hStages, hMode, hQuiet, hWell, hNode⟩ :=
    Write.stages_replaced hBase text hTarget hPreserved hCan
  rw [hStages] at hResult hSame hRoot'
  rw [hResult] at hServe
  have hEnd : last.tree = final.tree := hTree.trans hSame
  rw [← hEnd] at hWell hNode
  have hSameRoot : last.root = middle.root := by rw [hRoot, hRoot', hQuiet.root, hLocked.2]
  have hOutline (location : Location) : last.tree.outline? location = base.outline? location := by
    rw [← hPreserved.outline, outline?, outline?, hNode]
    split
    · rename_i hPlace
      rw [hPlace, ← outline?, hPreserved.outline, hMode]
      rfl
    · rfl
  have hAfter : Preserved base last.tree := ⟨hWell, hOutline⟩
  refine ⟨mode, last, hMode, hServe, hNode, hAfter, hKeeps.kept.of_found hSameRoot
    (hAfter.found hBase.wf hBase.linkless hBase.working)⟩

/-- Serving keeps the service in order. -/
theorem serve_steady : Steady s base (serve s request world).2 := by
  cases hPlan : plan s request base with
  | error failure =>
      obtain ⟨after, hServe, _, hAfter⟩ := serve_rejected hBase hSteady hName hPlan
      rwa [hServe]
  | ok made =>
      cases made with
      | write path key text =>
          by_cases hCan : WriteStage.CanCreate s.site.working path base
          · obtain ⟨_, after, _, hServe, _, hAfter⟩ := serve_write hBase hSteady hName hPlan hCan
            rwa [hServe]
          · obtain ⟨after, hServe, _, hAfter⟩ := serve_refused hBase hSteady hName hPlan hCan
            rwa [hServe]
      | list path root =>
          obtain ⟨after, hServe, _, hAfter⟩ := serve_list hBase hSteady hName hPlan
          rwa [hServe]
      | read path =>
          obtain ⟨_, _, after, _, hServe, _, hAfter⟩ := serve_read hBase hSteady hName hPlan
          rwa [hServe]

end Access

end

namespace Access

/-! One access after the other -/

theorem serveAll_concat {requests : List Request} {answers : List Answer} {answer : Answer}
    {middle : World} (h : serveAll s requests world = (answers, middle))
    (hLast : serve s request middle = (answer, after)) :
    serveAll s (requests ++ [request]) world = (answers ++ [answer], after) := by
  induction requests generalizing world answers with
  | nil =>
      cases h
      rw [List.nil_append, serveAll, hLast]
      rfl
  | cons first rest ih =>
      rw [serveAll] at h
      rw [List.cons_append, serveAll]
      rcases hFirst : serve s first world with ⟨one, next⟩
      rw [hFirst] at h
      dsimp only at h ⊢
      rcases hRest : serveAll s rest next with ⟨others, last⟩
      rw [hRest] at h
      cases h
      rw [ih hRest]
      rfl

theorem serveAll_steady (hBase : IsOrdinary s base) {requests : List Request}
    (hNames : ∀ request ∈ requests, ¬ NamesTemporary request) (h : Steady s base world) :
    Steady s base (serveAll s requests world).2 := by
  induction requests generalizing world with
  | nil => exact h
  | cons first rest ih =>
      rw [serveAll]
      exact ih (fun request hMem => hNames request (List.mem_cons_of_mem _ hMem))
        (serve_steady hBase h (hNames first List.mem_cons_self))

end Access

end ConfigGate
