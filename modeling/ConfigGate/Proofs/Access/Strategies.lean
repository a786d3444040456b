import ConfigGate.Proofs.Access.InPlace
import ConfigGate.Proofs.Text.Pieces

/-! The two strategies of writing side by side. Up to the first stage of a write an access does not
depend on the strategy. A write in place then asks for nothing but a file that may be written to, and
a write through a private file asks for room beside its target: the private name is longer than that of
the target, and the directory must be open to change. Where both ask for the same they come to the
same. -/
namespace ConfigGate

open Act Path Tree

variable {s : Setting} {tree : Tree} {world : World} {request : Request} {path : Path}
  {key : Location} {text : String}

namespace Tree

/-- A name is looked up in a directory that is open to the search. -/
theorem Strides.isSearchable_of_name {purpose : Purpose} {here : Location} {part : String}
    {rest : List String} {out : Stretch} (h : Strides tree purpose here (part :: rest) out)
    (hPart : IsName part) : tree.isSearchable here := by
  cases h with
  | idle _ hIdle => exact absurd (hPart.1.symm.trans hIdle) Bool.false_ne_true
  | up => exact absurd rfl hPart.2
  | enter _ hSearch => exact hSearch
  | stop _ hSearch => exact hSearch
  | link _ hSearch => exact hSearch
  | free _ hSearch => exact hSearch

/-- The way to an entry passes its directory, and leads there without a link. -/
theorem way_to_parent {working location : Location} (hAnchor : path.anchor ≠ .relative)
    (hRoot : location ≠ []) (hFound : tree.find working .target path = .ok (.present location)) :
    IsPlain location.dropLast ∧
      Strides tree .target [] location.dropLast (.arrived (.present location.dropLast)) ∧
      tree.isSearchable location.dropLast := by
  obtain ⟨hPlain, hWay⟩ := way_of_find (by decide) hAnchor hFound
  obtain ⟨directory, last, rfl⟩ := (List.eq_nil_or_concat _).resolve_left hRoot
  rw [List.concat_eq_append] at hPlain hWay
  rw [List.concat_eq_append, List.dropLast_concat]
  have hDirectoryPlain : IsPlain directory :=
    fun part hMem => hPlain part (List.mem_append_left _ hMem)
  obtain ⟨middle, hDirectory, hLast⟩ := hWay.split rfl
  have hMiddle : middle = directory.foldl descend [] := hDirectory.entry_eq
  rw [foldl_descend_plain hDirectoryPlain, List.nil_append] at hMiddle
  subst hMiddle
  exact ⟨hDirectoryPlain, hDirectory, hLast.isSearchable_of_name (hPlain last (by simp))⟩

end Tree

namespace WriteStage

variable {working : Location} {target : Path}

/-- A private file finds room beside its target: its name and its path fit, the directory is open to
change, and not all of the private names are taken. -/
structure HasRoom (working : Location) (target : Path) (tree : Tree) : Prop where
  name : byteLength target.name + 14 ≤ nameLimit
  path : byteLength (temporaryPath working target 0).text < pathLimit
  isOpen : tree.isOpenToChange (target.place working).dropLast
  free : ∃ n, tree.entry? (temporaryPlace working target n) = none

/-- The private name has fourteen bytes more than the name of its target. -/
theorem byteLength_temporaryName_eq (target : Path) (n : Nat) :
    byteLength (temporaryName target n) = byteLength target.name + 14 := by
  have hHex : byteLength (String.ofList (Text.hexPadded 8 (n % temporaryNames))) = 8 :=
    Text.byteLength_hexPadded (by decide) (Nat.mod_lt n (by decide))
  have hDot : (".").utf8ByteSize = 1 := by decide
  have hEnd : (".tmp").utf8ByteSize = 4 := by decide
  simp only [byteLength, temporaryName, String.utf8ByteSize_append, hDot, hEnd] at hHex ⊢
  omega

theorem byteLength_temporaryPath (target : Path) (n m : Nat) :
    byteLength (temporaryPath working target n).text =
      byteLength (temporaryPath working target m).text := by
  obtain ⟨before, hText⟩ := text_child (target.parent.lexical working)
  have hBytes (n : Nat) : byteLength (temporaryPath working target n).text =
      byteLength before + byteLength (temporaryName target n) := by
    rw [temporaryPath, hText]
    exact String.utf8ByteSize_append
  rw [hBytes, hBytes, byteLength_temporaryName target n m]

/-- The conditions under which a private file can be made beside a file that has been found. -/
theorem canCreate_iff_hasRoom (hTree : tree.IsLinkless) (hWorking : IsPlain working)
    (hAnchor : target.anchor ≠ .relative) (hParent : (target.place working).dropLast =
      target.parent.place working) (hRoot : target.place working ≠ [])
    (hFound : tree.find working .target target = .ok (.present (target.place working))) :
    CanCreate working target tree ↔ HasRoom working target tree := by
  have hPlace (n : Nat) : (temporaryPath working target n).place working =
      temporaryPlace working target n := place_temporaryPath hWorking target n
  constructor
  · rintro ⟨n, directory, hFree, hOpen⟩
    have hEntry : directory ++ [temporaryName target n] = temporaryPlace working target n :=
      (find_place hTree hFree).trans (hPlace n)
    obtain ⟨rfl, _⟩ := List.append_inj' hEntry rfl
    refine ⟨?_, ?_, by rwa [hParent], n, ?_⟩
    · rw [← byteLength_temporaryName_eq target n]
      exact (find_ok.mp hFree).2.absent.2.2.1
    · rw [byteLength_temporaryPath target 0 n]
      exact (find_ok.mp hFree).1
    · exact (timeless?_eq_none tree).mp (find_absent hFree).2
  · rintro ⟨hName, hPath, hOpen, n, hFree⟩
    obtain ⟨hPlain, hDirectory, hSearch⟩ := way_to_parent hAnchor hRoot hFound
    have hStart : (temporaryPath working target n).start working = [] :=
      if_neg (anchor_lexical_ne target.parent working)
    have hParts : (temporaryPath working target n).parts =
        (target.place working).dropLast ++ [temporaryName target n] := by
      change (target.parent.lexical working).parts ++ [temporaryName target n] = _
      rw [lexical_parts hWorking, hParent]
    have hShort : byteLength (temporaryPath working target n).text < pathLimit := by
      rwa [byteLength_temporaryPath target n 0]
    have hFit : byteLength (temporaryName target n) ≤ nameLimit := by
      rwa [byteLength_temporaryName_eq]
    have hEmpty : "" ∉ (target.place working).dropLast := fun hMem =>
      absurd (hPlain "" hMem).1 (by decide)
    rw [temporaryPlace, ← hParent] at hFree
    refine ⟨n, _, find_ok.mpr ⟨hShort, ?_⟩, hOpen⟩
    rw [hStart, hParts]
    exact .arrived (hDirectory.append (.free (isName_temporaryName target n) hSearch hFit hFree)
      hEmpty (by simp [temporaryName_ne]))

end WriteStage

/-! Writing in place -/

/-- A file stands at the location whose permission bits are the same after it has been written to. -/
def Tree.keepsModeAt (tree : Tree) (location : Location) : Bool :=
  match tree.node? location with
  | some (.file mode _) => withoutPrivileges mode = mode
  | _ => false

theorem Tree.keepsModeAt_of_outline {location : Location} {mode : Nat}
    (h : tree.outline? location = some (.file mode [])) :
    tree.keepsModeAt location = (withoutPrivileges mode = mode) := by
  obtain ⟨number, data, hFile, hData, rfl⟩ := fileAt?_of_outline h
  rw [keepsModeAt, node?_of_file hFile, hData]
  exact decide_eq_true_eq

/-- A file that is emptied and filled holds the new contents, and no other file changes. -/
theorem Tree.node?_refilled (hUnshared : tree.IsUnshared) {place : Location} {number : Nat}
    {data : FileData} (hFile : tree.fileAt? place = some number)
    (hData : tree.data? number = some data) (bytes : Bytes) (location : Location) :
    ((tree.change number (·.rewritten [])).append number bytes).node? location =
      if location = place then some (.file (withoutPrivileges data.mode) bytes)
      else tree.node? location := by
  by_cases hPlace : location = place
  · subst hPlace
    have hThere : ((tree.change number (·.rewritten [])).append number bytes).fileAt? location =
        some number := hFile
    rw [if_pos rfl, node?_of_file hThere, append, data?_change, if_pos rfl, data?_change,
      if_pos rfl, hData]
    simp [FileData.rewritten]
  · rw [if_neg hPlace]
    refine node?_congr rfl fun n hOther => ?_
    have hNe : n ≠ number := by
      rintro rfl
      exact hPlace (hUnshared location place n hOther hFile)
    rw [append, data?_change, if_neg hNe, data?_change, if_neg hNe]

namespace Write

/-- How a write ends that either gives its target the new contents or fails without a trace. -/
inductive Decides (place : Location) (written : Reply) (node : Node) (before : Tree)
    (possible : Prop) : Except Failure Reply × World → Prop where
  | done {after : World} (h : possible) (hNode : ∀ location, after.tree.node? location =
      if location = place then some node else before.node? location) :
      Decides place written node before possible (.ok written, after)
  | refused {after : World} (h : ¬ possible) (hTree : after.tree = before) :
      Decides place written node before possible (.error .internal, after)

theorem Decides.congr {place : Location} {written : Reply} {node : Node} {before : Tree}
    {possible : Prop} {out out' : Except Failure Reply × World}
    (h : Decides place written node before possible out) (hResult : out'.1 = out.1)
    (hTree : out'.2.tree = out.2.tree) : Decides place written node before possible out' := by
  obtain ⟨result, after⟩ := out'
  dsimp only at hResult hTree
  subst hResult
  cases h with
  | done hYes hNode => exact .done hYes fun location => hTree ▸ hNode location
  | refused hNo hSame => exact .refused hNo (hTree.trans hSame)

theorem Decides.of_possible {place : Location} {written : Reply} {node : Node} {before : Tree}
    {possible : Prop} {out : Except Failure Reply × World}
    (h : Decides place written node before possible out) (hYes : possible) :
    out.1 = .ok written := by
  cases h with
  | done => rfl
  | refused hNo => exact absurd hYes hNo

theorem Decides.of_not {place : Location} {written : Reply} {node : Node} {before : Tree}
    {possible : Prop} {out : Except Failure Reply × World}
    (h : Decides place written node before possible out) (hNo : ¬ possible) :
    out.1 = .error .internal := by
  cases h with
  | done hYes => exact absurd hYes hNo
  | refused => rfl

/-- Two such writes come to the same if neither is possible, or both are and make the same file. -/
theorem Decides.same_iff {place : Location} {written : Reply} {node node' : Node} {before : Tree}
    {possible possible' : Prop} {out out' : Except Failure Reply × World}
    (h : Decides place written node before possible out)
    (h' : Decides place written node' before possible' out') :
    (out.1 = out'.1 ∧ ∀ location, out.2.tree.node? location = out'.2.tree.node? location) ↔
      (possible ↔ possible') ∧ (possible' → node' = node) := by
  cases h with
  | done hYes hNode =>
      cases h' with
      | done hYes' hNode' =>
          constructor
          · rintro ⟨_, hSame⟩
            have hPlace := hSame place
            rw [hNode, hNode', if_pos rfl, if_pos rfl] at hPlace
            exact ⟨iff_of_true hYes hYes', fun _ => (Option.some.inj hPlace).symm⟩
          · rintro ⟨_, hSame⟩
            exact ⟨rfl, fun location => by rw [hNode, hNode', hSame hYes']⟩
      | refused hNo' _ => exact iff_of_false (by simp) fun hSame => hNo' (hSame.1.mp hYes)
  | refused hNo hTree =>
      cases h' with
      | done hYes' _ => exact iff_of_false (by simp) fun hSame => hNo (hSame.1.mpr hYes')
      | refused hNo' hTree' =>
          refine iff_of_true ⟨rfl, fun location => ?_⟩
            ⟨iff_of_false hNo hNo', fun hYes' => absurd hYes' hNo'⟩
          dsimp only
          rw [hTree, hTree']

/-- The stages of a write in place. -/
theorem stages_in_place (hStrategy : s.service.strategy = .overwrite) (hFault : s.fault = none)
    (hTarget : Access.IsTarget s world.tree path) (hUnshared : world.tree.IsUnshared)
    (text : String) {mode : Nat}
    (hMode : world.tree.outline? (path.place s.site.working) = some (.file mode [])) :
    (world.tree.isWritableAt (path.place s.site.working) ∧
        ∃ after, stages s path text world = (.ok (), after) ∧
          ∀ location, after.tree.node? location =
            if location = path.place s.site.working then
              some (.file (withoutPrivileges mode) (Text.Utf8.encode text))
            else world.tree.node? location) ∨
      ¬ world.tree.isWritableAt (path.place s.site.working) ∧
        ∃ e, stages s path text world = (.error e, world) := by
  have hNoFault (fault : Fault) : s.faultAt? fault = none := by simp [Setting.faultAt?, hFault]
  obtain ⟨number, data, hFile, hData, hSame⟩ := fileAt?_of_outline hMode
  have hCreation := find_creation_of_target hTarget.found (not_isDirectoryAt_of_file hFile)
  obtain ⟨_, _, hOpen⟩ := WriteStage.run_openTarget_of_find (hNoFault .openFile) (.refl world.tree)
    hCreation hFile hData (Text.Utf8.encode text)
  unfold stages
  rw [hStrategy]
  change _ ∧ (∃ after, WriteStage.runAll s path _ 2 .openTarget world = _ ∧ _) ∨
    _ ∧ ∃ e, WriteStage.runAll s path _ 2 .openTarget world = _
  rw [WriteStage.runAll, hOpen]
  by_cases hMay : world.tree.isWritableAt (path.place s.site.working)
  · left
    rw [if_pos hMay]
    dsimp only
    rw [WriteStage.runAll, WriteStage.run_fillTarget (hNoFault .write)]
    refine ⟨hMay, _, rfl, fun location => ?_⟩
    dsimp only
    rw [node?_refilled hUnshared hFile hData, ← hSame]
  · right
    rw [if_neg hMay]
    exact ⟨hMay, _, rfl⟩

end Write

/-! Accesses under either strategy -/

namespace Setting

/-- The setting with another strategy. -/
def withStrategy (s : Setting) (strategy : WriteStrategy) : Setting :=
  { s with service := { s.service with strategy } }

variable (strategy : WriteStrategy)

@[simp] theorem hidden_withStrategy : (s.withStrategy strategy).service.hidden = s.service.hidden :=
  rfl

@[simp] theorem probe_withStrategy : (s.withStrategy strategy).probe = s.probe := rfl

@[simp] theorem canonical_withStrategy : (s.withStrategy strategy).canonical = s.canonical := rfl

@[simp] theorem isDirectory_withStrategy : (s.withStrategy strategy).isDirectory = s.isDirectory :=
  rfl

end Setting

namespace Access

variable (strategy : WriteStrategy)

theorem verdict_withStrategy (s : Setting) (root : Path) (requested : String) (tree : Tree) :
    Guard.verdict (s.withStrategy strategy) root requested tree =
      Guard.verdict s root requested tree := by
  unfold Guard.verdict Guard.canonicalRelative
  rw [Setting.canonical_withStrategy, Setting.hidden_withStrategy]

theorem target_withStrategy (s : Setting) (request : Request) :
    target (s.withStrategy strategy) request = target s request := by
  have hRoot : ConfigRoot.resolve (s.withStrategy strategy) = ConfigRoot.resolve s := by
    have hPlace : ConfigRoot.packagePlace (s.withStrategy strategy) = ConfigRoot.packagePlace s := by
      funext tree name package
      exact @ConfigRoot.packagePlace_congr s (s.withStrategy strategy) tree tree name (fun _ => rfl)
        (fun _ => rfl) package
    unfold ConfigRoot.resolve ConfigRoot.search ConfigRoot.inPackage
    simp only [Setting.canonical_withStrategy, Setting.isDirectory_withStrategy, hPlace]
    rfl
  have hCheck : Guard.check (s.withStrategy strategy) = Guard.check s := by
    unfold Guard.check
    simp only [verdict_withStrategy]
  have hShown : Guard.shown (s.withStrategy strategy) = Guard.shown s := by
    unfold Guard.shown Guard.isSystemHidden
    simp only [Setting.probe_withStrategy]
    rfl
  unfold target Guard.resolve
  rw [hRoot, hCheck, hShown]

/-- The strategy has no part in what is planned. -/
theorem planned_withStrategy (s : Setting) (request : Request) :
    planned (s.withStrategy strategy) request = planned s request := by
  unfold planned choose Write.prepare
  rw [target_withStrategy]
  simp only [Setting.canonical_withStrategy, Setting.isDirectory_withStrategy]

/-- An access gives what it gives before it is counted. -/
theorem handle_of_perform (s : Setting) (request : Request) (world : World) :
    (attempt (handle s request) world).1 = (attempt (perform s request) world).1 ∧
      (attempt (handle s request) world).2.tree = (attempt (perform s request) world).2.tree := by
  rw [attempt_handle]
  exact ⟨rfl, (isQuiet_count _ _ _).tree⟩

/-- A request from outside leaves the files as it leaves them when it is handled. -/
theorem call_of_handle (s : Setting) (request : Request) (world : World) :
    (attempt (call s request.demand) world).1 = (attempt (handle s request) world).1.bind dated ∧
      (attempt (call s request.demand) world).2.tree = (attempt (handle s request) world).2.tree := by
  obtain ⟨hHandle, hTree⟩ := handle_of_perform s request world
  rw [hHandle, hTree, attempt_call_demand]
  exact ⟨rfl, (isQuiet_count _ _ _).tree⟩

/-- The strategy has no part in what is refused. -/
theorem refuse_withStrategy (s : Setting) (request : Request) (contents : Text.Wide) :
    refuse (s.withStrategy strategy) request contents = refuse s request contents := by
  unfold refuse
  rw [target_withStrategy, Setting.isDirectory_withStrategy]

/-- What is accessed lies on an absolute path. -/
theorem anchor_of_decision {root : Path} {requested : Option String}
    (hFound : ConfigRoot.found s tree = .ok root)
    (hDecision : Guard.decision s root requested tree = .ok path) : path.anchor ≠ .relative := by
  obtain ⟨_, location, _, _, hRoot⟩ := ConfigRoot.found_ok hFound
  have hAnchor : root.anchor = .root := by
    rw [hRoot]
    rfl
  obtain ⟨_, ⟨_, rfl⟩ | ⟨file, _, hVerdict⟩⟩ := Guard.decision_ok hDecision
  · simp [hAnchor]
  · rw [(Guard.verdict_ok hVerdict).1]
    exact anchor_join_ne hAnchor _

section

variable (hFault : s.fault = none) (hWorking : IsPlain s.site.working) (wf : world.tree.WellFormed)
  (hLinks : world.tree.IsLinkless) (hPlan : plan s request tree = .ok (.write path key text))
  (hTree : world.tree = tree) {mode : Nat}
  (hMode : tree.outline? (path.place s.site.working) = some (.file mode []))

include hFault hWorking wf hLinks hPlan hTree hMode

/-- A planned write through a private file needs room for it, and nothing else. -/
theorem carryOut_atomic :
    Write.Decides (path.place s.site.working) (.written path text)
      (.file mode (Text.Utf8.encode text)) tree (WriteStage.HasRoom s.site.working path tree)
      (attempt (carryOut (s.withStrategy .atomic) (.write path key text)) world) := by
  subst hTree
  have hBase : IsOrdinary (s.withStrategy .atomic) world.tree :=
    ⟨rfl, hFault, hWorking, wf, hLinks⟩
  obtain ⟨hTarget, _, _⟩ := isTarget_of_write hWorking hLinks hPlan
  have hTarget' : IsTarget (s.withStrategy .atomic) world.tree path :=
    ⟨hTarget.nul, hTarget.found, hTarget.file, hTarget.beside⟩
  have hRoom : WriteStage.CanCreate s.site.working path world.tree ↔
      WriteStage.HasRoom s.site.working path world.tree := by
    obtain ⟨_, _, hFound, hDecision, rfl, _⟩ := plan_ok hPlan
    obtain ⟨_, _, hFile, _⟩ := fileAt?_of_outline hMode
    exact WriteStage.canCreate_iff_hasRoom hLinks hWorking (anchor_of_decision hFound hDecision)
      hTarget.beside (ne_nil_of_file hFile) hTarget.found
  have hPreserved : Preserved world.tree
      ({ world with locks := world.locks.request key 0 } : World).tree := ⟨wf, fun _ => rfl⟩
  obtain ⟨hResult, hAfter, _⟩ :=
    attempt_carryOut_write (s.withStrategy .atomic) path key text world
  rcases hOut : attempt (carryOut (s.withStrategy .atomic) (.write path key text)) world with
    ⟨result, after⟩
  rw [hOut] at hResult hAfter
  dsimp only at hResult hAfter
  by_cases hCan : WriteStage.CanCreate s.site.working path world.tree
  · obtain ⟨mode', last, hStages, hMode', _, _, hNode⟩ :=
      Write.stages_replaced hBase text hTarget' hPreserved hCan
    rw [hStages] at hResult hAfter
    cases hMode.symm.trans hMode'
    rw [hResult]
    exact .done (hRoom.mp hCan) fun location => hAfter ▸ hNode location
  · obtain ⟨e, hStages⟩ := Write.stages_refused hBase text hPreserved hCan
    rw [hStages] at hResult hAfter
    rw [hResult]
    exact .refused (mt hRoom.mpr hCan) hAfter

omit wf in
/-- A planned write in place needs a file that may be written to, and nothing else. -/
theorem carryOut_overwrite (hUnshared : tree.IsUnshared) :
    Write.Decides (path.place s.site.working) (.written path text)
      (.file (withoutPrivileges mode) (Text.Utf8.encode text)) tree
      (tree.isWritableAt (path.place s.site.working))
      (attempt (carryOut (s.withStrategy .overwrite) (.write path key text)) world) := by
  subst hTree
  obtain ⟨hTarget, _, _⟩ := isTarget_of_write hWorking hLinks hPlan
  have hTarget' : IsTarget (s.withStrategy .overwrite)
      ({ world with locks := world.locks.request key 0 } : World).tree path :=
    ⟨hTarget.nul, hTarget.found, hTarget.file, hTarget.beside⟩
  obtain ⟨hResult, hAfter, _⟩ :=
    attempt_carryOut_write (s.withStrategy .overwrite) path key text world
  rcases hOut : attempt (carryOut (s.withStrategy .overwrite) (.write path key text)) world with
    ⟨result, after⟩
  rw [hOut] at hResult hAfter
  dsimp only at hResult hAfter
  have hStrategy : (s.withStrategy .overwrite).service.strategy = .overwrite := rfl
  have hNoFault : (s.withStrategy .overwrite).fault = none := hFault
  rcases Write.stages_in_place hStrategy hNoFault hTarget' hUnshared text hMode with
    ⟨hMay, last, hStages, hNode⟩ | ⟨hNot, e, hStages⟩
  · rw [hStages] at hResult hAfter
    rw [hResult]
    exact .done hMay fun location => hAfter ▸ hNode location
  · rw [hStages] at hResult hAfter
    rw [hResult]
    exact .refused hNot hAfter

end

/-- An access carries out its plan, which is the same under either strategy. -/
theorem handle_of_plan (hKept : ConfigRoot.IsKept s world.tree world) {made : Plan}
    (hPlan : plan s request world.tree = .ok made) :
    ∃ middle : World, middle.tree = world.tree ∧ ∀ strategy,
      (attempt (handle (s.withStrategy strategy) request) world).1 =
          (attempt (carryOut (s.withStrategy strategy) made) middle).1 ∧
        (attempt (handle (s.withStrategy strategy) request) world).2.tree =
          (attempt (carryOut (s.withStrategy strategy) made) middle).2.tree := by
  obtain ⟨hResult, hKeeps⟩ := attempt_planned request hKept
  rw [← plan_eq_bind, hPlan] at hResult
  refine ⟨_, hKeeps.quiet.tree, fun strategy => ?_⟩
  obtain ⟨hHandle, hTree⟩ := handle_of_perform (s.withStrategy strategy) request world
  rw [hHandle, hTree, perform_eq, planned_withStrategy,
    attempt_bind_of_ok (attempt_eq_of_result hResult)]
  exact ⟨rfl, rfl⟩

theorem handle_of_plan_error (hKept : ConfigRoot.IsKept s world.tree world) {failure : Failure}
    (hPlan : plan s request world.tree = .error failure) (strategy : WriteStrategy) :
    (attempt (handle (s.withStrategy strategy) request) world).1 = .error failure ∧
      (attempt (handle (s.withStrategy strategy) request) world).2.tree = world.tree := by
  obtain ⟨hResult, hKeeps⟩ := attempt_planned request hKept
  rw [← plan_eq_bind, hPlan] at hResult
  obtain ⟨hHandle, hTree⟩ := handle_of_perform (s.withStrategy strategy) request world
  rw [hHandle, hTree, perform_eq, planned_withStrategy,
    attempt_bind_of_error (attempt_eq_of_result hResult)]
  exact ⟨rfl, hKeeps.quiet.tree⟩

section

variable (hFault : s.fault = none) (hWorking : IsPlain s.site.working) (wf : world.tree.WellFormed)
  (hLinks : world.tree.IsLinkless) (hKept : ConfigRoot.IsKept s world.tree world)
  (hPlan : plan s request world.tree = .ok (.write path key text))

include hFault hWorking wf hLinks hKept hPlan

/-- A write through a private file needs room for it, a write in place needs a file that may be
written to, and neither needs anything else. -/
theorem decides_of_write (hUnshared : world.tree.IsUnshared) :
    ∃ mode, world.tree.outline? (path.place s.site.working) = some (.file mode []) ∧
      Write.Decides (path.place s.site.working) (.written path text)
        (.file mode (Text.Utf8.encode text)) world.tree
        (WriteStage.HasRoom s.site.working path world.tree)
        (attempt (handle (s.withStrategy .atomic) request) world) ∧
      Write.Decides (path.place s.site.working) (.written path text)
        (.file (withoutPrivileges mode) (Text.Utf8.encode text)) world.tree
        (world.tree.isWritableAt (path.place s.site.working))
        (attempt (handle (s.withStrategy .overwrite) request) world) := by
  obtain ⟨hTarget, _, _⟩ := isTarget_of_write hWorking hLinks hPlan
  obtain ⟨mode, hMode, _⟩ := hTarget.file
  obtain ⟨middle, hTree, hSame⟩ := handle_of_plan hKept hPlan
  obtain ⟨hAtomic, hAtomicTree⟩ := hSame .atomic
  obtain ⟨hOverwrite, hOverwriteTree⟩ := hSame .overwrite
  exact ⟨mode, hMode,
    (carryOut_atomic hFault hWorking (hTree ▸ wf) (hTree ▸ hLinks) hPlan hTree hMode).congr
      hAtomic hAtomicTree,
    (carryOut_overwrite hFault hWorking (hTree ▸ hLinks) hPlan hTree hMode hUnshared).congr
      hOverwrite hOverwriteTree⟩

end

/-- Handling a request comes to the same under both strategies exactly if, should it get as far as writing a
file, both can write it, or neither, and its permission bits outlast a write in place. -/
theorem handled_alike_iff (hFault : s.fault = none) (hWorking : IsPlain s.site.working)
    (wf : world.tree.WellFormed) (hLinks : world.tree.IsLinkless)
    (hUnshared : world.tree.IsUnshared) (hKept : ConfigRoot.IsKept s world.tree world)
    (request : Request) :
    let atomic := attempt (handle (s.withStrategy .atomic) request) world
    let overwrite := attempt (handle (s.withStrategy .overwrite) request) world
    (atomic.1 = overwrite.1 ∧
        ∀ location, atomic.2.tree.node? location = overwrite.2.tree.node? location) ↔
      ∀ path key text, plan s request world.tree = .ok (.write path key text) →
        (WriteStage.HasRoom s.site.working path world.tree ↔
            world.tree.isWritableAt (path.place s.site.working)) ∧
          (world.tree.isWritableAt (path.place s.site.working) →
            world.tree.keepsModeAt (path.place s.site.working)) := by
  intro atomic overwrite
  cases hPlan : plan s request world.tree with
  | error failure =>
      obtain ⟨hAtomic, hAtomicTree⟩ := handle_of_plan_error hKept hPlan .atomic
      obtain ⟨hOverwrite, hOverwriteTree⟩ := handle_of_plan_error hKept hPlan .overwrite
      refine iff_of_true ⟨hAtomic.trans hOverwrite.symm, fun location => ?_⟩ (by simp)
      rw [hAtomicTree, hOverwriteTree]
  | ok made =>
      obtain ⟨middle, _, hSame⟩ := handle_of_plan hKept hPlan
      obtain ⟨hAtomic, hAtomicTree⟩ := hSame .atomic
      obtain ⟨hOverwrite, hOverwriteTree⟩ := hSame .overwrite
      -- Only a write looks at the strategy.
      cases made with
      | list path root =>
          refine iff_of_true ⟨hAtomic.trans hOverwrite.symm, fun location => ?_⟩ (by simp)
          exact congrArg (·.node? location) (hAtomicTree.trans hOverwriteTree.symm)
      | read path =>
          refine iff_of_true ⟨hAtomic.trans hOverwrite.symm, fun location => ?_⟩ (by simp)
          exact congrArg (·.node? location) (hAtomicTree.trans hOverwriteTree.symm)
      | write path key text =>
          obtain ⟨mode, hMode, hAtomicDecides, hOverwriteDecides⟩ :=
            decides_of_write hFault hWorking wf hLinks hKept hPlan hUnshared
          rw [hAtomicDecides.same_iff hOverwriteDecides, Node.file.injEq, and_iff_left rfl,
            ← Tree.keepsModeAt_of_outline hMode]
          constructor
          · rintro hIff path' key' text' ⟨⟩
            exact hIff
          · exact fun hIff => hIff path key text rfl

/-- On a tree without links and without files with two names, a call comes to the same under both strategies
exactly if, should it get as far as writing a file, there is room for a private file beside it if and only if
the file itself may be written to, and in this case its permission bits outlast the write. -/
theorem strategies_agree_iff (hFault : s.fault = none) (hWorking : IsPlain s.site.working)
    (wf : world.tree.WellFormed) (hLinks : world.tree.IsLinkless)
    (hUnshared : world.tree.IsUnshared) (hKept : ConfigRoot.IsKept s world.tree world)
    (demand : Demand) :
    let atomic := attempt (call (s.withStrategy .atomic) demand) world
    let overwrite := attempt (call (s.withStrategy .overwrite) demand) world
    (atomic.1 = overwrite.1 ∧
        ∀ location, atomic.2.tree.node? location = overwrite.2.tree.node? location) ↔
      (demand.torn? = none → ∀ path key text, plan s demand.request world.tree = .ok (.write path key text) →
        (WriteStage.HasRoom s.site.working path world.tree ↔
            world.tree.isWritableAt (path.place s.site.working)) ∧
          (world.tree.isWritableAt (path.place s.site.working) →
            world.tree.keepsModeAt (path.place s.site.working))) := by
  intro atomic overwrite
  cases hTorn : demand.torn? with
  | some contents =>
      have hSame : call (s.withStrategy .atomic) demand = call (s.withStrategy .overwrite) demand := by
        simp only [call, undertake, hTorn, refuse_withStrategy]
      have hAttempt : atomic = overwrite := congrArg (attempt · world) hSame
      exact iff_of_true ⟨by rw [hAttempt], fun location => by rw [hAttempt]⟩ (by simp)
  | none =>
      obtain ⟨request, rfl⟩ := Demand.exists_request hTorn
      have hIff := handled_alike_iff hFault hWorking wf hLinks hUnshared hKept request
      rw [Request.demand_request]
      obtain ⟨file, _ | text⟩ := request
      · -- Nothing is written, so that the replies are the same, and then their times are.
        have hNothing : ∀ path key text, plan s ⟨file, none⟩ world.tree ≠ .ok (.write path key text) := by
          intro path key text hPlan
          obtain ⟨_, _, _, _, _, hContents, _⟩ := plan_ok hPlan
          cases hContents
        obtain ⟨hHandled, hTrees⟩ := hIff.mpr fun path key text hPlan => absurd hPlan (hNothing path key text)
        obtain ⟨hAtomic, hAtomicTree⟩ := call_of_handle (s.withStrategy .atomic) ⟨file, none⟩ world
        obtain ⟨hOverwrite, hOverwriteTree⟩ := call_of_handle (s.withStrategy .overwrite) ⟨file, none⟩ world
        refine iff_of_true ⟨?_, fun location => ?_⟩ fun _ path key text hPlan => absurd hPlan (hNothing path key text)
        · exact hAtomic.trans ((congrArg (·.bind dated) hHandled).trans hOverwrite.symm)
        · exact (congrArg (·.node? location) hAtomicTree).trans
            ((hTrees location).trans (congrArg (·.node? location) hOverwriteTree).symm)
      · have hAtomic : atomic = _ := attempt_call_write (s.withStrategy .atomic) file text world
        have hOverwrite : overwrite = _ := attempt_call_write (s.withStrategy .overwrite) file text world
        rw [hAtomic, hOverwrite]
        exact hIff.trans ⟨fun h _ => h, fun h => h rfl⟩

/-! A directory with one file -/

/-- A configuration directory with a file in it. -/
def treeOfFile (name : String) : Tree where
  entries := [(["conf"], .directory 0o755 .recent), (["conf", name], .file 0)]
  files := [(0, ⟨0o644, [0x6f, 0x6c, 0x64], .recent⟩)]
  nextFile := 1

theorem isLinkless_treeOfFile (name : String) : (treeOfFile name).IsLinkless :=
  isLinkless_of_entries (by simp [treeOfFile])

theorem entry?_treeOfFile (name : String) :
    Tree.entry? (treeOfFile name) ["conf", name] = some (.file 0) := by
  unfold entry?
  simp [treeOfFile, List.lookup_cons]

theorem node?_treeOfFile (name : String) : (treeOfFile name).node? ["conf", name] =
    some (.file 0o644 [0x6f, 0x6c, 0x64]) := by
  have hFile : (treeOfFile name).fileAt? ["conf", name] = some 0 := by
    rw [fileAt?, entry?_treeOfFile]
  rw [node?_of_file hFile]
  rfl

theorem wellFormed_treeOfFile (name : String) : (treeOfFile name).WellFormed where
  nodup := by simp [treeOfFile]
  rooted := by simp [treeOfFile]
  parents := by
    intro location hMem
    simp only [treeOfFile, List.map_cons, List.map_nil, List.mem_cons, List.not_mem_nil,
      or_false] at hMem
    rcases hMem with rfl | rfl <;> rfl
  stored := by
    intro entry hMem number hNumber
    simp only [treeOfFile, List.mem_cons, List.not_mem_nil, or_false] at hMem
    rcases hMem with rfl | rfl
    · cases hNumber
    · cases hNumber
      exact ⟨Nat.zero_lt_one, rfl⟩

theorem isUnshared_treeOfFile (name : String) : (treeOfFile name).IsUnshared :=
  isUnshared_of_entries (by simp [treeOfFile, Entry.number?])

/-- A file with a short name is written alike. -/
theorem strategies_agree_short :
    let world := World.initial (treeOfFile "a.txt")
    let demand := Demand.mk (some "a.txt") (some "new")
    let atomic := attempt (call ((plainSetting .atomic).withStrategy .atomic) demand) world
    let overwrite := attempt (call ((plainSetting .atomic).withStrategy .overwrite) demand) world
    atomic.1 = overwrite.1 ∧
      ∀ location, atomic.2.tree.node? location = overwrite.2.tree.node? location := by
  intro world demand
  have hPlan : plan (plainSetting .atomic) demand.request world.tree =
      .ok (.write (ofLocation ["conf", "a.txt"]) ["conf", "a.txt"] "new") := by
    decide
  have hRoom : WriteStage.HasRoom [] (ofLocation ["conf", "a.txt"]) world.tree :=
    ⟨by decide, by decide, by decide, 0, by decide⟩
  have hIff := @strategies_agree_iff (plainSetting .atomic) world rfl
    (by simp [IsPlain, plainSetting]) (by decide) (isLinkless_treeOfFile _)
    (isUnshared_treeOfFile _) rfl demand
  refine hIff.mpr fun _ path key text hOther => ?_
  cases hPlan.symm.trans hOther
  exact ⟨iff_of_true hRoom (by decide), fun _ => by decide⟩

/-- A name that is one component of a path, without a character that means anything in a request. -/
structure IsSimple (name : String) : Prop where
  nonempty : name ≠ ""
  chars : ∀ c ∈ name.toList, c ∉ ['/', '\\', '.', '\x00']
  length : byteLength name ≤ nameLimit

namespace IsSimple

variable {name : String} (h : IsSimple name)

include h

theorem isName : IsName name := by
  have hDot (other : String) (hMem : '.' ∈ other.toList) : name ≠ other := by
    rintro rfl
    exact h.chars '.' hMem (by decide)
  have hIdle : name ≠ "." := hDot "." (by decide)
  exact ⟨by simp [isIdle, h.nonempty, hIdle], hDot ".." (by decide)⟩

theorem withForwardSlashes_eq : withForwardSlashes name = name := by
  have hMap : name.toList.map forwardSlash = name.toList := by
    apply List.map_congr_left (g := id) ?_ |>.trans (List.map_id _)
    intro c hMem
    have hNot : c ≠ '\\' := by
      rintro rfl
      exact h.chars _ hMem (by decide)
    exact if_neg hNot
  rw [withForwardSlashes, hMap, String.ofList_toList]

theorem parse_eq : parse name = ⟨.relative, [name]⟩ := by
  have hSlash : '/' ∉ name.toList := fun hMem => h.chars _ hMem (by decide)
  have hPieces : pieces name = [name] := by
    have hSplit := Text.splitOn_append_of_notMem hSlash []
    rw [List.append_nil, List.splitOn_nil] at hSplit
    rw [pieces, hSplit]
    simp
  have hAnchor : anchorOf name = .relative := by
    unfold anchorOf
    cases hText : name.toList with
    | nil => rfl
    | cons first rest =>
        have hFirst : first ≠ '/' := by
          rintro rfl
          exact hSlash (hText ▸ List.mem_cons_self)
        rw [List.takeWhile_cons_of_neg (by simpa using hFirst)]
        rfl
  rw [parse, hAnchor, hPieces]
  simp [h.isName.1]

theorem hasTraversal_eq : Guard.hasTraversal name.toList = false := by
  have hDot : '.' ∉ name.toList := fun hMem => h.chars _ hMem (by decide)
  generalize name.toList = chars at hDot
  induction chars using Guard.hasTraversal.induct with
  | case1 rest => exact absurd List.mem_cons_self hDot
  | case2 c rest hOther ih =>
      rw [Guard.hasTraversal.eq_2 c rest hOther]
      exact ih fun hMem => hDot (.tail _ hMem)
  | case3 => rfl

theorem hasNul_eq : Guard.hasNul name = false := by
  have hNul : '\x00' ∉ name.toList := fun hMem => h.chars _ hMem (by decide)
  simpa [Guard.hasNul] using hNul

theorem isDotName_eq : Guard.isDotName name = false := by
  have hDot : '.' ∉ name.toList := fun hMem => h.chars _ hMem (by decide)
  unfold Guard.isDotName
  cases hText : name.toList with
  | nil => rfl
  | cons first rest =>
      have hFirst : first ≠ '.' := by
        rintro rfl
        exact hDot (hText ▸ List.mem_cons_self)
      simpa using hFirst

theorem place_treeOfFile (working : Location) :
    (ofLocation ["conf", name]).place working = ["conf", name] := by
  have hConf : IsName "conf" := by decide
  have hPlain : IsPlain ["conf", name] := by
    simpa [IsPlain, hConf] using h.isName
  exact foldl_descend_plain hPlain []

/-- A file is found under its name. -/
theorem find_treeOfFile (purpose : Purpose) :
    (treeOfFile name).find [] purpose (ofLocation ["conf", name]) =
      .ok (.present ["conf", name]) := by
  have hText : (ofLocation ["conf", name]).text = "/conf/" ++ name := by
    change "/" ++ ("conf" ++ "/" ++ name) = _
    rw [← String.append_assoc]
    rfl
  have hConf : byteLength "/conf/" = 6 := by decide
  have hShort : byteLength (ofLocation ["conf", name]).text < pathLimit := by
    have hLength := h.length
    have hBytes : byteLength ("/conf/" ++ name) = byteLength "/conf/" + byteLength name :=
      String.utf8ByteSize_append
    rw [hText, hBytes, hConf]
    have : pathLimit = 4096 := rfl
    have : nameLimit = 255 := rfl
    omega
  have hWay : Strides (treeOfFile name) purpose [] ["conf", name]
      (.arrived (.present ["conf", name])) := by
    have hEntry := entry?_treeOfFile name
    refine .enter (by decide) rfl (by decide) (fun _ hEnd => ?_) rfl rfl
      (.enter h.isName rfl h.length (by simp) ?_ ?_ (.done _))
    · exact h.nonempty (List.cons.inj hEnd).1
    · exact hEntry ▸ rfl
    · simp [linkAt?, hEntry]
  exact find_ok.mpr ⟨hShort, .arrived hWay⟩

/-- A request for new contents of the file is planned as a write. -/
theorem plan_treeOfFile (strategy : WriteStrategy) (text : String) :
    plan (plainSetting strategy) ⟨some name, some text⟩ (treeOfFile name) =
      .ok (.write (ofLocation ["conf", name]) ["conf", name] text) := by
  have hLinks := isLinkless_treeOfFile name
  have hWorking : IsPlain (plainSetting strategy).site.working := by simp [IsPlain, plainSetting]
  have hBase : (plainSetting strategy).canonical (ofLocation ["conf"]) (treeOfFile name) =
      .ok ["conf"] := by
    have hNul : (ofLocation ["conf"]).hasNul = false := by decide
    have hPlace : (ofLocation ["conf"]).place [] = ["conf"] := by decide
    rw [Setting.canonical_of_linkless hWorking hLinks, hNul]
    exact congrArg Except.ok hPlace
  have hFound : ConfigRoot.found (plainSetting strategy) (treeOfFile name) =
      .ok (ofLocation ["conf"]) := by
    have hExpand : ConfigRoot.expandHome (plainSetting strategy).site
        (parse (plainSetting strategy).service.configDir) = .ok (ofLocation ["conf"]) := by
      have hParse : parse "/conf" = ofLocation ["conf"] := by decide
      change ConfigRoot.expandHome _ (parse "/conf") = _
      rw [hParse]
      rfl
    have hDirectory : (plainSetting strategy).isDirectory (ofLocation ["conf"]) (treeOfFile name) =
        .ok true := rfl
    unfold ConfigRoot.found ConfigRoot.directoryAt
    rw [hExpand]
    dsimp only
    rw [hDirectory, hBase]
    rfl
  have hNul : (ofLocation ["conf", name]).hasNul = false := by
    have hName : name.toList.contains '\x00' = false := h.hasNul_eq
    have hConf : ("conf").toList.contains '\x00' = false := by decide
    simp only [Path.hasNul, ofLocation, List.any_cons, List.any_nil, hConf, hName, Bool.or_self]
  have hKey : (plainSetting strategy).canonical (ofLocation ["conf", name]) (treeOfFile name) =
      .ok ["conf", name] := by
    rw [Setting.canonical_of_linkless hWorking hLinks, hNul, h.place_treeOfFile]
    rfl
  have hStatus : (treeOfFile name).status [] (ofLocation ["conf", name]) =
      .ok ⟨false, 3, 0o644, .recent⟩ :=
    status_ok.mpr ⟨_, h.find_treeOfFile .target, by rw [statusAt?, entry?_treeOfFile]; rfl⟩
  have hVerdict : Guard.verdict (plainSetting strategy) (ofLocation ["conf"]) name
      (treeOfFile name) = .ok (ofLocation ["conf", name]) := by
    rw [Guard.verdict_ok_iff, h.withForwardSlashes_eq, h.parse_eq]
    exact ⟨rfl, rfl, h.hasTraversal_eq, h.hasNul_eq, [name],
      Guard.canonicalRelative_eq hKey hBase, rfl⟩
  refine plan_write hFound (Guard.decision_of_verdict hVerdict ?_) rfl (Write.prepared_ok.mpr ?_)
  · exact Guard.shown_of_status hNul h.isDotName_eq hStatus (by decide)
  · exact ⟨Setting.isDirectory_of_status hNul hStatus, hKey⟩

end IsSimple

/-- A name with 250 bytes. -/
def longName : String := String.ofList (List.replicate 250 'a')

theorem byteLength_longName : byteLength longName = 250 := by
  have hSize : ('a').utf8Size = 1 := by decide
  unfold longName
  rw [byteLength_replicate, hSize]

theorem isSimple_longName : IsSimple longName where
  nonempty h := by
    have hLength := byteLength_longName
    rw [h] at hLength
    cases hLength
  chars c hMem := by
    unfold longName at hMem
    rw [String.toList_ofList] at hMem
    rw [List.eq_of_mem_replicate hMem]
    decide
  length := by
    rw [byteLength_longName]
    decide

/-- The private file of a file with a long name has a name that is too long. -/
theorem strategies_differ_long :
    (treeOfFile longName).IsLinkless ∧ (treeOfFile longName).IsUnshared ∧
      (attempt (call (plainSetting .atomic) (Request.demand ⟨some longName, some "new"⟩))
        (World.initial (treeOfFile longName))).1 = .error .internal ∧
      (attempt (call (plainSetting .overwrite) (Request.demand ⟨some longName, some "new"⟩))
        (World.initial (treeOfFile longName))).1 =
          .ok (.written (ofLocation ["conf", longName]) "new") := by
  have hLinks := isLinkless_treeOfFile longName
  have hUnshared := isUnshared_treeOfFile longName
  have hKept : ConfigRoot.IsKept (plainSetting .atomic) (treeOfFile longName)
      (World.initial (treeOfFile longName)) := rfl
  obtain ⟨mode, _, hAtomic, hOverwrite⟩ := decides_of_write rfl (by simp [IsPlain, plainSetting])
    (wellFormed_treeOfFile longName) hLinks hKept
    (isSimple_longName.plan_treeOfFile .atomic "new") hUnshared
  rw [attempt_call_write, attempt_call_write]
  refine ⟨hLinks, hUnshared, hAtomic.of_not fun hRoom => ?_, hOverwrite.of_possible ?_⟩
  · have hName : byteLength longName + 14 ≤ nameLimit := hRoom.name
    rw [byteLength_longName] at hName
    exact absurd hName (by decide)
  · have hPlace := isSimple_longName.place_treeOfFile []
    change Tree.isWritableAt (treeOfFile longName) ((ofLocation ["conf", longName]).place []) = true
    rw [hPlace, isWritableAt, node?_treeOfFile]
    rfl

end Access

end ConfigGate
