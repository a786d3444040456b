import ConfigGate.Proofs.Access.Plan

/-! A write under the atomic strategy that is under way while other writes are. The private file belongs
to one write alone, and the entry of its target is there as it was, so that no stage can fail and only
the last one can be seen by anybody else. -/
namespace ConfigGate

open Tree

/-- What is assumed of the service and of the tree that it starts with: the atomic strategy, no fault,
and no links. -/
structure IsOrdinary (s : Setting) (base : Tree) : Prop where
  strategy : s.service.strategy = .atomic
  fault : s.fault = none
  working : Path.IsPlain s.site.working
  wf : base.WellFormed
  linkless : base.IsLinkless

theorem IsOrdinary.faultAt? {s : Setting} {base : Tree} (h : IsOrdinary s base) (fault : Fault) :
    s.faultAt? fault = none := by
  simp [Setting.faultAt?, h.fault]

/-- The tree has what the first one had, up to contents, and private files besides. -/
structure Hosts (base tree : Tree) : Prop where
  wf : tree.WellFormed
  resembles : Resembles Access.IsSpare base tree

variable {s : Setting} {base tree after : Tree} {target : Path} {bytes : Bytes} {stage : WriteStage}
  {n number : Nat} {place : Location} {world : World}

namespace Hosts

theorem refl (wf : base.WellFormed) : Hosts base base := ⟨wf, fun _ => .inl rfl⟩

theorem grows (h : Hosts base tree) (wf : base.WellFormed) : base.Extends tree :=
  h.resembles.extends wf h.wf

/-- What was there has the outline that it had. -/
theorem outline? (h : Hosts base tree) {node : Node} (hNode : base.outline? place = some node) :
    tree.outline? place = some node := by
  rcases h.resembles place with hSame | ⟨_, hNone, _⟩
  · rw [hSame, hNode]
  · rw [hNone] at hNode
    cases hNode

/-- A private file may come, and its contents may change. -/
theorem of_private (h : Hosts base tree) (wf : after.WellFormed) (hSpare : Access.IsSpare place)
    (hFree : base.outline? place = none) {data : FileData} (hFile : after.fileAt? place = some number)
    (hData : after.data? number = some data)
    (hOther : ∀ location, location ≠ place → after.node? location = tree.node? location) :
    Hosts base after where
  wf := wf
  resembles location := by
    by_cases hPlace : location = place
    · right
      rw [hPlace]
      refine ⟨hSpare, hFree, data.mode, ?_⟩
      rw [Tree.outline?, node?_of_file hFile, hData]
      rfl
    · have hSame : after.outline? location = tree.outline? location := by
        rw [Tree.outline?, hOther location hPlace]
        rfl
      rw [hSame]
      exact h.resembles location

/-- A private file may take the place of a file with its permission bits. -/
theorem of_replaced (h : Hosts base tree) (wf : after.WellFormed) (hFree : base.outline? place = none)
    (hGone : after.node? place = none) {location : Location} {mode : Nat}
    (hOver : base.outline? location = some (.file mode []))
    (hNode : after.node? location = some (.file mode bytes))
    (hOther : ∀ other, other ≠ place → other ≠ location → after.node? other = tree.node? other) :
    Hosts base after where
  wf := wf
  resembles other := by
    by_cases hPlace : other = place
    · left
      rw [hPlace, hFree, Tree.outline?, hGone]
      rfl
    · by_cases hLocation : other = location
      · left
        rw [hLocation, hOver, Tree.outline?, hNode]
        rfl
      · have hSame : after.outline? other = tree.outline? other := by
          rw [Tree.outline?, hOther other hPlace hLocation]
          rfl
        rw [hSame]
        exact h.resembles other

end Hosts

namespace Access.IsTarget

theorem find (h : IsTarget s base target) (hBase : IsOrdinary s base) (hHosts : Hosts base tree) :
    tree.find s.site.working .target target = .ok (.present (target.place s.site.working)) :=
  find_grow (hHosts.grows hBase.wf) h.found

theorem find_entry (h : IsTarget s base target) (hBase : IsOrdinary s base)
    (hHosts : Hosts base tree) :
    tree.find s.site.working .entry target = .ok (.present (target.place s.site.working)) :=
  find_entry_of_linkless ((hHosts.grows hBase.wf).isLinkless hBase.linkless) (h.find hBase hHosts)

/-- The file at the target. -/
theorem fileAt (h : IsTarget s base target) (hHosts : Hosts base tree) :
    ∃ mode number data, base.outline? (target.place s.site.working) = some (.file mode []) ∧
      mayRead mode ∧ tree.fileAt? (target.place s.site.working) = some number ∧
      tree.data? number = some data ∧ data.mode = mode := by
  obtain ⟨mode, hMode, hMay⟩ := h.file
  obtain ⟨number, data, hFile, hData, hSame⟩ := fileAt?_of_outline (hHosts.outline? hMode)
  exact ⟨mode, number, data, hMode, hMay, hFile, hData, hSame⟩

theorem status (h : IsTarget s base target) (hBase : IsOrdinary s base) (hHosts : Hosts base tree) :
    ∃ status, tree.status s.site.working target = .ok status ∧
      base.outline? (target.place s.site.working) = some (.file status.mode []) := by
  obtain ⟨mode, number, data, hMode, _, hFile, hData, rfl⟩ := h.fileAt hHosts
  have hEntry := entry?_of_fileAt? hFile
  refine ⟨⟨false, data.bytes.length, data.mode, data.modified⟩, ?_, hMode⟩
  exact status_ok.mpr ⟨_, h.find hBase hHosts, by simp [statusAt?, hEntry, hData]⟩

end Access.IsTarget

namespace WriteStage

/-- The private file of a stage. -/
def temporary? : WriteStage → Option Path
  | .openPrivate temporary => some temporary
  | .fillPrivate temporary _ => some temporary
  | .flushPrivate temporary => some temporary
  | .copyMode temporary => some temporary
  | .replace temporary => some temporary
  | .discard temporary _ => some temporary
  | _ => none

/-- What a stage finds in the private file with the number `number`. The stage that takes the file away
is never reached. -/
def Expects (base : Tree) (place : Location) (bytes : Bytes) (number : Nat) (data : FileData) :
    WriteStage → Prop
  | .openPrivate _ => mayWrite data.mode
  | .fillPrivate _ file => file = number ∧ data.bytes = []
  | .flushPrivate _ => data.bytes = bytes
  | .copyMode _ => data.bytes = bytes
  | .replace _ => data.bytes = bytes ∧ base.outline? place = some (.file data.mode [])
  | _ => False

/-- The write has come to a stage with a private file, which nobody else knows. Its name was free in
the beginning. -/
structure Underway (s : Setting) (base tree : Tree) (target : Path) (bytes : Bytes)
    (stage : WriteStage) (n number : Nat) : Prop where
  temporary : stage.temporary? = some (temporaryPath s.site.working target n)
  free : base.find s.site.working .entry (temporaryPath s.site.working target n) =
    .ok (.absent (target.parent.place s.site.working) (temporaryName target n))
  isOpen : base.isOpenToChange (target.parent.place s.site.working)
  file : tree.fileAt? (temporaryPlace s.site.working target n) = some number
  alone : ∀ location, tree.fileAt? location = some number →
    location = temporaryPlace s.site.working target n
  data : ∃ data, tree.data? number = some data ∧
    stage.Expects base (target.place s.site.working) bytes number data

theorem isSpare_temporaryPlace (working : Location) (target : Path) (n : Nat) :
    Access.IsSpare (temporaryPlace working target n) :=
  ⟨temporaryName target n, List.getLast?_concat, target, n, rfl⟩

namespace Underway

theorem outline?_place (h : Underway s base tree target bytes stage n number) :
    base.outline? (temporaryPlace s.site.working target n) = none :=
  outline?_of_free (find_absent h.free).2

theorem isPrivate (h : Underway s base tree target bytes stage n number)
    (hBase : IsOrdinary s base) (hHosts : Hosts base tree) {temporary : Path}
    (hTemporary : stage.temporary? = some temporary) :
    tree.IsPrivate s.site.working temporary (temporaryPlace s.site.working target n) number := by
  cases h.temporary.symm.trans hTemporary
  refine ⟨find_of_file h.free ?_ (hHosts.grows hBase.wf) ?_, h.file, ?_⟩
  · simp [temporaryPath, Path.child, temporaryName_ne]
  · exact Option.isSome_iff_exists.mpr ⟨number, h.file⟩
  · rw [temporaryPlace, List.dropLast_concat, (hHosts.grows hBase.wf).isOpenToChange]
    exact h.isOpen

/-- The contents of the private file change, and the next stage finds what it expects. -/
theorem change (h : Underway s base tree target bytes stage n number) (next : WriteStage)
    (hNext : next.temporary? = stage.temporary?) (f : FileData → FileData)
    (hData : ∀ data, stage.Expects base (target.place s.site.working) bytes number data →
      next.Expects base (target.place s.site.working) bytes number (f data)) :
    Underway s base (tree.change number f) target bytes next n number where
  temporary := hNext.trans h.temporary
  free := h.free
  isOpen := h.isOpen
  file := h.file
  alone := h.alone
  data := by
    obtain ⟨data, hFound, hExpects⟩ := h.data
    refine ⟨f data, ?_, hData data hExpects⟩
    rw [data?_change, if_pos rfl, hFound]
    rfl

theorem hosts (h : Underway s base tree target bytes stage n number) (hHosts : Hosts base tree)
    (f : FileData → FileData) : Hosts base (tree.change number f) := by
  obtain ⟨data, hFound, _⟩ := h.data
  have hData : (tree.change number f).data? number = some (f data) := by
    rw [data?_change, if_pos rfl, hFound]
    rfl
  refine hHosts.of_private (hHosts.wf.change number f) (isSpare_temporaryPlace _ _ _)
    h.outline?_place h.file hData ?_
  intro location hPlace
  exact (touches_change tree number f).node? (by simp) fun hFile => hPlace (h.alone _ hFile)

/-- What others do does not concern the write, as long as they leave its private file alone. -/
theorem of_touches (h : Underway s base tree target bytes stage n number) {places : List Location}
    {other : Nat} (hTouches : tree.Touches after places other)
    (hPlace : temporaryPlace s.site.working target n ∉ places) (hNumber : number ≠ other) :
    Underway s base after target bytes stage n number where
  temporary := h.temporary
  free := h.free
  isOpen := h.isOpen
  file := (fileAt?_congr _ (hTouches.timeless _ hPlace)).trans h.file
  alone location hFile := by
    rcases hTouches.files location number hFile with hSame | hBefore
    · exact absurd hSame hNumber
    · exact h.alone location hBefore
  data := by
    rw [hTouches.data number hNumber]
    exact h.data

/-- What a stage does: it changes the private file and goes on, or it puts the private file in the
place of the target. -/
theorem run (h : Underway s base world.tree target bytes stage n number)
    (hBase : IsOrdinary s base) (hTarget : Access.IsTarget s base target)
    (hHosts : Hosts base world.tree) :
    (∃ next f, stage.run s target bytes world =
        (.next next, { world with tree := world.tree.change number f }) ∧
        Underway s base (world.tree.change number f) target bytes next n number ∧
        next.remaining < stage.remaining) ∨
      ∃ data, stage.run s target bytes world = (.finished, { world with
          tree := rename.move world.tree (temporaryPlace s.site.working target n)
            (target.place s.site.working) (.file number) }) ∧
        world.tree.data? number = some data ∧ data.bytes = bytes ∧
        base.outline? (target.place s.site.working) = some (.file data.mode []) := by
  obtain ⟨data, hData, hExpects⟩ := h.data
  cases stage with
  | openPrivate temporary =>
      refine .inl ⟨.fillPrivate temporary number, (·.rewritten []), ?_, ?_, Nat.lt_succ_self 5⟩
      · rw [run_openPrivate (h.isPrivate hBase hHosts rfl) hData hExpects, hBase.faultAt?]
      · exact h.change (.fillPrivate temporary number) rfl _ fun _ _ => ⟨rfl, rfl⟩
  | fillPrivate temporary file =>
      obtain ⟨rfl, _⟩ := hExpects
      refine .inl ⟨.flushPrivate temporary,
        fun data => data.rewritten (bytes ++ data.bytes.drop bytes.length), ?_, ?_, Nat.lt_succ_self 4⟩
      · unfold WriteStage.run
        simp only [hBase.faultAt?]
        rfl
      · refine h.change (.flushPrivate temporary) rfl _ fun data hEmpty => ?_
        simp only [Expects, FileData.rewritten, hEmpty.2, List.drop_nil, List.append_nil]
  | flushPrivate temporary =>
      refine .inl ⟨.copyMode temporary, id, ?_, ?_, Nat.lt_succ_self 3⟩
      · unfold WriteStage.run
        simp only [hBase.faultAt?, change_id]
      · exact h.change (.copyMode temporary) rfl id fun _ hBytes => hBytes
  | copyMode temporary =>
      have hPrivate := h.isPrivate hBase hHosts rfl
      obtain ⟨status, hStatus, hMode⟩ := hTarget.status hBase hHosts
      refine .inl ⟨.replace temporary, fun data => { data with mode := status.mode },
        ?_, ?_, Nat.lt_succ_self 2⟩
      · unfold WriteStage.run
        simp only [hBase.faultAt?, hStatus, setMode_file (hPrivate.found .target) hPrivate.file]
      · exact h.change (.replace temporary) rfl _ fun _ hBytes => ⟨hBytes, hMode⟩
  | replace temporary =>
      have hPrivate := h.isPrivate hBase hHosts rfl
      refine .inr ⟨data, ?_, hData, hExpects⟩
      obtain ⟨_, _, _, _, _, hFile, _⟩ := hTarget.fileAt hHosts
      have hRename := (rename_file (hPrivate.found .entry) hPrivate.file).mpr
        ⟨_, hTarget.find_entry hBase hHosts, hPrivate.isOpen, ?_, ?_, rfl⟩
      · unfold WriteStage.run
        simp only [hBase.faultAt?, hRename]
        rfl
      · have hOpen := hPrivate.isOpen
        rw [temporaryPlace, List.dropLast_concat] at hOpen
        rw [Destination.entry, hTarget.beside]
        exact hOpen
      · exact not_isDirectoryAt_of_file hFile
  | _ => cases hExpects

theorem place_ne (h : Underway s base tree target bytes stage n number) {other : Path}
    (hOther : Access.IsTarget s base other) :
    temporaryPlace s.site.working target n ≠ other.place s.site.working := by
  intro hSame
  obtain ⟨mode, hMode, _⟩ := hOther.file
  have hNone := h.outline?_place
  rw [hSame, hMode] at hNone
  cases hNone

theorem touches_move (h : Underway s base tree target bytes stage n number)
    (hTarget : Access.IsTarget s base target) (hHosts : Hosts base tree) :
    tree.Touches (rename.move tree (temporaryPlace s.site.working target n)
        (target.place s.site.working) (.file number))
      [temporaryPlace s.site.working target n, target.place s.site.working] number := by
  obtain ⟨_, _, _, _, _, hOver, _⟩ := hTarget.fileAt hHosts
  exact Tree.touches_move hHosts.wf h.file (h.place_ne hTarget) (ne_nil_of_file hOver)

/-- The private file stands in the place of the target, and its name is free again. -/
theorem node?_move (h : Underway s base tree target bytes stage n number)
    (hTarget : Access.IsTarget s base target) (hHosts : Hosts base tree) {data : FileData}
    (hData : tree.data? number = some data) (location : Location) :
    (rename.move tree (temporaryPlace s.site.working target n) (target.place s.site.working)
        (.file number)).node? location =
      if location = target.place s.site.working then some (.file data.mode data.bytes)
      else if location = temporaryPlace s.site.working target n then none
      else tree.node? location := by
  obtain ⟨_, _, _, _, _, hOver, _⟩ := hTarget.fileAt hHosts
  have hNe := h.place_ne hTarget
  have hTimeless := @timeless?_move tree location (.file number) _ _
    (hHosts.wf.isLeaf (not_isDirectoryAt_of_file h.file)) hNe (ne_nil_of_file h.file)
    (ne_nil_of_file hOver)
  have hTouches := h.touches_move hTarget hHosts
  by_cases hTo : location = target.place s.site.working
  · rw [if_pos hTo] at hTimeless ⊢
    rw [node?, hTimeless]
    simp only [Entry.timeless, data?_move, hData, Option.map_some]
  · rw [if_neg hTo] at hTimeless ⊢
    by_cases hFrom : location = temporaryPlace s.site.working target n
    · rw [if_pos hFrom] at hTimeless ⊢
      rw [node?, hTimeless]
    · rw [if_neg hFrom]
      exact hTouches.node? (by simp [hTo, hFrom]) fun hFile => hFrom (h.alone _ hFile)

theorem hosts_move (h : Underway s base tree target bytes stage n number)
    (hTarget : Access.IsTarget s base target) (hHosts : Hosts base tree) {data : FileData}
    (hData : tree.data? number = some data)
    (hMode : base.outline? (target.place s.site.working) = some (.file data.mode [])) :
    Hosts base (rename.move tree (temporaryPlace s.site.working target n)
      (target.place s.site.working) (.file number)) := by
  obtain ⟨_, _, _, _, _, hOver, _⟩ := hTarget.fileAt hHosts
  have hNe := h.place_ne hTarget
  have hNode := h.node?_move hTarget hHosts hData
  refine hHosts.of_replaced ?_ h.outline?_place ?_ hMode ((hNode _).trans (if_pos rfl)) ?_
  · refine hHosts.wf.move h.file hNe (ne_nil_of_file hOver) ?_ (not_isDirectoryAt_of_file hOver)
    apply hHosts.wf.parents
    rw [mem_locations_iff (ne_nil_of_file hOver), (timeless?_eq_file tree).mpr hOver]
    rfl
  · rw [hNode, if_neg hNe, if_pos rfl]
  · intro other hPlace hTo
    rw [hNode, if_neg hTo, if_neg hPlace]

end Underway

/-- Names that were free in the beginning are free unless the private file of a write to the same target
has one of them. -/
theorem find_free (hBase : IsOrdinary s base) (hHosts : Hosts base tree)
    (hFree : base.find s.site.working .entry (temporaryPath s.site.working target n) =
      .ok (.absent place (temporaryName target n)))
    (hNone : tree.timeless? (temporaryPlace s.site.working target n) = none) :
    tree.find s.site.working .entry (temporaryPath s.site.working target n) =
      .ok (.absent place (temporaryName target n)) := by
  have hPlace : place ++ [temporaryName target n] = temporaryPlace s.site.working target n :=
    (find_place hBase.linkless hFree).trans (place_temporaryPath hBase.working target n)
  rw [find_grow (hHosts.grows hBase.wf) hFree, Destination.within, hPlace,
    (timeless?_eq_none tree).mp hNone]
  rfl

/-- What is free in the tree of the clients was free in the beginning. -/
theorem free_of_hosted (hBase : IsOrdinary s base) (hHosts : Hosts base tree) {directory : Location}
    {name : String} (h : tree.find s.site.working .entry (temporaryPath s.site.working target n) =
      .ok (.absent directory name)) :
    directory = target.parent.place s.site.working ∧ name = temporaryName target n ∧
      base.find s.site.working .entry (temporaryPath s.site.working target n) =
        .ok (.absent directory name) := by
  have hBefore := find_absent_of_extends (hHosts.grows hBase.wf) hBase.linkless h
  have hPlace : directory ++ [name] = temporaryPlace s.site.working target n :=
    (find_place hBase.linkless hBefore).trans (place_temporaryPath hBase.working target n)
  obtain ⟨rfl, rfl⟩ := List.append_singleton_inj.mp hPlace
  exact ⟨rfl, rfl, hBefore⟩

/-- A private file that has just been made. Nobody else has it, for its number is new. -/
theorem underway_addFile (bytes : Bytes) (hHosts : Hosts base tree)
    (hFree : base.find s.site.working .entry (temporaryPath s.site.working target n) =
      .ok (.absent (target.parent.place s.site.working) (temporaryName target n)))
    (hOpen : base.isOpenToChange (target.parent.place s.site.working))
    (hTouches : tree.Touches
      (tree.addFile (temporaryPlace s.site.working target n) ⟨0o600, [], .recent⟩).2
      [temporaryPlace s.site.working target n] tree.nextFile) :
    Underway s base (tree.addFile (temporaryPlace s.site.working target n) ⟨0o600, [], .recent⟩).2
      target bytes (.openPrivate (temporaryPath s.site.working target n)) n tree.nextFile := by
  have hRoot : temporaryPlace s.site.working target n ≠ [] := by simp [temporaryPlace]
  refine ⟨rfl, hFree, hOpen, ?_, ?_, ⟨0o600, [], .recent⟩, ?_, rfl⟩
  · rw [← timeless?_eq_file, timeless?_addFile tree _ hRoot, if_pos rfl]
  · intro location hLocation
    apply Decidable.byContradiction
    intro hNe
    rw [fileAt?_congr _ (hTouches.timeless location (by simpa using hNe))] at hLocation
    exact Nat.lt_irrefl _ (hHosts.wf.lt_nextFile hLocation)
  · rw [data?_addFile, if_pos rfl]

/-- A private file can be made while others are there if it could be made in the beginning. -/
theorem createTemporary_hosted (bytes : Bytes) (hBase : IsOrdinary s base) (hHosts : Hosts base tree)
    (hCan : CanCreate s.site.working target base)
    (hFree : ∀ n, base.outline? (temporaryPlace s.site.working target n) = none →
      tree.timeless? (temporaryPlace s.site.working target n) = none) (first : Nat) :
    ∃ n next after, createTemporary s.site.working target temporaryNames first tree =
        .ok (temporaryPath s.site.working target n, next, after) ∧
      tree.timeless? (temporaryPlace s.site.working target n) = none ∧
      tree.Touches after [temporaryPlace s.site.working target n] tree.nextFile ∧
      Hosts base after ∧
      Underway s base after target bytes (.openPrivate (temporaryPath s.site.working target n)) n
        tree.nextFile := by
  have hGrows := hHosts.grows hBase.wf
  have hCanHere : CanCreate s.site.working target tree := by
    obtain ⟨m, directory, hFind, hOpen⟩ := hCan
    have hPlace : directory ++ [temporaryName target m] = temporaryPlace s.site.working target m :=
      (find_place hBase.linkless hFind).trans (place_temporaryPath hBase.working target m)
    have hNone := hFree m (hPlace ▸ outline?_of_free (find_absent hFind).2)
    exact ⟨m, directory, find_free hBase hHosts hFind hNone, by rwa [hGrows.isOpenToChange]⟩
  obtain ⟨⟨made, next, after⟩, hMade⟩ :=
    createTemporary_of_canCreate (hGrows.isLinkless hBase.linkless) hCanHere first
  obtain ⟨n, rfl, hCreate⟩ := createTemporary_ok hMade
  change tree.createPrivate _ (temporaryPath s.site.working target n) = _ at hCreate
  obtain ⟨directory, name, hFound, hOpen, rfl⟩ := createPrivate_ok.mp hCreate
  obtain ⟨rfl, rfl, hBefore⟩ := free_of_hosted hBase hHosts hFound
  obtain ⟨hDirectory, hNone⟩ := find_absent hFound
  have hRoot : temporaryPlace s.site.working target n ≠ [] := by simp [temporaryPlace]
  have hTouches := touches_addFile tree hRoot ⟨0o600, [], .recent⟩
  have hUnderway := underway_addFile bytes hHosts hBefore
    (by rwa [← hGrows.isOpenToChange]) hTouches
  obtain ⟨data, hData, _⟩ := hUnderway.data
  refine ⟨n, next, _, hMade, hNone, hTouches, ?_, hUnderway⟩
  refine hHosts.of_private ?_ (isSpare_temporaryPlace _ _ n) hUnderway.outline?_place hUnderway.file
    hData ?_
  · refine hHosts.wf.addFile _ hRoot ?_ hNone
    rwa [List.dropLast_concat]
  · exact fun location hNe => hTouches.node? (by simpa using hNe) fun hFile =>
      Nat.lt_irrefl _ (hHosts.wf.lt_nextFile hFile)

theorem run_create (hBase : IsOrdinary s base) (target : Path) (bytes : Bytes) (world : World) :
    WriteStage.create.run s target bytes world =
      match createTemporary s.site.working target temporaryNames world.temporaries world.tree with
      | .error e => (.failed e, world)
      | .ok (temporary, temporaries, tree) =>
        (.next (.openPrivate temporary), { world with tree, temporaries }) := by
  have hNone := hBase.faultAt? .createTemporary
  unfold WriteStage.run
  dsimp only
  generalize s.faultAt? .createTemporary = fault at hNone ⊢
  subst hNone
  rfl

/-- A private file that could not be made in the beginning cannot be made later. -/
theorem createTemporary_refused (hBase : IsOrdinary s base) (hHosts : Hosts base tree)
    (hCannot : ¬ CanCreate s.site.working target base) (tries first : Nat) :
    ∃ e, createTemporary s.site.working target tries first tree = .error e := by
  have hGrows := hHosts.grows hBase.wf
  cases hMade : createTemporary s.site.working target tries first tree with
  | error e => exact ⟨e, rfl⟩
  | ok made =>
      obtain ⟨n, directory, hFind, hOpen⟩ :=
        canCreate_of_createTemporary (hGrows.isLinkless hBase.linkless) hMade
      exact absurd ⟨n, directory, find_absent_of_extends hGrows hBase.linkless hFind,
        by rwa [← hGrows.isOpenToChange]⟩ hCannot

end WriteStage

end ConfigGate
