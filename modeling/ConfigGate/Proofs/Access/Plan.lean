import ConfigGate.Proofs.Access.Temporary
import ConfigGate.Proofs.Tree.Outline

/-! What an access is going to do. This is decided before any file is touched, and the decision depends
on nothing but the kinds and permission bits of entries, so that it stays the same while others write
under the atomic strategy. -/
namespace ConfigGate

open Act Tree

variable {s : Setting} {tree other : Tree} {p : Path}

/-! Looking at a path -/

namespace Setting

theorem probe_of_agree {β : Type} {f : Status → β}
    (h : Agree f (tree.status s.site.working p) (other.status s.site.working p)) :
    (s.probe p other).map (Option.map f) = (s.probe p tree).map (Option.map f) := by
  unfold probe
  cases p.hasNul with
  | true => rfl
  | false =>
      simp only [Bool.false_eq_true, if_false]
      cases hBefore : tree.status s.site.working p with
      | ok status =>
          cases hAfter : other.status s.site.working p with
          | ok found =>
              rw [hBefore, hAfter] at h
              exact congrArg (fun b => Except.ok (some b)) h
          | error errno =>
              rw [hBefore, hAfter] at h
              cases h
      | error errno =>
          cases hAfter : other.status s.site.working p with
          | ok found =>
              rw [hBefore, hAfter] at h
              cases h
          | error errno' =>
              rw [hBefore, hAfter] at h
              rcases h with rfl | ⟨rfl, rfl⟩ <;> rfl

theorem isDirectory_eq (s : Setting) (p : Path) (tree : Tree) :
    s.isDirectory p tree = ((s.probe p tree).map (Option.map Status.sight)).map
      fun found => found.any (·.1) := by
  unfold isDirectory
  rcases s.probe p tree with _ | (_ | _) <;> rfl

theorem isDirectory_of_agree
    (h : Agree Status.sight (tree.status s.site.working p) (other.status s.site.working p)) :
    s.isDirectory p other = s.isDirectory p tree := by
  rw [isDirectory_eq, isDirectory_eq, probe_of_agree h]

/-- Whether a path leads to a directory stays the same. A private file is none. -/
theorem isDirectory_of_resembles {spare : Location → Prop} (h : Resembles spare tree other)
    (wf : tree.WellFormed) (wf' : other.WellFormed) (hLinks : tree.IsLinkless) :
    s.isDirectory p other = s.isDirectory p tree := by
  have hExtends := h.extends wf wf'
  rcases h (p.place s.site.working) with hSame | ⟨_, hNone, mode, hFile⟩
  · apply isDirectory_of_agree
    apply Agree.sight
    apply status_agree hExtends hLinks
    rw [outline_statusAt?, outline_statusAt?, hSame]
  · have hBefore : tree.statusAt? (p.place s.site.working) = none := by
      have hStatus := outline_statusAt? tree (p.place s.site.working)
      rw [hNone, Option.bind_none, Option.map_eq_none_iff] at hStatus
      exact hStatus
    cases hFind : tree.find s.site.working .target p with
    | error errno =>
        exact isDirectory_of_agree (status_agree_of_find_error hExtends hLinks hFind Status.sight)
    | ok destination =>
        have hEntry : destination.entry = p.place s.site.working := find_place hLinks hFind
        have hGone : tree.status s.site.working p = .error .noEntry := by
          rw [status_of_find hFind, hEntry, hBefore]
        have hStatus := outline_statusAt? other (p.place s.site.working)
        rw [hFile] at hStatus
        obtain ⟨found, hFound, hOutline⟩ := Option.map_eq_some_iff.mp hStatus
        have hThere : other.status s.site.working p = .ok found := by
          rw [status_of_find (find_grow hExtends hFind), Destination.entry_within, hEntry, hFound]
        have hIs : found.isDirectory = false := congrArg Status.isDirectory hOutline
        unfold isDirectory probe
        cases p.hasNul with
        | true => rfl
        | false => simp [hGone, hThere, hIs, Except.map]

/-- The canonical location of a path does not depend on a tree without links. -/
theorem canonical_of_linkless (hWorking : Path.IsPlain s.site.working) (hTree : tree.IsLinkless)
    (p : Path) : s.canonical p tree =
      if p.hasNul then .error .embeddedNul else .ok (p.place s.site.working) := by
  cases hNul : p.hasNul with
  | true => simp [canonical, hNul]
  | false => exact canonical_of_settles hNul (Nat.zero_le _) (settles_of_linkless hTree hWorking p)

end Setting

/-! The guard -/

namespace Guard

theorem verdict_congr {root : Path} {requested : String}
    (h : ∀ p, s.canonical p other = s.canonical p tree) :
    verdict s root requested other = verdict s root requested tree := by
  unfold verdict canonicalRelative
  simp only [h]

theorem shown_of_agree
    (h : Agree Status.sight (tree.status s.site.working p) (other.status s.site.working p)) :
    shown s p other = shown s p tree := by
  have hProbe := Setting.probe_of_agree h
  unfold shown
  cases hBefore : s.probe p tree with
  | error failure =>
      cases hAfter : s.probe p other with
      | error failure' =>
          rw [hBefore, hAfter] at hProbe
          cases hProbe
          rfl
      | ok found =>
          rw [hBefore, hAfter] at hProbe
          cases hProbe
  | ok status =>
      cases hAfter : s.probe p other with
      | error failure' =>
          rw [hBefore, hAfter] at hProbe
          cases hProbe
      | ok found =>
          rw [hBefore, hAfter] at hProbe
          have hSame : found.map Status.sight = status.map Status.sight := Except.ok.inj hProbe
          cases status with
          | none =>
              rw [Option.map_none, Option.map_eq_none_iff] at hSame
              rw [hSame]
              rfl
          | some status =>
              obtain ⟨found, rfl, hSight⟩ := Option.map_eq_some_iff.mp hSame
              obtain ⟨hNul, hStatus⟩ := Setting.probe_some.mp hBefore
              obtain ⟨_, hFound⟩ := Setting.probe_some.mp hAfter
              have hMay : mayRead found.mode = mayRead status.mode := congrArg Prod.snd hSight
              have hReadable : other.isReadable s.site.working p =
                  tree.isReadable s.site.working p := by
                simp [isReadable, hStatus, hFound, hMay]
              have hHidden : isSystemHidden s p other = isSystemHidden s p tree := by
                simp [isSystemHidden, hStatus, hFound]
              simp [bind, Except.bind, hReadable, hHidden]

end Guard

/-! The root -/

namespace ConfigRoot

/-- The canonical location of a directory as a path, or nothing if there is no such directory. -/
def directoryAt (s : Setting) (p : Path) (tree : Tree) : Except Failure (Option Path) :=
  match s.isDirectory p tree with
  | .error failure => .error failure
  | .ok false => .ok none
  | .ok true => (s.canonical p tree).map fun location => some (Path.ofLocation location)

/-- The root in the resource package, if the tree has its directory. -/
def packaged (s : Setting) (tree : Tree) : Except Failure (Option Path) :=
  if s.service.resourcePackage = "" then .ok none
  else
    match package s.site s.service.resourcePackage with
    | .error _ => .ok none
    | .ok package =>
      match packagePlace s tree s.service.configDir package with
      | .error failure => .error failure
      | .ok none => .ok none
      | .ok (some base) => directoryAt s (base.join (Path.parse s.service.configDir)) tree

/-- The root that a search finds in a tree. -/
def found (s : Setting) (tree : Tree) : Except Failure Path :=
  match expandHome s.site (Path.parse s.service.configDir) with
  | .error failure => .error failure
  | .ok onDisk =>
    match directoryAt s onDisk tree with
    | .error failure => .error failure
    | .ok (some root) => .ok root
    | .ok none =>
      match packaged s tree with
      | .error failure => .error failure
      | .ok (some root) => .ok root
      | .ok none => .error .noRoot

theorem attempt_inPackage (world : World) :
    (attempt (inPackage s) world).1 = packaged s world.tree := by
  unfold inPackage packaged
  split
  · rfl
  · cases package s.site s.service.resourcePackage with
    | error reason => rfl
    | ok package =>
        dsimp only
        rw [attempt_bind, attempt_ask]
        rcases packagePlace s world.tree s.service.configDir package with failure | _ | base
        · rfl
        · rfl
        · dsimp only
          rw [attempt_bind, attempt_ask, directoryAt]
          cases s.isDirectory (base.join (Path.parse s.service.configDir)) world.tree with
          | error failure => rfl
          | ok found =>
              cases found with
              | false => rfl
              | true =>
                  dsimp only
                  rw [if_pos rfl, attempt_bind, attempt_ask]
                  cases s.canonical (base.join (Path.parse s.service.configDir)) world.tree <;> rfl

theorem attempt_search (world : World) : (attempt (search s) world).1 = found s world.tree := by
  unfold search found
  rw [attempt_bind, attempt_ask]
  cases expandHome s.site (Path.parse s.service.configDir) with
  | error failure => rfl
  | ok onDisk =>
      dsimp only
      rw [attempt_bind, attempt_ask, directoryAt]
      cases s.isDirectory onDisk world.tree with
      | error failure => rfl
      | ok found =>
          cases found with
          | true =>
              dsimp only
              rw [if_pos rfl, attempt_bind, attempt_ask]
              cases s.canonical onDisk world.tree <;> rfl
          | false =>
              dsimp only
              rw [if_neg Bool.false_ne_true, attempt_bind, ← attempt_inPackage]
              rcases attempt (inPackage s) world with ⟨_ | (_ | _), _⟩ <;> rfl

/-- The root at the present: the one that is kept, or else what a search finds. -/
def current (s : Setting) (world : World) : Except Failure Path :=
  match world.root with
  | some root => .ok root
  | none => found s world.tree

theorem attempt_resolve_eq_current (world : World) :
    (attempt (resolve s) world).1 = current s world := by
  unfold current
  cases hRoot : world.root with
  | some root => rw [attempt_resolve_of_root hRoot]
  | none => rw [(attempt_resolve_of_none hRoot).1, attempt_search]

theorem found_congr (hDirectory : ∀ p, s.isDirectory p other = s.isDirectory p tree)
    (hCanonical : ∀ p, s.canonical p other = s.canonical p tree)
    (hEntry : ∀ p name, s.hasEntry p name other = s.hasEntry p name tree) :
    found s other = found s tree := by
  unfold found packaged directoryAt
  simp only [hDirectory, hCanonical, packagePlace_congr hDirectory fun p => hEntry p _]

theorem directoryAt_eq_none_iff : directoryAt s p tree = .ok none ↔ s.isDirectory p tree = .ok false := by
  unfold directoryAt
  rcases s.isDirectory p tree with failure | _ | _
  · simp
  · simp
  · cases s.canonical p tree <;> simp [Except.map]

theorem directoryAt_some {root : Path} (h : directoryAt s p tree = .ok (some root)) :
    s.isDirectory p tree = .ok true ∧
      ∃ location, s.canonical p tree = .ok location ∧ root = Path.ofLocation location := by
  unfold directoryAt at h
  split at h
  · cases h
  · cases h
  · rename_i hDirectory
    cases hCanonical : s.canonical p tree with
    | error failure =>
        rw [hCanonical] at h
        cases h
    | ok location =>
        rw [hCanonical] at h
        cases h
        exact ⟨hDirectory, location, rfl, rfl⟩

/-- A root is a directory under its canonical name. -/
theorem found_ok {root : Path} (h : found s tree = .ok root) :
    ∃ p location, s.isDirectory p tree = .ok true ∧ s.canonical p tree = .ok location ∧
      root = Path.ofLocation location := by
  have of_directoryAt {p : Path} (h : directoryAt s p tree = .ok (some root)) :
      ∃ p location, s.isDirectory p tree = .ok true ∧ s.canonical p tree = .ok location ∧
        root = Path.ofLocation location := by
    obtain ⟨hDirectory, location, hCanonical, hRoot⟩ := directoryAt_some h
    exact ⟨p, location, hDirectory, hCanonical, hRoot⟩
  unfold found at h
  split at h
  · cases h
  · split at h
    · cases h
    · rename_i hDirectory
      cases h
      exact of_directoryAt hDirectory
    · split at h
      · cases h
      · rename_i hPackaged
        cases h
        unfold packaged at hPackaged
        split at hPackaged
        · cases hPackaged
        · split at hPackaged
          · cases hPackaged
          · split at hPackaged
            · cases hPackaged
            · cases hPackaged
            · exact of_directoryAt hPackaged
      · cases h

/-- A directory stands where the root says. -/
theorem isDirectoryAt_of_found (hWorking : Path.IsPlain s.site.working) (hLinks : tree.IsLinkless)
    {root : Path} (h : found s tree = .ok root) :
    root.anchor = .root ∧ Path.IsPlain root.parts ∧
      tree.isDirectoryAt (root.place s.site.working) := by
  obtain ⟨p, location, hDirectory, hCanonical, rfl⟩ := found_ok h
  obtain ⟨hNul, there, hFind, hThere⟩ := Setting.find_of_isDirectory hDirectory
  rw [Setting.canonical_of_linkless hWorking hLinks, if_neg (by simp [hNul])] at hCanonical
  cases hCanonical
  have hPlace : there = p.place s.site.working := find_place hLinks hFind
  have hPlain : Path.IsPlain (p.place s.site.working) := by
    apply Path.isPlain_foldl_descend
    unfold Path.start
    split
    · exact hWorking
    · simp [Path.IsPlain]
  refine ⟨rfl, hPlain, ?_⟩
  have hRoot : (Path.ofLocation (p.place s.site.working)).place s.site.working =
      p.place s.site.working := by
    change List.foldl Path.descend [] (p.place s.site.working) = _
    rw [Path.foldl_descend_plain hPlain, List.nil_append]
  rw [hRoot, ← hPlace]
  exact hThere

/-- The root at the present is the one that a search finds in the tree, whether it is kept or still to be
searched for. -/
def IsKept (s : Setting) (tree : Tree) (world : World) : Prop :=
  current s world = found s tree

namespace IsKept

variable {world after : World} (h : IsKept s tree world)

theorem of_none (hRoot : world.root = none) (hFound : found s world.tree = found s tree) :
    IsKept s tree world := by
  rw [IsKept, current, hRoot, hFound]

include h

theorem of_root (hRoot : after.root = world.root) (hTree : after.tree = world.tree) :
    IsKept s tree after := by
  rw [IsKept, current, hRoot, hTree]
  exact h

/-- A root that is kept does not depend on what becomes of the tree. -/
theorem of_isSome (hRoot : after.root = world.root) (hSome : world.root.isSome) : IsKept s tree after := by
  obtain ⟨root, hWorld⟩ := Option.isSome_iff_exists.mp hSome
  rw [IsKept, current, hWorld] at h
  rw [IsKept, current, hRoot, hWorld]
  exact h

/-- A tree in which a search finds the same may take the place of the tree. -/
theorem of_found (hRoot : after.root = world.root) (hFound : found s after.tree = found s tree) :
    IsKept s tree after := by
  cases hWorld : world.root with
  | none => exact of_none (hRoot.trans hWorld) hFound
  | some root => exact h.of_isSome hRoot (by simp [hWorld])

/-- The root is always the same, whether it is searched for or kept. -/
theorem attempt_resolve : (attempt (resolve s) world).1 = found s tree ∧
    IsKept s tree (attempt (resolve s) world).2 := by
  refine ⟨(attempt_resolve_eq_current world).trans h, ?_⟩
  cases hRoot : world.root with
  | some root =>
      rw [attempt_resolve_of_root hRoot]
      exact h
  | none =>
      have hFound : found s world.tree = found s tree := by
        rwa [IsKept, current, hRoot] at h
      obtain ⟨_, hQuiet⟩ := attempt_resolve_of_none (s := s) hRoot
      rw [IsKept, current, hQuiet.root, hQuiet.tree, attempt_search]
      dsimp only
      rw [hFound]
      cases found s tree <;> rfl

end IsKept

end ConfigRoot

/-! The plan -/

/-- What an access is going to do. -/
inductive Plan where
  | write (path : Path) (key : Location) (text : String)
  | list (path root : Path)
  | read (path : Path)
deriving DecidableEq, Repr

namespace Access

/-- What is to be done with a path that may be accessed. -/
def chosen (s : Setting) (request : Request) (path root : Path) (tree : Tree) :
    Except Failure Plan :=
  match request.contents with
  | some text => (Write.prepared s path tree).map fun key => .write path key text
  | none => (s.isDirectory path tree).map fun found => if found then .list path root else .read path

/-- The plan for a request under a root, or why the request is turned down. -/
def planUnder (s : Setting) (request : Request) (tree : Tree) (root : Path) : Except Failure Plan :=
  match Guard.decision s root request.file tree with
  | .error failure => .error failure
  | .ok path => chosen s request path root tree

/-- The plan for a request under the root that a search finds. -/
def plan (s : Setting) (request : Request) (tree : Tree) : Except Failure Plan :=
  match ConfigRoot.found s tree with
  | .error failure => .error failure
  | .ok root => planUnder s request tree root

/-- The request asks for a file under a name that a private file could have. -/
def NamesTemporary (request : Request) : Prop :=
  ∃ file ∈ request.file,
    WriteStage.IsTemporaryName (Path.parse (withForwardSlashes file)).name

/-! The plan stays the same -/

theorem anchor_join_ne {root : Path} (hAnchor : root.anchor = .root) (name : Path) :
    (root.join name).anchor ≠ .relative := by
  rcases name with ⟨_ | _ | _, parts⟩ <;> simp [Path.join, hAnchor]

section

variable (h : Resembles IsSpare tree other) (wf : tree.WellFormed) (wf' : other.WellFormed)
  (hLinks : tree.IsLinkless)

include h wf wf' hLinks

/-- A path below the root looks the same while private files come and go, unless it names one. -/
theorem agree_join {root name : Path} (hAnchor : root.anchor = .root)
    (hRoot : tree.isDirectoryAt (root.place s.site.working))
    (hName : ¬ WriteStage.IsTemporaryName name.name) (hPath : p = root.join name) :
    Agree Status.outline (tree.status s.site.working p) (other.status s.site.working p) := by
  subst hPath
  obtain ⟨anchor, parts⟩ := name
  apply status_agree_of_resembles h wf wf' hLinks
  · have hStart : (root.join ⟨anchor, parts⟩).start s.site.working = [] :=
      if_neg (anchor_join_ne hAnchor _)
    rw [hStart]
    rfl
  · rintro directory last hFind ⟨_, hLast, hSpare⟩
    rw [List.getLast?_concat] at hLast
    cases hLast
    have hParts := getLast?_of_absent hLinks hFind
    have named {last : String} (h : parts.getLast? = some last)
        (hSpare : WriteStage.IsTemporaryName last) : False := by
      apply hName
      simpa [Path.name, h] using hSpare
    cases anchor with
    | root => exact named hParts hSpare
    | doubleRoot => exact named hParts hSpare
    | relative =>
        change (root.parts ++ parts).getLast? = some last at hParts
        rw [List.getLast?_append] at hParts
        cases hOwn : parts.getLast? with
        | some own =>
            rw [hOwn] at hParts
            cases hParts
            exact named hOwn hSpare
        | none =>
            have hEmpty : parts = [] := List.getLast?_eq_none_iff.mp hOwn
            have hSame : root.join ⟨.relative, parts⟩ = root := by simp [Path.join, hEmpty]
            rw [hSame] at hFind
            have hPlace : directory ++ [last] = root.place s.site.working :=
              find_place hLinks hFind
            have hThere := timeless?_isSome_of_directory hRoot
            rw [← hPlace, (find_absent hFind).2] at hThere
            cases hThere

theorem decision_of_resembles {root : Path} (hAnchor : root.anchor = .root)
    (hRoot : tree.isDirectoryAt (root.place s.site.working))
    (hWorking : Path.IsPlain s.site.working) {requested : Option String}
    (hName : ∀ file ∈ requested,
      ¬ WriteStage.IsTemporaryName (Path.parse (withForwardSlashes file)).name) :
    Guard.decision s root requested other = Guard.decision s root requested tree := by
  have hOther := (h.extends wf wf').isLinkless hLinks
  have hCanonical (p : Path) : s.canonical p other = s.canonical p tree := by
    rw [Setting.canonical_of_linkless hWorking hOther,
      Setting.canonical_of_linkless hWorking hLinks]
  cases requested with
  | none =>
      have hEmpty : ¬ WriteStage.IsTemporaryName (Path.mk .relative []).name := by
        rintro ⟨target, n, hName⟩
        exact WriteStage.temporaryName_ne target n hName.symm
      exact Guard.shown_of_agree
        (agree_join h wf wf' hLinks hAnchor hRoot hEmpty (by simp [Path.join])).sight
  | some file =>
      change Guard.verdict s root file other >>= (Guard.shown s · other) =
        Guard.verdict s root file tree >>= (Guard.shown s · tree)
      rw [Guard.verdict_congr hCanonical]
      cases hVerdict : Guard.verdict s root file tree with
      | error failure => rfl
      | ok candidate =>
          obtain ⟨hCandidate, _⟩ := Guard.verdict_ok hVerdict
          exact Guard.shown_of_agree
            (agree_join h wf wf' hLinks hAnchor hRoot (hName file rfl) hCandidate).sight

theorem chosen_of_resembles (hWorking : Path.IsPlain s.site.working) (request : Request)
    (path root : Path) : chosen s request path root other = chosen s request path root tree := by
  have hOther := (h.extends wf wf').isLinkless hLinks
  have hDirectory (p : Path) : s.isDirectory p other = s.isDirectory p tree :=
    Setting.isDirectory_of_resembles h wf wf' hLinks
  have hCanonical : s.canonical path other = s.canonical path tree := by
    rw [Setting.canonical_of_linkless hWorking hOther,
      Setting.canonical_of_linkless hWorking hLinks]
  simp only [chosen, Write.prepared, hDirectory, hCanonical]

/-- What an access is going to do does not change while others write. -/
theorem planUnder_of_resembles (hWorking : Path.IsPlain s.site.working) {request : Request}
    (hName : ¬ NamesTemporary request) {root : Path} (hFound : ConfigRoot.found s tree = .ok root) :
    planUnder s request other root = planUnder s request tree root := by
  obtain ⟨hAnchor, _, hRoot⟩ := ConfigRoot.isDirectoryAt_of_found hWorking hLinks hFound
  unfold planUnder
  rw [decision_of_resembles h wf wf' hLinks hAnchor hRoot hWorking
    fun file hMem hTemporary => hName ⟨file, hMem, hTemporary⟩]
  simp only [chosen_of_resembles h wf wf' hLinks hWorking]

end

/-! What a plan tells about its path -/

/-- A file that may be read stands where the path leads, in the directory of the path. -/
structure IsTarget (s : Setting) (tree : Tree) (p : Path) : Prop where
  nul : p.hasNul = false
  found : tree.find s.site.working .target p = .ok (.present (p.place s.site.working))
  file : ∃ mode, tree.outline? (p.place s.site.working) = some (.file mode []) ∧ mayRead mode
  beside : (p.place s.site.working).dropLast = p.parent.place s.site.working

theorem shown_place (hLinks : tree.IsLinkless) (h : Guard.shown s p tree = .ok p) :
    p.hasNul = false ∧ Guard.isDotName p.name = false ∧
      tree.find s.site.working .target p = .ok (.present (p.place s.site.working)) ∧
      ∃ status, tree.statusAt? (p.place s.site.working) = some status ∧ mayRead status.mode ∧
        s.isDirectory p tree = .ok status.isDirectory := by
  obtain ⟨_, hNul, hDot, status, hStatus, hMay⟩ := Guard.shown_ok h
  obtain ⟨there, hFind, hThere⟩ := status_ok.mp hStatus
  have hPlace : there = p.place s.site.working := find_place hLinks hFind
  rw [hPlace] at hFind hThere
  exact ⟨hNul, hDot, hFind, status, hThere, hMay, Setting.isDirectory_of_status hNul hStatus⟩

private theorem isIdle_of_mem_parse (text : String) :
    ∀ part ∈ (Path.parse text).parts, Path.isIdle part = false := by
  intro part hMem
  unfold Path.parse at hMem
  simpa using (List.mem_filter.mp hMem).2

theorem isIdle_of_mem_join {root name : Path}
    (hRoot : ∀ part ∈ root.parts, Path.isIdle part = false)
    (hName : ∀ part ∈ name.parts, Path.isIdle part = false) :
    ∀ part ∈ (root.join name).parts, Path.isIdle part = false := by
  obtain ⟨anchor, parts⟩ := name
  cases anchor with
  | root => exact hName
  | doubleRoot => exact hName
  | relative =>
      intro part hMem
      rcases List.mem_append.mp hMem with hMem | hMem
      · exact hRoot part hMem
      · exact hName part hMem

theorem isTarget_of_decision (hWorking : Path.IsPlain s.site.working) (hLinks : tree.IsLinkless)
    {root : Path} {requested : Option String} (hFound : ConfigRoot.found s tree = .ok root)
    (hDecision : Guard.decision s root requested tree = .ok p)
    (hFile : s.isDirectory p tree = .ok false) : IsTarget s tree p := by
  obtain ⟨hShown, hRequested⟩ := Guard.decision_ok hDecision
  obtain ⟨hNul, hDot, hFind, status, hStatus, hMay, hDirectory⟩ := shown_place hLinks hShown
  obtain ⟨hAnchor, hPlain, hRoot⟩ := ConfigRoot.isDirectoryAt_of_found hWorking hLinks hFound
  have hKind : status.isDirectory = false := Except.ok.inj (hDirectory.symm.trans hFile)
  have hAt : tree.isDirectoryAt (p.place s.site.working) = false :=
    (isDirectoryAt_of_status hStatus).trans hKind
  have hOutline := outline?_of_status hStatus
  rw [hKind, if_neg Bool.false_ne_true] at hOutline
  refine ⟨hNul, hFind, ⟨status.mode, hOutline, hMay⟩, ?_⟩
  obtain ⟨hAbsolute, hIdle⟩ : p.anchor ≠ .relative ∧ ∀ part ∈ p.parts, Path.isIdle part = false := by
    rcases hRequested with ⟨_, rfl⟩ | ⟨file, _, hVerdict⟩
    · rw [hRoot] at hAt
      cases hAt
    · rw [(Guard.verdict_ok hVerdict).1]
      exact ⟨anchor_join_ne hAnchor _,
        isIdle_of_mem_join (fun part hMem => (hPlain part hMem).1) (isIdle_of_mem_parse _)⟩
  have hParts : p.parts ≠ [] := by
    intro hEmpty
    rw [show p.place s.site.working = [] by simp [Path.place, Path.start, hAbsolute, hEmpty]] at hAt
    cases hAt
  have hLast : p.name ∈ p.parts := by
    unfold Path.name
    rw [List.getLast?_eq_some_getLast hParts]
    exact List.getLast_mem hParts
  have hName : Path.IsName p.name := by
    refine ⟨hIdle _ hLast, fun hUp => ?_⟩
    rw [hUp] at hDot
    cases hDot
  rw [Path.place_eq_descend p, Path.descend_name hName, List.dropLast_concat]

theorem plan_ok {request : Request} {made : Plan} (h : plan s request tree = .ok made) :
    ∃ root path, ConfigRoot.found s tree = .ok root ∧
      Guard.decision s root request.file tree = .ok path ∧
      match made with
      | .write target key text => target = path ∧ request.contents = some text ∧
          Write.prepared s path tree = .ok key
      | .list directory base => directory = path ∧ base = root ∧ request.contents = none ∧
          s.isDirectory path tree = .ok true
      | .read target => target = path ∧ request.contents = none ∧
          s.isDirectory path tree = .ok false := by
  unfold plan at h
  split at h
  · cases h
  · rename_i root hFound
    unfold planUnder at h
    split at h
    · cases h
    · rename_i path hDecision
      refine ⟨root, path, hFound, hDecision, ?_⟩
      unfold chosen at h
      split at h
      · rename_i text hContents
        cases hPrepared : Write.prepared s path tree with
        | error failure =>
            rw [hPrepared] at h
            cases h
        | ok key =>
            rw [hPrepared] at h
            cases h
            exact ⟨rfl, hContents, rfl⟩
      · rename_i hContents
        cases hDirectory : s.isDirectory path tree with
        | error failure =>
            rw [hDirectory] at h
            cases h
        | ok found =>
            rw [hDirectory] at h
            cases found with
            | true => cases h; exact ⟨rfl, rfl, hContents, rfl⟩
            | false => cases h; exact ⟨rfl, hContents, rfl⟩

theorem plan_write {request : Request} {root path : Path} {key : Location} {text : String}
    (hFound : ConfigRoot.found s tree = .ok root)
    (hDecision : Guard.decision s root request.file tree = .ok path)
    (hContents : request.contents = some text) (hPrepared : Write.prepared s path tree = .ok key) :
    plan s request tree = .ok (.write path key text) := by
  simp only [plan, planUnder, hFound, hDecision, chosen, hContents, hPrepared, Except.map]

section

variable (hWorking : Path.IsPlain s.site.working) (hLinks : tree.IsLinkless) {request : Request}

include hWorking hLinks

theorem isTarget_of_write {key : Location} {text : String}
    (h : plan s request tree = .ok (.write p key text)) :
    IsTarget s tree p ∧ key = p.place s.site.working ∧ request.contents = some text := by
  obtain ⟨root, _, hFound, hDecision, rfl, hContents, hPrepared⟩ := plan_ok h
  obtain ⟨hFile, hCanonical⟩ := Write.prepared_ok.mp hPrepared
  have hTarget := isTarget_of_decision hWorking hLinks hFound hDecision hFile
  rw [Setting.canonical_of_linkless hWorking hLinks, if_neg (by simp [hTarget.nul])] at hCanonical
  exact ⟨hTarget, (Except.ok.inj hCanonical).symm, hContents⟩

theorem isTarget_of_read (h : plan s request tree = .ok (.read p)) : IsTarget s tree p := by
  obtain ⟨root, _, hFound, hDecision, rfl, _, hFile⟩ := plan_ok h
  exact isTarget_of_decision hWorking hLinks hFound hDecision hFile

omit hWorking in
/-- A directory that is listed may be read. -/
theorem outline_of_list {root : Path} (h : plan s request tree = .ok (.list p root)) :
    p.hasNul = false ∧ tree.find s.site.working .target p = .ok (.present (p.place s.site.working)) ∧
      ∃ mode, tree.outline? (p.place s.site.working) = some (.directory mode) ∧ mayRead mode := by
  obtain ⟨_, _, _, hDecision, rfl, rfl, _, hDirectory⟩ := plan_ok h
  obtain ⟨hNul, _, hFind, status, hStatus, hMay, hSame⟩ :=
    shown_place hLinks (Guard.decision_ok hDecision).1
  have hKind : status.isDirectory = true := Except.ok.inj (hSame.symm.trans hDirectory)
  have hOutline := outline?_of_status hStatus
  rw [hKind, if_pos rfl] at hOutline
  exact ⟨hNul, hFind, status.mode, hOutline, hMay⟩

end

end Access

end ConfigGate
