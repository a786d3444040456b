import ConfigGate.Proofs.Access.Act
import ConfigGate.Proofs.Tree.Canonical
import ConfigGate.Proofs.Tree.Operations

/-! What the guard and the search for the root decide. Both only look: they change neither files nor
locks, and their decision depends on the tree alone. -/
namespace ConfigGate

open Act

variable {s : Setting}

namespace Setting

theorem probe_some {p : Path} {tree : Tree} {status : Tree.Status} :
    s.probe p tree = .ok (some status) ↔
      p.hasNul = false ∧ tree.status s.site.working p = .ok status := by
  unfold Setting.probe
  cases p.hasNul with
  | true => simp
  | false =>
      simp only [Bool.false_eq_true, if_false, true_and]
      split <;> simp_all

/-- What has a status is a directory as the status says. -/
theorem isDirectory_of_status {p : Path} {tree : Tree} {status : Tree.Status} (hNul : p.hasNul = false)
    (hStatus : tree.status s.site.working p = .ok status) : s.isDirectory p tree = .ok status.isDirectory := by
  rw [isDirectory, probe_some.mpr ⟨hNul, hStatus⟩]
  rfl

/-- A directory is one that the system finds. -/
theorem find_of_isDirectory {p : Path} {tree : Tree} (h : s.isDirectory p tree = .ok true) :
    p.hasNul = false ∧ ∃ location, tree.find s.site.working .target p = .ok (.present location) ∧
      tree.isDirectoryAt location := by
  unfold isDirectory at h
  cases hProbe : s.probe p tree with
  | error failure =>
      rw [hProbe] at h
      cases h
  | ok found =>
      rw [hProbe] at h
      cases found with
      | none => cases h
      | some status =>
          obtain ⟨hNul, hStatus⟩ := probe_some.mp hProbe
          obtain ⟨location, hFind, hAt⟩ := Tree.status_ok.mp hStatus
          refine ⟨hNul, location, hFind, ?_⟩
          rw [Tree.isDirectoryAt_of_status hAt]
          exact Except.ok.inj h

theorem canonical_eq_ok_iff {location : Location} : s.canonical p tree = .ok location ↔
    p.hasNul = false ∧ tree.nesting s.site.working p ≤ s.site.linkDepth ∧
      tree.canonical s.site.working p = .ok location := by
  unfold canonical
  cases p.hasNul with
  | true => simp
  | false =>
      by_cases hDeep : s.site.linkDepth < tree.nesting s.site.working p
      · simp [hDeep, Nat.not_le.mpr hDeep]
      · cases tree.canonical s.site.working p <;> simp [hDeep, Nat.not_lt.mp hDeep]

/-- The system follows fewer links than there is room for. -/
theorem canonical_of_settles {count : Nat} {location : Location} (hNul : p.hasNul = false)
    (hCount : count ≤ Tree.linkLimit) (h : tree.Settles s.site.working count p location) :
    s.canonical p tree = .ok location :=
  canonical_eq_ok_iff.mpr ⟨hNul, Nat.le_trans h.nesting (Nat.le_trans hCount s.site.roomy), h.canonical⟩

/-- The links on a path keep its canonical location from being told: they lead round in a loop, or too many
of them are nested. -/
def IsLost (s : Setting) (p : Path) (tree : Tree) : Prop :=
  p.hasNul = false ∧ (s.site.linkDepth < tree.nesting s.site.working p ∨
    ∃ shown, tree.canonical s.site.working p = .error shown)

/-- The failure tells that a canonical location is lost. -/
inductive TellsLoss : Failure → Prop where
  | looped (path : String) : TellsLoss (.linkLoop path)
  | tooDeep : TellsLoss .tooDeep

theorem TellsLoss.status? {failure : Failure} (h : TellsLoss failure) : failure.status? = none := by
  cases h <;> rfl

theorem TellsLoss.family_ne {failure : Failure} (h : TellsLoss failure) :
    failure.family ≠ "ForbiddenError" := by
  cases h <;> simp [Failure.family]

theorem not_isLost_of_canonical {location : Location} (h : s.canonical p tree = .ok location) :
    ¬ s.IsLost p tree := by
  obtain ⟨_, hRoom, hKnown⟩ := canonical_eq_ok_iff.mp h
  rintro ⟨_, hDeep | ⟨shown, hLost⟩⟩
  · exact Nat.not_lt.mpr hRoom hDeep
  · cases hKnown.symm.trans hLost

/-- The canonical location of a path is known, or lost, or the path has none. -/
theorem canonical_cases (s : Setting) (p : Path) (tree : Tree) :
    (∃ location, s.canonical p tree = .ok location ∧ ¬ s.IsLost p tree) ∨
      (∃ failure, s.canonical p tree = .error failure ∧ TellsLoss failure ∧ s.IsLost p tree) ∨
      p.hasNul ∧ s.canonical p tree = .error .embeddedNul ∧ ¬ s.IsLost p tree := by
  unfold canonical IsLost
  cases p.hasNul with
  | true => simp
  | false =>
      by_cases hDeep : s.site.linkDepth < tree.nesting s.site.working p
      · simp [hDeep, TellsLoss.tooDeep]
      · cases tree.canonical s.site.working p <;> simp [hDeep, TellsLoss.looped]

/-- The setting with other hidden names. -/
def withHidden (s : Setting) (hidden : HiddenNames) : Setting :=
  { s with service := { s.service with hidden } }

@[simp] theorem canonical_withHidden (hidden : HiddenNames) :
    (s.withHidden hidden).canonical = s.canonical := rfl

@[simp] theorem isDirectory_withHidden (hidden : HiddenNames) :
    (s.withHidden hidden).isDirectory = s.isDirectory := rfl

end Setting

namespace Guard

/-- The decision on a request. -/
def decision (s : Setting) (root : Path) (requested : Option String) (tree : Tree) :
    Except Failure Path :=
  match requested with
  | none => shown s root tree
  | some file => verdict s root file tree >>= (shown s · tree)

theorem attempt_check (root : Path) (requested : String) (world : World) :
    (attempt (check s root requested) world).1 = verdict s root requested world.tree ∧
      World.Quiet world (attempt (check s root requested) world).2 := by
  unfold check
  rw [attempt_bind, attempt_get]
  dsimp only
  cases hVerdict : verdict s root requested world.tree with
  | ok candidate => exact ⟨rfl, .refl world⟩
  | error failure =>
      cases failure with
      | rejected reason file => exact ⟨rfl, ⟨rfl, rfl, rfl, rfl, rfl, rfl⟩⟩
      | _ => exact ⟨rfl, .refl world⟩

theorem attempt_resolve (root : Path) (requested : Option String) (world : World) :
    (attempt (resolve s root requested) world).1 = decision s root requested world.tree ∧
      World.Quiet world (attempt (resolve s root requested) world).2 := by
  cases requested with
  | none =>
      unfold resolve
      rw [attempt_ask]
      exact ⟨rfl, .refl world⟩
  | some file =>
      obtain ⟨hResult, hQuiet⟩ := attempt_check (s := s) root file world
      unfold resolve decision
      simp only
      rw [attempt_bind, ← hResult]
      rcases hCheck : attempt (check s root file) world with ⟨_ | target, middle⟩
      · rw [hCheck] at hQuiet
        exact ⟨rfl, hQuiet⟩
      · rw [hCheck] at hQuiet
        simp only [attempt_ask]
        rw [hQuiet.tree]
        exact ⟨rfl, hQuiet⟩

theorem canonicalRelative_eq {candidate root : Path} {tree : Tree} {location base : Location}
    (hLocation : s.canonical candidate tree = .ok location)
    (hBase : s.canonical root tree = .ok base) :
    canonicalRelative s candidate root tree = .ok (Path.below? base location) := by
  unfold canonicalRelative
  rw [hLocation, hBase]

theorem canonicalRelative_some {candidate root : Path} {tree : Tree} {parts : List String} :
    canonicalRelative s candidate root tree = .ok (some parts) ↔
      ∃ location base, s.canonical candidate tree = .ok location ∧
        s.canonical root tree = .ok base ∧ base <+: location ∧ parts = location.drop base.length := by
  constructor
  · intro h
    unfold canonicalRelative at h
    split at h
    · cases h
    · cases h
    · rename_i location hLocation
      split at h
      · cases h
      · cases h
      · rename_i base hBase
        rw [Except.ok.injEq, Path.below?] at h
        split at h
        · rename_i hPrefix
          cases h
          exact ⟨location, base, hLocation, hBase, List.isPrefixOf_iff_prefix.mp hPrefix, rfl⟩
        · cases h
  · rintro ⟨location, base, hLocation, hBase, hPrefix, rfl⟩
    rw [canonicalRelative_eq hLocation hBase, Path.below?,
      if_pos (List.isPrefixOf_iff_prefix.mpr hPrefix)]

/-- A request is admitted if it spells no hidden name, has nothing in it that is forbidden, and leads
below the root, to a place that is not hidden either. -/
theorem verdict_ok_iff {root candidate : Path} {requested : String} {tree : Tree} :
    verdict s root requested tree = .ok candidate ↔
      candidate = root.join (Path.parse (withForwardSlashes requested)) ∧
        s.service.hidden.hides (withForwardSlashes requested) = false ∧
        hasTraversal (withForwardSlashes requested).toList = false ∧
        hasNul (withForwardSlashes requested) = false ∧
        ∃ parts, canonicalRelative s candidate root tree = .ok (some parts) ∧
          s.service.hidden.hides (Path.relativeText parts) = false := by
  constructor
  · intro h
    unfold verdict at h
    simp only at h
    split at h
    · cases h
    rename_i hLiteral
    split at h
    · cases h
    rename_i hTraversal
    split at h
    · cases h
    rename_i hNul
    split at h
    · cases h
    · cases h
    · rename_i parts hRelative
      split at h
      · cases h
      · rename_i hVisible
        have hCandidate := Except.ok.inj h
        subst hCandidate
        rw [Bool.not_eq_true] at hLiteral hTraversal hNul hVisible
        exact ⟨rfl, hLiteral, hTraversal, hNul, parts, hRelative, hVisible⟩
  · rintro ⟨hCandidate, hLiteral, hTraversal, hNul, parts, hRelative, hVisible⟩
    rw [hCandidate] at hRelative ⊢
    simp [verdict, hLiteral, hTraversal, hNul, hRelative, hVisible]

/-- A path that leads out of the root, or to a hidden name, gets no verdict. -/
theorem verdict_ok {root candidate : Path} {requested : String} {tree : Tree}
    (h : verdict s root requested tree = .ok candidate) :
    candidate = root.join (Path.parse (withForwardSlashes requested)) ∧
      ∃ location base, s.canonical candidate tree = .ok location ∧
        s.canonical root tree = .ok base ∧ base <+: location ∧
        s.service.hidden.hides (Path.relativeText (location.drop base.length)) = false := by
  obtain ⟨hCandidate, _, _, _, _, hRelative, hVisible⟩ := verdict_ok_iff.mp h
  obtain ⟨location, base, hLocation, hBase, hPrefix, rfl⟩ := canonicalRelative_some.mp hRelative
  exact ⟨hCandidate, location, base, hLocation, hBase, hPrefix, hVisible⟩

/-- What is shown is there and may be read. -/
theorem shown_ok {target path : Path} {tree : Tree} (h : shown s target tree = .ok path) :
    path = target ∧ target.hasNul = false ∧ isDotName target.name = false ∧
      ∃ status, tree.status s.site.working target = .ok status ∧ Tree.mayRead status.mode := by
  unfold shown at h
  cases hProbe : s.probe target tree with
  | error failure =>
      rw [hProbe] at h
      cases h
  | ok found =>
      rw [hProbe] at h
      cases found with
      | none => cases h
      | some status =>
          obtain ⟨hNul, hStatus⟩ := Setting.probe_some.mp hProbe
          change (if !tree.isReadable s.site.working target then _ else
            isSystemHidden s target tree >>= _) = _ at h
          cases hReadable : tree.isReadable s.site.working target with
          | false => simp [hReadable] at h
          | true =>
              cases hDot : isDotName target.name with
              | true => simp [hReadable, isSystemHidden, hDot, bind, Except.bind] at h
              | false =>
                  simp only [hReadable, isSystemHidden, hDot, hNul, hStatus, bind, Except.bind,
                    Bool.not_true, Bool.false_eq_true, if_false] at h
                  cases h
                  refine ⟨rfl, hNul, rfl, status, hStatus, ?_⟩
                  simpa [Tree.isReadable, hStatus] using hReadable

theorem decision_of_verdict {root path : Path} {file : String} {tree : Tree}
    (hVerdict : verdict s root file tree = .ok path) (hShown : shown s path tree = .ok path) :
    decision s root (some file) tree = .ok path := by
  change verdict s root file tree >>= (shown s · tree) = _
  rw [hVerdict]
  exact hShown

/-- A path that is there, may be read, and has no dot at its beginning is shown. -/
theorem shown_of_status {path : Path} {tree : Tree} {status : Tree.Status}
    (hNul : path.hasNul = false) (hDot : isDotName path.name = false)
    (hStatus : tree.status s.site.working path = .ok status) (hMay : Tree.mayRead status.mode) :
    shown s path tree = .ok path := by
  have hReadable : tree.isReadable s.site.working path = true := by
    simpa [Tree.isReadable, hStatus] using hMay
  unfold shown
  rw [Setting.probe_some.mpr ⟨hNul, hStatus⟩]
  simp [hReadable, isSystemHidden, hDot, hNul, hStatus, bind, Except.bind]

theorem decision_ok {root path : Path} {requested : Option String} {tree : Tree}
    (h : decision s root requested tree = .ok path) :
    shown s path tree = .ok path ∧
      (requested = none ∧ path = root ∨
        ∃ file, requested = some file ∧ verdict s root file tree = .ok path) := by
  cases requested with
  | none =>
      obtain ⟨rfl, _⟩ := shown_ok h
      exact ⟨h, .inl ⟨rfl, rfl⟩⟩
  | some file =>
      change verdict s root file tree >>= (shown s · tree) = _ at h
      cases hVerdict : verdict s root file tree with
      | error failure =>
          rw [hVerdict] at h
          cases h
      | ok candidate =>
          rw [hVerdict] at h
          obtain ⟨rfl, _⟩ := shown_ok h
          exact ⟨h, .inr ⟨file, rfl, hVerdict⟩⟩

/-- What a request with a name may access has been admitted. -/
theorem verdict_of_decision {root path : Path} {file : String} {tree : Tree}
    (h : decision s root (some file) tree = .ok path) : verdict s root file tree = .ok path := by
  obtain ⟨_, ⟨hNone, _⟩ | ⟨_, hSome, hVerdict⟩⟩ := decision_ok h
  · cases hNone
  · cases hSome
    exact hVerdict

end Guard

namespace ConfigRoot

/-- Where a package has a resource depends on what is a directory, and on the entries under one name. -/
theorem packagePlace_congr {s s' : Setting} {tree other : Tree} {name : String}
    (hDirectory : ∀ p, s'.isDirectory p other = s.isDirectory p tree)
    (hEntry : ∀ p, s'.hasEntry p name other = s.hasEntry p name tree) (package : Package) :
    packagePlace s' other name package = packagePlace s tree name package := by
  have hAll (paths : List Path) : allDirectories s' other paths = allDirectories s tree paths := by
    induction paths with
    | nil => rfl
    | cons p rest ih => rw [allDirectories, allDirectories, hDirectory, ih]
  have hHolder (paths : List Path) : holder s' other name paths = holder s tree name paths := by
    induction paths with
    | nil => rfl
    | cons p rest ih => rw [holder, holder, hEntry, ih]
  cases package with
  | scattered first others => rw [packagePlace, packagePlace, hAll, hHolder]
  | directory | archived | single => rfl

section

open Computation

variable {R : World → World → Prop} [Std.Refl R] [Trans R R R]

theorem respects_inPackage (hLog : ∀ event : Log.Event, event.IsMiss → Respects R (log event)) :
    Respects R (inPackage s) := by
  unfold inPackage
  split
  · exact respects_pure none
  · split
    · exact (hLog (.packageUnavailable _ _) trivial).bind fun _ => respects_pure none
    · refine (respects_ask _).bind fun place => ?_
      cases place with
      | none => exact respects_pure none
      | some base =>
          refine (respects_ask _).bind fun found => ?_
          cases found with
          | true => exact (respects_ask _).bind fun _ => respects_pure _
          | false => exact respects_pure none

/-- The search looks around, and has nothing else to do but to log what it did not find. -/
theorem respects_search (hLog : ∀ event : Log.Event, event.IsMiss → Respects R (log event)) :
    Respects R (search s) := by
  unfold search
  refine (respects_ask _).bind fun onDisk => (respects_ask _).bind fun found => ?_
  cases found with
  | true => exact (respects_ask _).bind fun _ => respects_pure _
  | false =>
      refine (respects_inPackage hLog).bind fun packaged => ?_
      cases packaged with
      | some root => exact respects_pure root
      | none => exact (hLog (.rootUnresolved _ _) trivial).bind fun _ => respects_throw _

end

/-- The root that was found before stands. -/
theorem attempt_resolve_of_root {world : World} {root : Path} (h : world.root = some root) :
    attempt (resolve s) world = (.ok root, world) := by
  unfold resolve
  rw [attempt_bind, attempt_get]
  simp only [h]
  rfl

/-- Without a root the search decides, and its first success is kept. -/
theorem attempt_resolve_of_none {world : World} (h : world.root = none) :
    (attempt (resolve s) world).1 = (attempt (search s) world).1 ∧
      World.Quiet { world with root := (attempt (search s) world).1.toOption }
        (attempt (resolve s) world).2 := by
  have hQuiet : World.Quiet world (attempt (search s) world).2 :=
    respects_search (fun event _ => isQuiet_log event) world
  unfold resolve
  rw [attempt_bind, attempt_get]
  simp only [h]
  rw [attempt_bind]
  rcases hSearch : attempt (search s) world with ⟨failure | root, middle⟩
  · rw [hSearch] at hQuiet
    refine ⟨rfl, hQuiet.tree, ?_, hQuiet.locks, hQuiet.temporaries, hQuiet.streams,
      hQuiet.nextStream⟩
    rw [hQuiet.root, h]
    rfl
  · rw [hSearch] at hQuiet
    exact ⟨rfl, hQuiet.tree, rfl, hQuiet.locks, hQuiet.temporaries, hQuiet.streams,
      hQuiet.nextStream⟩

/-- A root that has been found is kept. -/
theorem root_of_resolve {world after : World} {root : Path} (h : attempt (resolve s) world = (.ok root, after)) :
    after.root = some root := by
  cases hRoot : world.root with
  | some found =>
      rw [attempt_resolve_of_root hRoot] at h
      cases h
      exact hRoot
  | none =>
      obtain ⟨hResult, hQuiet⟩ := attempt_resolve_of_none (s := s) hRoot
      rw [h] at hResult hQuiet
      rw [← hResult] at hQuiet
      exact hQuiet.root

/-- The search does not depend on the hidden names. -/
@[simp] theorem resolve_withHidden (hidden : HiddenNames) :
    resolve (s.withHidden hidden) = resolve s := by
  have hPlace : packagePlace (s.withHidden hidden) = packagePlace s := by
    funext tree name package
    exact @packagePlace_congr s (s.withHidden hidden) tree tree name (fun _ => rfl) (fun _ => rfl) package
  unfold resolve search inPackage
  simp only [Setting.canonical_withHidden, Setting.isDirectory_withHidden, hPlace]
  rfl

/-- The search changes nothing but the root. -/
theorem quiet_resolve (world : World) :
    World.Quiet { world with root := (attempt (resolve s) world).2.root }
      (attempt (resolve s) world).2 := by
  cases hRoot : world.root with
  | none =>
      obtain ⟨_, hQuiet⟩ := attempt_resolve_of_none (s := s) hRoot
      exact ⟨hQuiet.tree, rfl, hQuiet.locks, hQuiet.temporaries, hQuiet.streams,
        hQuiet.nextStream⟩
  | some root =>
      rw [attempt_resolve_of_root hRoot]
      exact .refl world

end ConfigRoot

namespace Access

/-- The target of a request is what the guard decides below the root. -/
theorem attempt_target (request : Request) (world : World) :
    (attempt (target s request) world).1 =
        ((attempt (ConfigRoot.resolve s) world).1 >>= fun root =>
          (Guard.decision s root request.file world.tree).map (·, root)) ∧
      World.Quiet (attempt (ConfigRoot.resolve s) world).2 (attempt (target s request) world).2 := by
  have hTree := (ConfigRoot.quiet_resolve (s := s) world).tree
  unfold target
  rcases hFound : attempt (ConfigRoot.resolve s) world with ⟨failure | root, middle⟩
  · rw [attempt_bind_of_error hFound]
    exact ⟨rfl, .refl middle⟩
  · rw [hFound] at hTree
    obtain ⟨hResult, hQuiet⟩ := Guard.attempt_resolve (s := s) root request.file middle
    rw [show middle.tree = world.tree from hTree] at hResult
    rw [attempt_bind_of_ok hFound]
    change _ = Except.map _ _ ∧ World.Quiet middle _
    rw [← hResult]
    rcases hResolve : attempt (Guard.resolve s root request.file) middle with ⟨_ | path, after⟩
    · rw [hResolve] at hQuiet
      rw [attempt_bind_of_error hResolve]
      exact ⟨rfl, hQuiet⟩
    · rw [hResolve] at hQuiet
      rw [attempt_bind_of_ok hResolve]
      exact ⟨rfl, hQuiet⟩

/-- Looking for the target changes nothing but the root. -/
theorem quiet_target (request : Request) (world : World) :
    World.Quiet { world with root := (attempt (target s request) world).2.root }
      (attempt (target s request) world).2 := by
  obtain ⟨_, hQuiet⟩ := attempt_target (s := s) request world
  have hSearch := ConfigRoot.quiet_resolve (s := s) world
  exact ⟨hQuiet.tree.trans hSearch.tree, rfl, hQuiet.locks.trans hSearch.locks,
    hQuiet.temporaries.trans hSearch.temporaries, hQuiet.streams.trans hSearch.streams,
    hQuiet.nextStream.trans hSearch.nextStream⟩

theorem attempt_target_eq_ok {request : Request} {world : World} {path root : Path} :
    (attempt (target s request) world).1 = .ok (path, root) ↔
      (attempt (ConfigRoot.resolve s) world).1 = .ok root ∧
        Guard.decision s root request.file world.tree = .ok path := by
  rw [(attempt_target request world).1]
  cases (attempt (ConfigRoot.resolve s) world).1 with
  | error failure => simp [bind, Except.bind]
  | ok found =>
      change Except.map (·, found) (Guard.decision s found request.file world.tree) = _ ↔ _
      constructor
      · intro h
        cases hDecision : Guard.decision s found request.file world.tree with
        | error failure =>
            rw [hDecision] at h
            cases h
        | ok decided =>
            rw [hDecision] at h
            cases h
            exact ⟨rfl, hDecision⟩
      · rintro ⟨⟨⟩, hDecision⟩
        rw [hDecision]
        rfl

/-- A target lies below the root, as the guard decides. Nothing but the root has changed. -/
theorem attempt_target_ok {request : Request} {world after : World} {path root : Path}
    (h : attempt (target s request) world = (.ok (path, root), after)) :
    (attempt (ConfigRoot.resolve s) world).1 = .ok root ∧
      Guard.decision s root request.file world.tree = .ok path ∧
      World.Quiet { world with root := after.root } after := by
  obtain ⟨hRoot, hDecision⟩ := attempt_target_eq_ok.mp (congrArg Prod.fst h)
  have hQuiet := quiet_target (s := s) request world
  rw [h] at hQuiet
  exact ⟨hRoot, hDecision, hQuiet⟩

theorem root_of_target {request : Request} {world after : World} {path root : Path}
    (h : attempt (target s request) world = (.ok (path, root), after)) : after.root = some root := by
  have hQuiet := (attempt_target (s := s) request world).2
  rw [h] at hQuiet
  obtain ⟨hRoot, _⟩ := attempt_target_ok h
  exact hQuiet.root.trans (ConfigRoot.root_of_resolve (attempt_eq_of_result hRoot))

end Access

end ConfigGate
