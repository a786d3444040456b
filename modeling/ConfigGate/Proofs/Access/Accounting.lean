import ConfigGate.Proofs.Access.Disclosure
import ConfigGate.Proofs.Access.Events
import ConfigGate.Proofs.Access.RootPlaces
import ConfigGate.Proofs.Access.Sequential

/-! How accesses are accounted for. An access that ends in a reply, or in a failure that is meant for
clients, is counted once, under what has become of it. The other failures pass uncounted. They come up
where a path is looked at before anything is done with it: each function that looks at paths has a law
here that says exactly when it gives such a failure, and the law about accesses puts them together. -/
namespace ConfigGate

open Act Computation Path Tree

variable {α β : Type} {s : Setting} {tree : Tree} {world : World} {request : Request}
  {p root path : Path}

/-! Failures that are not meant for clients -/

/-- The result is a failure that no client is meant to see. -/
def Surprises (result : Except Failure α) : Prop :=
  ∃ failure, result = .error failure ∧ failure.status? = none

@[simp] theorem surprises_ok (a : α) : ¬ Surprises (.ok a : Except Failure α) := by
  rintro ⟨_, h, _⟩
  cases h

@[simp] theorem surprises_error {failure : Failure} :
    Surprises (.error failure : Except Failure α) ↔ failure.status? = none := by
  constructor
  · rintro ⟨_, ⟨⟩, h⟩
    exact h
  · exact fun h => ⟨failure, rfl, h⟩

@[simp] theorem surprises_map {f : α → β} {result : Except Failure α} :
    Surprises (result.map f) ↔ Surprises result := by
  cases result with
  | error failure => exact Iff.trans surprises_error surprises_error.symm
  | ok a => exact iff_of_false (surprises_ok (f a)) (surprises_ok a)

/-- A sequence surprises where one of its parts does. -/
theorem surprises_attempt_bind {act : Act α} {next : α → Act β} :
    Surprises (attempt (act >>= next) world).1 ↔
      Surprises (attempt act world).1 ∨ ∃ a middle, attempt act world = (.ok a, middle) ∧
        Surprises (attempt (next a) middle).1 := by
  rw [attempt_bind]
  rcases attempt act world with ⟨failure | a, middle⟩
  · simp
  · dsimp only
    constructor
    · exact fun h => .inr ⟨a, middle, rfl, h⟩
    · rintro (h | ⟨_, _, ⟨⟩, h⟩)
      · exact absurd h (surprises_ok a)
      · exact h

namespace Setting

/-- The system refuses to look for what a path leads to: the path or a name on its way is too long, or
a directory on its way is closed. -/
def Refuses (s : Setting) (p : Path) (tree : Tree) : Prop :=
  p.hasNul = false ∧ (tree.status s.site.working p = .error .nameTooLong ∨
    tree.status s.site.working p = .error .permission)

theorem surprises_probe : Surprises (s.probe p tree) ↔ s.Refuses p tree := by
  unfold probe Refuses
  cases p.hasNul with
  | true => simp
  | false =>
      cases hStatus : tree.status s.site.working p with
      | ok status => simp
      | error errno =>
          rcases status_failed hStatus with rfl | rfl | rfl | rfl | rfl <;> simp [Failure.status?]

theorem surprises_isDirectory : Surprises (s.isDirectory p tree) ↔ s.Refuses p tree :=
  surprises_map.trans surprises_probe

theorem surprises_canonical (hNul : p.hasNul = false) :
    Surprises (s.canonical p tree) ↔ s.IsLost p tree := by
  rcases canonical_cases s p tree with ⟨_, h, hKnown⟩ | ⟨_, h, hLoss, hLost⟩ | ⟨hTorn, _⟩
  · simp [h, hKnown]
  · simp [h, hLoss.status?, hLost]
  · simp [hNul] at hTorn

end Setting

namespace ConfigRoot

/-- A directory cannot be told at a path: the system refuses to look for it, or its canonical location
is lost. -/
inductive Trips (s : Setting) (p : Path) (tree : Tree) : Prop where
  | refused (h : s.Refuses p tree)
  | lost (hDirectory : s.isDirectory p tree = .ok true) (h : s.IsLost p tree)

theorem surprises_directoryAt : Surprises (directoryAt s p tree) ↔ Trips s p tree := by
  have hLook : Surprises (s.isDirectory p tree) ↔ _ := Setting.surprises_isDirectory
  unfold directoryAt
  cases hDirectory : s.isDirectory p tree with
  | error failure =>
      rw [hDirectory] at hLook
      rw [surprises_error, ← surprises_error (α := Bool), hLook]
      exact ⟨.refused, fun h => h.rec id fun h' _ => by simp [hDirectory] at h'⟩
  | ok found =>
      have hOpen : ¬ s.Refuses p tree := by
        rw [← hLook, hDirectory]
        exact surprises_ok found
      cases found with
      | false =>
          refine iff_of_false (surprises_ok _) ?_
          rintro (h | ⟨hTrue, _⟩)
          · exact hOpen h
          · simp [hDirectory] at hTrue
      | true =>
          dsimp only
          rw [surprises_map,
            Setting.surprises_canonical (Setting.find_of_isDirectory hDirectory).1]
          exact ⟨.lost hDirectory, fun h => h.rec (fun h' => absurd h' hOpen) fun _ h' => h'⟩

/-- A package does not say where it has a resource. Of its directories one is none, the system refuses to look
for it, or its names are kept from its owner. -/
inductive PlaceTrips (s : Setting) (tree : Tree) (name : String) : Package → Prop where
  | refused {first p : Path} {others : List Path}
      (h : EndsAt (s.isDirectory · tree = .ok true) (s.Refuses · tree) (first :: others) p) :
      PlaceTrips s tree name (.scattered first others)
  | broken {first p : Path} {others : List Path}
      (h : EndsAt (s.isDirectory · tree = .ok true) (s.isDirectory · tree = .ok false)
        (first :: others) p) : PlaceTrips s tree name (.scattered first others)
  | closed {first p : Path} {others : List Path}
      (hAll : ∀ q ∈ first :: others, s.isDirectory q tree = .ok true)
      (h : EndsAt (Lacks s tree name) (fun q => ∃ errno, tree.namesIn s.site.working q = .error errno)
        (first :: others) p) : PlaceTrips s tree name (.scattered first others)

theorem surprises_allDirectories {paths : List Path} : Surprises (allDirectories s tree paths) ↔
    ∃ p, EndsAt (s.isDirectory · tree = .ok true) (s.Refuses · tree) paths p := by
  induction paths with
  | nil => simp [allDirectories]
  | cons q rest ih =>
      have hLook : Surprises (s.isDirectory q tree) ↔ _ := Setting.surprises_isDirectory
      rw [allDirectories]
      simp only [endsAt_cons, exists_or, exists_and_left, exists_eq_left', ← ih, ← hLook]
      rcases s.isDirectory q tree with _ | _ | _ <;> simp

theorem allDirectories_eq_false {paths : List Path} : allDirectories s tree paths = .ok false ↔
    ∃ p, EndsAt (s.isDirectory · tree = .ok true) (s.isDirectory · tree = .ok false) paths p := by
  induction paths with
  | nil => simp [allDirectories]
  | cons q rest ih =>
      rw [allDirectories]
      simp only [endsAt_cons, exists_or, exists_and_left, exists_eq_left', ← ih]
      rcases s.isDirectory q tree with _ | _ | _ <;> simp

theorem surprises_holder {name : String} {paths : List Path} :
    Surprises (holder s tree name paths) ↔ ∃ p, EndsAt (Lacks s tree name)
      (fun q => ∃ errno, tree.namesIn s.site.working q = .error errno) paths p := by
  induction paths with
  | nil => simp [holder]
  | cons q rest ih =>
      rw [holder]
      simp only [endsAt_cons, exists_or, exists_and_left, exists_eq_left', ← ih, ← hasEntry_eq_false]
      unfold Setting.hasEntry
      cases tree.namesIn s.site.working q with
      | error errno => simp [Failure.status?]
      | ok names => by_cases hName : name ∈ names <;> simp [hName]

theorem surprises_packagePlace {name : String} {package : Package} :
    Surprises (packagePlace s tree name package) ↔ PlaceTrips s tree name package := by
  cases package with
  | directory | archived | single => exact iff_of_false (surprises_ok _) nofun
  | scattered first others =>
      have hTrips : PlaceTrips s tree name (.scattered first others) ↔
          Surprises (allDirectories s tree (first :: others)) ∨
            allDirectories s tree (first :: others) = .ok false ∨
            allDirectories s tree (first :: others) = .ok true ∧
              Surprises (holder s tree name (first :: others)) := by
        rw [surprises_allDirectories, allDirectories_eq_false, allDirectories_eq_true, surprises_holder]
        constructor
        · rintro (h | h | ⟨hAll, h⟩)
          · exact .inl ⟨_, h⟩
          · exact .inr (.inl ⟨_, h⟩)
          · exact .inr (.inr ⟨hAll, _, h⟩)
        · rintro (⟨_, h⟩ | ⟨_, h⟩ | ⟨hAll, _, h⟩)
          · exact .refused h
          · exact .broken h
          · exact .closed hAll h
      rw [hTrips, packagePlace]
      rcases allDirectories s tree (first :: others) with failure | _ | _
      · simp
      · simp [Failure.status?]
      · simp

/-- The search for the root comes to nothing that anyone foresaw. -/
inductive SearchTrips (s : Setting) (tree : Tree) : Prop where
  /-- The configured path starts in a home directory that cannot be told. -/
  | home (h : ∀ p, ¬ StandsFor s.site (parse s.service.configDir) p)
  | disk {p : Path} (hHome : StandsFor s.site (parse s.service.configDir) p)
      (h : Trips s p tree)
  | place {p : Path} {package : Package}
      (hHome : StandsFor s.site (parse s.service.configDir) p)
      (hDisk : s.isDirectory p tree = .ok false) (hNamed : s.service.resourcePackage ≠ "")
      (hPackage : Installed s.site s.service.resourcePackage package)
      (h : PlaceTrips s tree s.service.configDir package)
  | package {p base : Path} {package : Package}
      (hHome : StandsFor s.site (parse s.service.configDir) p)
      (hDisk : s.isDirectory p tree = .ok false) (hNamed : s.service.resourcePackage ≠ "")
      (hPackage : Installed s.site s.service.resourcePackage package)
      (hBase : Keeps s tree s.service.configDir package base)
      (h : Trips s (base.join (parse s.service.configDir)) tree)

/-- A package without a name is none, and one that is not installed is passed over. -/
theorem surprises_packaged :
    Surprises (packaged s tree) ↔ s.service.resourcePackage ≠ "" ∧
      ∃ package, Installed s.site s.service.resourcePackage package ∧
        (PlaceTrips s tree s.service.configDir package ∨
          ∃ base, Keeps s tree s.service.configDir package base ∧
            Trips s (base.join (parse s.service.configDir)) tree) := by
  unfold packaged
  by_cases hNamed : s.service.resourcePackage = ""
  · simp [hNamed]
  rw [if_neg hNamed]
  simp only [ne_eq, hNamed, not_false_eq_true, true_and, ← package_eq_ok_iff]
  cases ConfigRoot.package s.site s.service.resourcePackage with
  | error reason => simp
  | ok package =>
      have hPlace : Surprises (packagePlace s tree s.service.configDir package) ↔ _ :=
        surprises_packagePlace
      simp only [Except.ok.injEq, exists_eq_left', ← hPlace, ← packagePlace_eq_some_iff]
      rcases packagePlace s tree s.service.configDir package with failure | _ | base
      · simp
      · simp
      · simp [surprises_directoryAt]

theorem status?_of_expandHome {site : Site} {failure : Failure}
    (h : expandHome site p = .error failure) : failure.status? = none := by
  unfold expandHome at h
  split at h
  · split at h
    · dsimp only at h
      split at h
      · cases h
        rfl
      · split at h
        · cases h
        · cases h
          rfl
    · cases h
  · cases h

theorem surprises_found : Surprises (found s tree) ↔ SearchTrips s tree := by
  unfold found
  have hStands {p : Path} : expandHome s.site (parse s.service.configDir) = .ok p ↔ _ := expandHome_eq_ok_iff
  cases hHome : expandHome s.site (parse s.service.configDir) with
  | error failure =>
      refine iff_of_true (surprises_error.mpr (status?_of_expandHome hHome)) (.home fun p hStandsFor => ?_)
      simp [hHome] at hStands
      exact hStands hStandsFor
  | ok onDisk =>
      have hOnDisk : ∀ p, StandsFor s.site (parse s.service.configDir) p ↔ onDisk = p := by
        intro p
        rw [← hStands, hHome, Except.ok.injEq]
      dsimp only
      have hLook : Surprises (directoryAt s onDisk tree) ↔ _ := surprises_directoryAt
      have hPackaged : Surprises (packaged s tree) ↔ _ := surprises_packaged
      have hTrips : SearchTrips s tree ↔ Trips s onDisk tree ∨
          directoryAt s onDisk tree = .ok none ∧ Surprises (packaged s tree) := by
        rw [directoryAt_eq_none_iff, hPackaged]
        constructor
        · rintro (hNone | ⟨hOther, h⟩ | ⟨hOther, hDisk, hNamed, hPackage, h⟩ |
            ⟨hOther, hDisk, hNamed, hPackage, hBase, h⟩)
          · exact absurd ((hOnDisk onDisk).mpr rfl) (hNone onDisk)
          · cases (hOnDisk _).mp hOther
            exact .inl h
          · cases (hOnDisk _).mp hOther
            exact .inr ⟨hDisk, hNamed, _, hPackage, .inl h⟩
          · cases (hOnDisk _).mp hOther
            exact .inr ⟨hDisk, hNamed, _, hPackage, .inr ⟨_, hBase, h⟩⟩
        · have hHome := (hOnDisk onDisk).mpr rfl
          rintro (h | ⟨hDisk, hNamed, _, hPackage, h | ⟨_, hBase, h⟩⟩)
          · exact .disk hHome h
          · exact .place hHome hDisk hNamed hPackage h
          · exact .package hHome hDisk hNamed hPackage hBase h
      rw [hTrips, ← hLook]
      rcases directoryAt s onDisk tree with failure | _ | root
      · simp
      · rcases packaged s tree with failure | _ | root
        · simp
        · simp [Failure.status?]
        · simp
      · simp

theorem surprises_current :
    Surprises (current s world) ↔ world.root = none ∧ SearchTrips s world.tree := by
  unfold current
  cases world.root with
  | some root => simp
  | none => simp [surprises_found]

end ConfigRoot

namespace Guard

/-- The text of a request is in order, but the place that it asks for cannot be told, or that of the
root. -/
structure Loses (s : Setting) (root : Path) (requested : String) (tree : Tree) : Prop where
  visible : s.service.hidden.hides (withForwardSlashes requested) = false
  untraversed : hasTraversal (withForwardSlashes requested).toList = false
  untorn : hasNul (withForwardSlashes requested) = false
  lost : s.IsLost (root.join (parse (withForwardSlashes requested))) tree ∨
    (∃ location, s.canonical (root.join (parse (withForwardSlashes requested))) tree =
      .ok location) ∧ s.IsLost root tree

theorem surprises_canonicalRelative {candidate : Path} :
    Surprises (canonicalRelative s candidate root tree) ↔
      s.IsLost candidate tree ∨
        (∃ location, s.canonical candidate tree = .ok location) ∧ s.IsLost root tree := by
  unfold canonicalRelative
  rcases Setting.canonical_cases s candidate tree with
    ⟨location, hCandidate, hFree⟩ | ⟨failure, hCandidate, hLoss, hLost⟩ | ⟨_, hCandidate, hFree⟩
  · rw [hCandidate]
    dsimp only
    rcases Setting.canonical_cases s root tree with
      ⟨base, hRoot, hRootFree⟩ | ⟨failure, hRoot, hLoss, hRootLost⟩ | ⟨_, hRoot, hRootFree⟩
    · simp [hRoot, hFree, hRootFree]
    · cases hLoss <;> simp [hRoot, hRootLost, Failure.status?]
    · simp [hRoot, hFree, hRootFree]
  · cases hLoss <;> simp [hCandidate, hLost, Failure.status?]
  · simp [hCandidate, hFree]

theorem surprises_verdict {requested : String} :
    Surprises (verdict s root requested tree) ↔ Loses s root requested tree := by
  have hRelative : Surprises (canonicalRelative s
      (root.join (parse (withForwardSlashes requested))) root tree) ↔ _ :=
    surprises_canonicalRelative
  have hLoses : Loses s root requested tree ↔
      s.service.hidden.hides (withForwardSlashes requested) = false ∧
        hasTraversal (withForwardSlashes requested).toList = false ∧
        hasNul (withForwardSlashes requested) = false ∧
        Surprises (canonicalRelative s (root.join (parse (withForwardSlashes requested))) root
          tree) :=
    ⟨fun ⟨h₁, h₂, h₃, h₄⟩ => ⟨h₁, h₂, h₃, hRelative.mpr h₄⟩,
      fun ⟨h₁, h₂, h₃, h₄⟩ => ⟨h₁, h₂, h₃, hRelative.mp h₄⟩⟩
  rw [hLoses]
  unfold verdict
  dsimp only
  cases s.service.hidden.hides (withForwardSlashes requested) with
  | true => simp [Failure.status?]
  | false =>
      cases hasTraversal (withForwardSlashes requested).toList with
      | true => simp [Failure.status?]
      | false =>
          cases hasNul (withForwardSlashes requested) with
          | true => simp [Failure.status?]
          | false =>
              rcases canonicalRelative s (root.join (parse (withForwardSlashes requested))) root
                tree with failure | _ | parts
              · simp
              · simp [Failure.status?]
              · simp only [Bool.false_eq_true, if_false, surprises_ok, and_false, iff_false]
                split <;> simp [Failure.status?]

/-- A path that leads somewhere is hidden for its name alone. -/
theorem isSystemHidden_of_probe {status : Status} (h : s.probe p tree = .ok (some status)) :
    isSystemHidden s p tree = .ok (isDotName p.name) := by
  obtain ⟨hNul, hStatus⟩ := Setting.probe_some.mp h
  unfold isSystemHidden
  cases isDotName p.name <;> simp [hNul, hStatus]

theorem surprises_shown : Surprises (shown s path tree) ↔ s.Refuses path tree := by
  have hLook : Surprises (s.probe path tree) ↔ _ := Setting.surprises_probe
  unfold shown
  cases hProbe : s.probe path tree with
  | error failure =>
      rw [hProbe, surprises_error] at hLook
      exact surprises_error.trans hLook
  | ok found =>
      rw [hProbe] at hLook
      rw [← hLook]
      cases found with
      | none => simp [bind, Except.bind, Failure.status?]
      | some status =>
          simp only [bind, Except.bind, isSystemHidden_of_probe hProbe, surprises_ok, iff_false]
          split
          · simp [Failure.status?]
          · split <;> simp [Failure.status?]

/-- The guard has nothing against a path for what is asked for. -/
inductive Admits (s : Setting) (root : Path) (tree : Tree) : Option String → Path → Prop where
  | root : Admits s root tree none root
  | below {file : String} {path : Path} (h : verdict s root file tree = .ok path) :
      Admits s root tree (some file) path

theorem surprises_decision {requested : Option String} :
    Surprises (decision s root requested tree) ↔
      (∃ file, requested = some file ∧ Loses s root file tree) ∨
        ∃ path, Admits s root tree requested path ∧ s.Refuses path tree := by
  cases requested with
  | none =>
      refine surprises_shown.trans ⟨fun h => .inr ⟨root, .root, h⟩, ?_⟩
      rintro (⟨_, ⟨⟩, _⟩ | ⟨_, ⟨⟩, h⟩)
      exact h
  | some file =>
      have hVerdict : Surprises (verdict s root file tree) ↔ _ := surprises_verdict
      change Surprises (verdict s root file tree >>= (shown s · tree)) ↔ _
      cases hJudged : verdict s root file tree with
      | error failure =>
          rw [hJudged] at hVerdict
          refine Iff.trans (surprises_error.trans surprises_error.symm) (hVerdict.trans ?_)
          constructor
          · exact fun h => .inl ⟨file, rfl, h⟩
          · rintro (⟨_, ⟨⟩, h⟩ | ⟨path, hAdmits, _⟩)
            · exact h
            · cases hAdmits with
              | below h => simp [hJudged] at h
      | ok path =>
          rw [hJudged] at hVerdict
          refine surprises_shown.trans ⟨fun h => .inr ⟨path, .below hJudged, h⟩, ?_⟩
          rintro (⟨_, ⟨⟩, h⟩ | ⟨other, hAdmits, h⟩)
          · exact absurd (hVerdict.mpr h) (surprises_ok path)
          · cases hAdmits with
            | below hOther =>
                cases hJudged.symm.trans hOther
                exact h

end Guard

namespace Access

/-- No one foresaw that no target would be found. -/
inductive Unplaced (s : Setting) (file : Option String) (world : World) : Prop where
  /-- There is no root yet, and the search for it comes to nothing. -/
  | search (hRoot : world.root = none) (h : ConfigRoot.SearchTrips s world.tree)
  /-- The guard loses the place that is asked for among the links on the way. -/
  | judge {root : Path} {requested : String} (hRoot : ConfigRoot.current s world = .ok root)
      (hFile : file = some requested) (h : Guard.Loses s root requested world.tree)
  /-- The guard has nothing against the place, and the system refuses to look for it. -/
  | look {root path : Path} (hRoot : ConfigRoot.current s world = .ok root)
      (hAdmitted : Guard.Admits s root world.tree file path) (h : s.Refuses path world.tree)

theorem surprises_target :
    Surprises (attempt (target s request) world).1 ↔ Unplaced s request.file world := by
  have hCurrent : Surprises (ConfigRoot.current s world) ↔ _ := ConfigRoot.surprises_current
  have hUnplaced : Unplaced s request.file world ↔ Surprises (ConfigRoot.current s world) ∨
      ∃ root, ConfigRoot.current s world = .ok root ∧
        Surprises (Guard.decision s root request.file world.tree) := by
    simp only [hCurrent, Guard.surprises_decision]
    constructor
    · rintro (⟨hRoot, h⟩ | ⟨hRoot, hFile, h⟩ | ⟨hRoot, hAdmitted, h⟩)
      · exact .inl ⟨hRoot, h⟩
      · exact .inr ⟨_, hRoot, .inl ⟨_, hFile, h⟩⟩
      · exact .inr ⟨_, hRoot, .inr ⟨_, hAdmitted, h⟩⟩
    · rintro (⟨hRoot, h⟩ | ⟨_, hRoot, ⟨_, hFile, h⟩ | ⟨_, hAdmitted, h⟩⟩)
      · exact .search hRoot h
      · exact .judge hRoot hFile h
      · exact .look hRoot hAdmitted h
  rw [(attempt_target request world).1, ConfigRoot.attempt_resolve_eq_current, hUnplaced]
  cases ConfigRoot.current s world with
  | error failure => simp [bind, Except.bind]
  | ok root => simp [bind, Except.bind]

theorem target_ok_iff :
    (attempt (target s request) world).1 = .ok (path, root) ↔
      ConfigRoot.current s world = .ok root ∧
        Guard.decision s root request.file world.tree = .ok path := by
  rw [attempt_target_eq_ok, ConfigRoot.attempt_resolve_eq_current]

/-- What may be accessed has been looked at, so that a plan for it can only fail to name its lock. -/
theorem surprises_chosen (hShown : Guard.shown s path tree = .ok path) :
    Surprises (chosen s request path root tree) ↔
      (∃ text, request.contents = some text) ∧ s.isDirectory path tree = .ok false ∧
        s.IsLost path tree := by
  obtain ⟨_, hNul, _, status, hStatus, _⟩ := Guard.shown_ok hShown
  have hDirectory := Setting.isDirectory_of_status hNul hStatus
  have hCanonical : Surprises (s.canonical path tree) ↔ _ := Setting.surprises_canonical hNul
  unfold chosen
  cases request.contents with
  | none => simp [hDirectory]
  | some text =>
      dsimp only
      rw [surprises_map, Write.prepared, hDirectory]
      cases status.isDirectory with
      | true => simp [bind, Except.bind, Failure.status?]
      | false => simp [bind, Except.bind, hCanonical]

/-- Once it is planned, an access can only fail to name a directory that it is to list. -/
theorem surprises_carryOut_list (hNul : path.hasNul = false) :
    Surprises (attempt (carryOut s (.list path root)) world).1 ↔
      Listing.relative? path root = none := by
  rw [(attempt_carryOut_list s path root world).1, surprises_map]
  unfold Listing.listed
  cases Listing.relative? path root with
  | none => simp [Failure.status?]
  | some relative =>
      rw [hNul]
      cases Listing.scan s path world.tree <;> simp [Failure.status?]

theorem not_surprises_carryOut_read (hNul : path.hasNul = false) :
    ¬ Surprises (attempt (carryOut s (.read path)) world).1 := by
  rw [carryOut, attempt_bind, Stream.attempt_ofPath hNul]
  cases Stream.opened s path world.tree with
  | error e => exact fun h => by simpa [Failure.status?] using surprises_error.mp h
  | ok file => exact surprises_ok _

theorem not_surprises_carryOut_write {key : Location} {text : String} :
    ¬ Surprises (attempt (carryOut s (.write path key text)) world).1 := by
  rw [(attempt_carryOut_write s path key text world).1, surprises_map]
  rcases (Write.stages s path text { world with locks := world.locks.request key 0 }).1 with e | done
  · exact fun h => by simpa [Failure.status?] using surprises_error.mp h
  · exact surprises_ok _

/-- What has been planned surprises exactly if it is the listing of a directory that does not lie below
the root as it is spelled. -/
theorem surprises_carryOut {made : Plan} (hNul : path.hasNul = false)
    (hChosen : chosen s request path root tree = .ok made) :
    Surprises (attempt (carryOut s made) world).1 ↔
      request.contents = none ∧ s.isDirectory path tree = .ok true ∧
        Listing.relative? path root = none := by
  unfold chosen at hChosen
  cases hContents : request.contents with
  | some text =>
      rw [hContents] at hChosen
      dsimp only at hChosen
      cases hPrepared : Write.prepared s path tree with
      | error failure =>
          rw [hPrepared] at hChosen
          cases hChosen
      | ok key =>
          rw [hPrepared] at hChosen
          cases hChosen
          exact iff_of_false not_surprises_carryOut_write (by simp)
  | none =>
      rw [hContents] at hChosen
      dsimp only at hChosen
      cases hDirectory : s.isDirectory path tree with
      | error failure =>
          rw [hDirectory] at hChosen
          cases hChosen
      | ok found =>
          rw [hDirectory] at hChosen
          cases found with
          | true =>
              cases hChosen
              simp [surprises_carryOut_list hNul]
          | false =>
              cases hChosen
              exact iff_of_false (not_surprises_carryOut_read hNul) (by simp)

/-- An access surprises where no target is found, where a file is to be written to whose lock cannot be
named, and where a directory is to be listed that cannot be named. -/
theorem surprises_perform :
    Surprises (attempt (perform s request) world).1 ↔ Unplaced s request.file world ∨
      ∃ root path, ConfigRoot.current s world = .ok root ∧
        Guard.decision s root request.file world.tree = .ok path ∧
        (((∃ text, request.contents = some text) ∧ s.isDirectory path world.tree = .ok false ∧
            s.IsLost path world.tree) ∨
          request.contents = none ∧ s.isDirectory path world.tree = .ok true ∧
            Listing.relative? path root = none) := by
  rw [perform_eq, surprises_attempt_bind, planned, surprises_attempt_bind, surprises_target]
  constructor
  · rintro ((h | ⟨⟨path, root⟩, middle, hTarget, h⟩) | ⟨made, middle, hPlanned, h⟩)
    · exact .inl h
    · obtain ⟨hRoot, hDecision⟩ := target_ok_iff.mp (congrArg Prod.fst hTarget)
      have hTree : middle.tree = world.tree := (attempt_target_ok hTarget).2.2.tree
      rw [attempt_choose, hTree, surprises_chosen (Guard.decision_ok hDecision).1] at h
      exact .inr ⟨root, path, hRoot, hDecision, .inl h⟩
    · obtain ⟨⟨path, root⟩, after, hTarget, hChoose⟩ := attempt_bind_ok.mp hPlanned
      obtain ⟨hRoot, hDecision⟩ := target_ok_iff.mp (congrArg Prod.fst hTarget)
      have hTree : after.tree = world.tree := (attempt_target_ok hTarget).2.2.tree
      have hNul := (Guard.shown_ok (Guard.decision_ok hDecision).1).2.1
      rw [attempt_choose, hTree] at hChoose
      exact .inr ⟨root, path, hRoot, hDecision, .inr ((surprises_carryOut hNul (congrArg Prod.fst hChoose)).mp h)⟩
  · rintro (h | ⟨root, path, hRoot, hDecision, h⟩)
    · exact .inl (.inl h)
    have hTarget := attempt_eq_of_result (target_ok_iff.mpr ⟨hRoot, hDecision⟩)
    have hTree := (attempt_target_ok hTarget).2.2.tree
    have hShown := (Guard.decision_ok hDecision).1
    rcases h with h | ⟨hContents, hDirectory, hSpelled⟩
    · refine .inl (.inr ⟨_, _, hTarget, ?_⟩)
      rw [attempt_choose, hTree]
      exact (surprises_chosen hShown).mpr h
    · have hChosen : chosen s request path root world.tree = .ok (.list path root) := by
        simp [chosen, hContents, hDirectory, Except.map]
      have hChoose := attempt_choose s request path root (attempt (target s request) world).2
      rw [hTree, hChosen] at hChoose
      exact .inr ⟨_, _, attempt_bind_ok.mpr ⟨_, _, hTarget, hChoose⟩,
        (surprises_carryOut (Guard.shown_ok hShown).2.1 hChosen).mpr ⟨hContents, hDirectory, hSpelled⟩⟩

/-- Contents that no file can hold surprise where there is a file for them. -/
theorem surprises_refuse {contents : Text.Wide} :
    Surprises (attempt (refuse s request contents) world).1 ↔ Unplaced s request.file world ∨
      ∃ root path, ConfigRoot.current s world = .ok root ∧
        Guard.decision s root request.file world.tree = .ok path ∧
        s.isDirectory path world.tree = .ok false := by
  -- The guard has looked at the target, so that its kind is known.
  have hRefused {root path : Path} {middle : World} (hTree : middle.tree = world.tree)
      (hDecision : Guard.decision s root request.file world.tree = .ok path) :
      Surprises (attempt (do
          if ← Act.ask fun world => s.isDirectory path world.tree then
            throw (.writesDirectory path.name)
          throw (.unencodable contents) : Act Reply) middle).1 ↔ s.isDirectory path world.tree = .ok false := by
    obtain ⟨_, hNul, _, status, hStatus, _⟩ := Guard.shown_ok (Guard.decision_ok hDecision).1
    rw [attempt_bind, attempt_ask, hTree, Setting.isDirectory_of_status hNul hStatus]
    cases status.isDirectory with
    | true => exact iff_of_false (fun h => by simpa [Failure.status?] using surprises_error.mp h) (by simp)
    | false => exact iff_of_true (surprises_error.mpr rfl) rfl
  rw [refuse, surprises_attempt_bind, surprises_target]
  refine or_congr_right ⟨?_, ?_⟩
  · rintro ⟨⟨path, root⟩, middle, hTarget, h⟩
    obtain ⟨hRoot, hDecision⟩ := target_ok_iff.mp (congrArg Prod.fst hTarget)
    have hTree : middle.tree = world.tree := (attempt_target_ok hTarget).2.2.tree
    exact ⟨root, path, hRoot, hDecision, (hRefused hTree hDecision).mp h⟩
  · rintro ⟨root, path, hRoot, hDecision, h⟩
    have hTarget := attempt_eq_of_result (target_ok_iff.mpr ⟨hRoot, hDecision⟩)
    have hTree := (attempt_target_ok hTarget).2.2.tree
    exact ⟨(path, root), _, hTarget, (hRefused hTree hDecision).mpr h⟩

/-- Only a listing can have a time that is no date. -/
theorem surprises_dated {reply : Reply} : Surprises (dated reply) ↔
    ∃ path listing, reply = .listed path listing ∧ ∃ entry ∈ listing.entries, ¬ entry.modified.IsDate := by
  cases reply with
  | listed path listing =>
      have hNone := @Listing.undated?_eq_none_iff listing
      unfold dated
      cases hUndated : listing.undated? with
      | none => simpa [hUndated] using hNone.mp hUndated
      | some fault => simpa [hUndated, Failure.status?] using hNone
  | read | written => simp [dated]

/-- A listing is given where nothing is to be written. -/
theorem attempt_perform_eq_listed {listing : Listing} :
    (attempt (perform s request) world).1 = .ok (.listed path listing) ↔
      request.contents = none ∧ ∃ root, ConfigRoot.current s world = .ok root ∧
        Guard.decision s root request.file world.tree = .ok path ∧
        s.isDirectory path world.tree = .ok true ∧
        Listing.listed s path root world.tree = .ok listing := by
  obtain ⟨file, _ | text⟩ := request
  · rw [attempt_perform_listed, ConfigRoot.attempt_resolve_eq_current]
    simp
  · refine iff_of_false (fun h => ?_) (by simp)
    obtain ⟨_, hReply⟩ := reply_of_write h
    cases hReply

/-- No one foresaw what happens to a target. -/
inductive Unhandled (s : Setting) (demand : Demand) (root path : Path) (tree : Tree) : Prop where
  /-- A file is to be written to whose canonical path is lost. It has come into the place of the root, since
  the guard has found everything that is asked for by name. -/
  | lock {text : String} (hContents : demand.contents = some (text : Text.Wide))
      (hDirectory : s.isDirectory path tree = .ok false) (h : s.IsLost path tree)
  /-- A directory is to be listed that does not lie below the root as it is spelled. -/
  | spelling (hContents : demand.contents = none) (hDirectory : s.isDirectory path tree = .ok true)
      (h : Listing.relative? path root = none)
  /-- A directory is to be listed that has an entry with a time that is no date. -/
  | date {listing : Listing} {entry : ListedEntry} (hContents : demand.contents = none)
      (hDirectory : s.isDirectory path tree = .ok true)
      (hListed : Listing.listed s path root tree = .ok listing) (hEntry : entry ∈ listing.entries)
      (h : ¬ entry.modified.IsDate)
  /-- A file is to be written to with contents that have no encoding. -/
  | encoding {contents : Text.Wide} (hContents : demand.contents = some contents)
      (hDirectory : s.isDirectory path tree = .ok false) (h : contents.isWhole = false)

/-- What no one foresaw when a demand was to be answered. -/
inductive Unforeseen (s : Setting) (demand : Demand) (world : World) : Prop where
  | place (h : Unplaced s demand.file world)
  | target {root path : Path} (hRoot : ConfigRoot.current s world = .ok root)
      (hDecision : Guard.decision s root demand.file world.tree = .ok path)
      (h : Unhandled s demand root path world.tree)

theorem unforeseen_iff {demand : Demand} : Unforeseen s demand world ↔ Unplaced s demand.file world ∨
    ∃ root path, ConfigRoot.current s world = .ok root ∧
      Guard.decision s root demand.file world.tree = .ok path ∧
      Unhandled s demand root path world.tree := by
  constructor
  · rintro (h | ⟨hRoot, hDecision, h⟩)
    · exact .inl h
    · exact .inr ⟨_, _, hRoot, hDecision, h⟩
  · rintro (h | ⟨_, _, hRoot, hDecision, h⟩)
    · exact .place h
    · exact .target hRoot hDecision h

/-- No file takes contents that none can hold. -/
theorem unhandled_iff_of_torn {demand : Demand} {contents : Text.Wide} (hTorn : demand.torn? = some contents) :
    Unhandled s demand root path tree ↔ s.isDirectory path tree = .ok false := by
  obtain ⟨hContents, hHalf⟩ := Option.filter_eq_some_iff.mp hTorn
  rw [Bool.not_eq_true'] at hHalf
  constructor
  · intro h
    cases h with
    | lock hWhole => simp [Option.some.inj (hContents.symm.trans hWhole)] at hHalf
    | spelling hNone => simp [hContents] at hNone
    | date hNone => simp [hContents] at hNone
    | encoding _ hDirectory => exact hDirectory
  · exact fun hDirectory => .encoding hContents hDirectory hHalf

/-- All that can happen to a request that is written to a file is that its lock has no name. A directory cannot be
listed if it cannot be named, or if there is a time in the listing that is no date. -/
theorem unhandled_demand_iff : Unhandled s request.demand root path tree ↔
    ((∃ text, request.contents = some text) ∧ s.isDirectory path tree = .ok false ∧ s.IsLost path tree) ∨
      request.contents = none ∧ s.isDirectory path tree = .ok true ∧
        (Listing.relative? path root = none ∨ ∃ listing, Listing.listed s path root tree = .ok listing ∧
          ∃ entry ∈ listing.entries, ¬ entry.modified.IsDate) := by
  obtain ⟨file, _ | text⟩ := request
  · constructor
    · intro h
      cases h with
      | lock hContents => cases hContents
      | spelling _ hDirectory h => exact .inr ⟨rfl, hDirectory, .inl h⟩
      | date _ hDirectory hListed hEntry h => exact .inr ⟨rfl, hDirectory, .inr ⟨_, hListed, _, hEntry, h⟩⟩
      | encoding hContents => cases hContents
    · rintro (⟨⟨_, ⟨⟩⟩, _⟩ | ⟨_, hDirectory, h | ⟨_, hListed, _, hEntry, h⟩⟩)
      · exact .spelling rfl hDirectory h
      · exact .date rfl hDirectory hListed hEntry h
  · constructor
    · intro h
      cases h with
      | lock _ hDirectory h => exact .inl ⟨⟨text, rfl⟩, hDirectory, h⟩
      | spelling hContents => cases hContents
      | date hContents => cases hContents
      | encoding hContents _ h =>
          cases hContents
          simp at h
    · rintro (⟨_, hDirectory, h⟩ | ⟨⟨⟩, _⟩)
      exact .lock rfl hDirectory h

/-- A demand comes to a failure that is not meant for clients exactly if one of these things happens. -/
theorem surprises_undertake (demand : Demand) :
    Surprises (attempt (undertake s demand) world).1 ↔ Unforeseen s demand world := by
  rw [unforeseen_iff]
  cases hTorn : demand.torn? with
  | some contents =>
      simp only [undertake, hTorn, surprises_refuse, unhandled_iff_of_torn hTorn]
      rfl
  | none =>
      obtain ⟨request, rfl⟩ := Demand.exists_request hTorn
      simp only [undertake_demand, surprises_attempt_bind, surprises_perform, attempt_ask, surprises_dated,
        unhandled_demand_iff]
      constructor
      · rintro ((h | ⟨root, path, hRoot, hDecision, h | ⟨hContents, hDirectory, h⟩⟩) |
          ⟨reply, middle, hReply, path, listing, rfl, hDates⟩)
        · exact .inl h
        · exact .inr ⟨root, path, hRoot, hDecision, .inl h⟩
        · exact .inr ⟨root, path, hRoot, hDecision, .inr ⟨hContents, hDirectory, .inl h⟩⟩
        · obtain ⟨hContents, root, hRoot, hDecision, hDirectory, hListed⟩ :=
            attempt_perform_eq_listed.mp (congrArg Prod.fst hReply)
          exact .inr ⟨root, path, hRoot, hDecision, .inr ⟨hContents, hDirectory, .inr ⟨listing, hListed, hDates⟩⟩⟩
      · rintro (h | ⟨root, path, hRoot, hDecision, h | ⟨hContents, hDirectory, h | ⟨listing, hListed, hDates⟩⟩⟩)
        · exact .inl (.inl h)
        · exact .inl (.inr ⟨root, path, hRoot, hDecision, .inl h⟩)
        · exact .inl (.inr ⟨root, path, hRoot, hDecision, .inr ⟨hContents, hDirectory, h⟩⟩)
        · have hReply := attempt_perform_eq_listed.mpr ⟨hContents, root, hRoot, hDecision, hDirectory, hListed⟩
          exact .inr ⟨_, _, attempt_eq_of_result hReply, path, listing, rfl, hDates⟩

end Access

/-! Counting -/

namespace Metrics

/-- The number that a counter stands at. -/
def counted {κ : Type} [DecidableEq κ] (key : κ) (counters : List (κ × Nat)) : Nat :=
  (counters.lookup key).getD 0

theorem counted_bump {κ : Type} [DecidableEq κ] (key other : κ) (counters : List (κ × Nat)) :
    counted other (bump key counters) = counted other counters + if other = key then 1 else 0 := by
  unfold counted bump
  rw [Keyed.lookup_assign]
  by_cases h : other = key
  · subst h
    simp
  · simp [h]

/-- The number of accesses of one series: with this mode and this outcome. -/
def accessCount (m : Metrics) (series : String × String) : Nat :=
  counted series m.accesses

theorem accessCount_countAccess (m : Metrics) (mode outcome : String) (series : String × String) :
    (m.countAccess mode outcome).accessCount series =
      m.accessCount series + if series = (mode, outcome) then 1 else 0 :=
  counted_bump (mode, outcome) series m.accesses

end Metrics

/-- A failure that is not meant for clients is in none of the families that are. -/
theorem Failure.family_of_status_none (failure : Failure) (h : failure.status? = none) :
    failure.family ∉ ["ForbiddenError", "BadRequestError", "InternalFileError"] := by
  cases failure with
  | system e => cases hErrno : e.errno <;> simp [family, hErrno, Errno.family]
  | undated fault => cases fault <;> simp [family, Time.Fault.family]
  | _ => simp_all [family, status?]

namespace Access

/-- The series that the result of an access belongs to. -/
inductive Belongs (request : Request) : Except Failure Reply → String × String → Prop where
  | reply (reply : Reply) : Belongs request (.ok reply) (reply.mode, "ok")
  | forbidden {failure : Failure} (h : failure.family = "ForbiddenError") :
      Belongs request (.error failure) (request.mode, "forbidden")
  | badRequest {failure : Failure} (h : failure.family = "BadRequestError") :
      Belongs request (.error failure) (request.mode, "bad_request")
  | internal {failure : Failure} (h : failure.family = "InternalFileError") :
      Belongs request (.error failure) (request.mode, "error")

/-- The result of an access belongs to a series, and one access more has been counted in that series
and in no other. -/
def IsAccounted (request : Request) (before : Metrics) (result : Except Failure Reply)
    (after : Metrics) : Prop :=
  ∃ series, Belongs request result series ∧ ∀ other,
    after.accessCount other = before.accessCount other + if other = series then 1 else 0

/-- The same accesses have been counted. -/
def SameCounts (before after : World) : Prop := after.metrics.accesses = before.metrics.accesses

instance : Std.Refl SameCounts := ⟨fun _ => rfl⟩

instance : Trans SameCounts SameCounts SameCounts := ⟨fun h h' => h'.trans h⟩

theorem allows_sameCounts : World.Allows SameCounts where
  unrecorded _ hMetrics := congrArg Metrics.accesses hMetrics
  logged _ _ _ := rfl
  rejected _ _ := rfl
  written _ _ := rfl

/-- The series in which a result is counted. -/
def series? (request : Request) : Except Failure Reply → Option (String × String)
  | .ok reply => some (reply.mode, "ok")
  | .error failure => (outcome? failure).map (request.mode, ·)

theorem belongs_error_iff {failure : Failure} {series : String × String} :
    Belongs request (.error failure) series ↔
      failure.family = "ForbiddenError" ∧ series = (request.mode, "forbidden") ∨
        failure.family = "BadRequestError" ∧ series = (request.mode, "bad_request") ∨
        failure.family = "InternalFileError" ∧ series = (request.mode, "error") := by
  constructor
  · intro h
    cases h with
    | forbidden h => exact .inl ⟨h, rfl⟩
    | badRequest h => exact .inr (.inl ⟨h, rfl⟩)
    | internal h => exact .inr (.inr ⟨h, rfl⟩)
  · rintro (⟨h, rfl⟩ | ⟨h, rfl⟩ | ⟨h, rfl⟩)
    · exact .forbidden h
    · exact .badRequest h
    · exact .internal h

/-- Accesses are counted in the series that their results belong to. -/
theorem belongs_iff {result : Except Failure Reply} {series : String × String} :
    Belongs request result series ↔ series? request result = some series := by
  cases result with
  | ok reply =>
      constructor
      · rintro ⟨⟩
        rfl
      · rintro ⟨⟩
        exact .reply reply
  | error failure =>
      rw [belongs_error_iff]
      cases hStatus : failure.status? with
      | none =>
          have hFamily := failure.family_of_status_none hStatus
          simp only [List.mem_cons, List.not_mem_nil, or_false, not_or] at hFamily
          simp [series?, outcome?, hStatus, hFamily]
      | some status =>
          cases failure <;> simp [Failure.status?] at hStatus <;>
            simp [Failure.family, series?, outcome?, Failure.status?, eq_comm]

theorem series?_eq_none {result : Except Failure Reply} :
    series? request result = none ↔ Surprises result := by
  cases result with
  | ok reply => simp [series?]
  | error failure => cases failure <;> simp [series?, outcome?, Failure.status?]

theorem attempt_count_eq (request : Request) (result : Except Failure Reply) (world : World) :
    (attempt (count request result) world).2.metrics =
      match series? request result with
      | some series => world.metrics.countAccess series.1 series.2
      | none => world.metrics := by
  cases result with
  | ok reply => rfl
  | error failure =>
      simp only [count, series?]
      cases outcome? failure <;> rfl

/-- Every demand is accounted for, unless something unforeseen happens. Then it comes to a failure that is
not meant for clients, and is not counted. -/
theorem accounted_iff (s : Setting) (demand : Demand) (world : World) :
    let out := attempt (call s demand) world
    (IsAccounted demand.request world.metrics out.1 out.2.metrics ↔ ¬ Unforeseen s demand world) ∧
      (Unforeseen s demand world → Surprises out.1 ∧
        ∀ series, out.2.metrics.accessCount series = world.metrics.accessCount series) := by
  intro out
  have hOut : out = _ := attempt_counted demand.request (undertake s demand) world
  have hSame : (attempt (undertake s demand) world).2.metrics.accesses = world.metrics.accesses :=
    respects_undertake allows_sameCounts demand world
  have hMetrics := attempt_count_eq demand.request (attempt (undertake s demand) world).1
    (attempt (undertake s demand) world).2
  rw [← surprises_undertake, hOut]
  dsimp only
  rw [hMetrics]
  cases hSeries : series? demand.request (attempt (undertake s demand) world).1 with
  | some series =>
      have hForeseen : ¬ Surprises (attempt (undertake s demand) world).1 := by
        intro hSurprises
        rw [series?_eq_none.mpr hSurprises] at hSeries
        cases hSeries
      refine ⟨iff_of_true ⟨series, belongs_iff.mpr hSeries, fun other => ?_⟩ hForeseen,
        fun h => absurd h hForeseen⟩
      dsimp only
      rw [Metrics.accessCount_countAccess, Metrics.accessCount, hSame, ← Metrics.accessCount]
  | none =>
      have hSurprises := series?_eq_none.mp hSeries
      refine ⟨iff_of_false ?_ (not_not_intro hSurprises), fun _ => ⟨hSurprises, fun series => ?_⟩⟩
      · rintro ⟨series, hBelongs, _⟩
        rw [belongs_iff, hSeries] at hBelongs
        cases hBelongs
      · exact congrArg (Metrics.counted series) hSame

/-- A configuration directory with a link that leads to itself. -/
def loopTree : Tree where
  entries := [(["conf"], .directory 0o755 .recent), (["conf", "loop"], .link "loop")]
  files := []
  nextFile := 0

/-- A request for the link ends in the failure of resolution, and nothing is counted. -/
theorem unaccounted_loop :
    let demand := Demand.mk (some "loop") none
    let out := attempt (call (plainSetting .atomic) demand) (World.initial loopTree)
    out.1 = .error (.linkLoop "/conf/loop") ∧ out.2.metrics = Metrics.zero ∧
      ¬ IsAccounted demand.request Metrics.zero out.1 out.2.metrics := by
  intro demand out
  have hResult : out.1 = .error (.linkLoop "/conf/loop") := by decide
  refine ⟨hResult, by decide, ?_⟩
  rintro ⟨series, hBelongs, _⟩
  rw [hResult, belongs_error_iff] at hBelongs
  simp [Failure.family] at hBelongs

end Access

end ConfigGate
