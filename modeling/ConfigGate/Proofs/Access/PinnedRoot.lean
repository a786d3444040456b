import ConfigGate.Proofs.Access.Plan
import ConfigGate.Proofs.Access.RootPlaces

/-! How the root is pinned. As long as no call has found a root, each call searches the tree as it is
then. The first root that is found is the answer to all later calls, whatever has become of the tree,
and it is logged once. -/
namespace ConfigGate.ConfigRoot

open Act Computation

variable {s : Setting} {tree : Tree} {p root : Path} {world after : World}

/-! Where a tree has the root -/

/-- The path leads to a directory, and the root is its canonical path. -/
structure IsCanonicalAt (s : Setting) (p : Path) (tree : Tree) (root : Path) : Prop where
  directory : s.isDirectory p tree = .ok true
  canonical : ∃ location, s.canonical p tree = .ok location ∧ root = Path.ofLocation location

/-- The root that a tree offers: the directory on disk, or the one in the package if there is none on
disk. -/
inductive Offers (s : Setting) (tree : Tree) (root : Path) : Prop where
  | onDisk {p : Path} (home : StandsFor s.site (Path.parse s.service.configDir) p)
      (there : IsCanonicalAt s p tree root)
  | inPackage {p base : Path} {package : Package}
      (home : StandsFor s.site (Path.parse s.service.configDir) p) (absent : s.isDirectory p tree = .ok false)
      (named : s.service.resourcePackage ≠ "")
      (installed : Installed s.site s.service.resourcePackage package)
      (kept : Keeps s tree s.service.configDir package base)
      (there : IsCanonicalAt s (base.join (Path.parse s.service.configDir)) tree root)

theorem directoryAt_eq_some_iff : directoryAt s p tree = .ok (some root) ↔ IsCanonicalAt s p tree root := by
  constructor
  · intro h
    obtain ⟨hDirectory, hCanonical⟩ := directoryAt_some h
    exact ⟨hDirectory, hCanonical⟩
  · rintro ⟨hDirectory, location, hCanonical, rfl⟩
    rw [directoryAt, hDirectory, hCanonical]
    rfl

theorem packaged_eq_some_iff : packaged s tree = .ok (some root) ↔
    s.service.resourcePackage ≠ "" ∧ ∃ package, Installed s.site s.service.resourcePackage package ∧
      ∃ base, Keeps s tree s.service.configDir package base ∧
        IsCanonicalAt s (base.join (Path.parse s.service.configDir)) tree root := by
  unfold packaged
  by_cases hNamed : s.service.resourcePackage = ""
  · simp [hNamed]
  rw [if_neg hNamed]
  simp only [ne_eq, hNamed, not_false_eq_true, true_and, ← package_eq_ok_iff]
  cases ConfigRoot.package s.site s.service.resourcePackage with
  | error reason => simp
  | ok package =>
      simp only [Except.ok.injEq, exists_eq_left', ← packagePlace_eq_some_iff]
      rcases packagePlace s tree s.service.configDir package with failure | _ | base
      · simp
      · simp
      · simp [directoryAt_eq_some_iff]

/-- A search finds what the tree offers. -/
theorem found_eq_ok_iff : found s tree = .ok root ↔ Offers s tree root := by
  unfold found
  constructor
  · intro h
    split at h
    · cases h
    · rename_i onDisk hHome
      split at h
      · cases h
      · rename_i hThere
        cases h
        exact .onDisk (expandHome_eq_ok_iff.mp hHome) (directoryAt_eq_some_iff.mp hThere)
      · rename_i hAbsent
        split at h
        · cases h
        · rename_i hPackaged
          cases h
          obtain ⟨hNamed, package, hInstalled, base, hKept, hThere⟩ := packaged_eq_some_iff.mp hPackaged
          exact .inPackage (expandHome_eq_ok_iff.mp hHome) (directoryAt_eq_none_iff.mp hAbsent) hNamed hInstalled
            hKept hThere
        · cases h
  · rintro (⟨hHome, hThere⟩ | ⟨hHome, hAbsent, hNamed, hInstalled, hKept, hThere⟩)
    · rw [expandHome_eq_ok_iff.mpr hHome]
      dsimp only
      rw [directoryAt_eq_some_iff.mpr hThere]
    · rw [expandHome_eq_ok_iff.mpr hHome]
      dsimp only
      rw [directoryAt_eq_none_iff.mpr hAbsent]
      dsimp only
      rw [packaged_eq_some_iff.mpr ⟨hNamed, _, hInstalled, _, hKept, hThere⟩]

/-- Both directories of a package are searched, and the second one has the resource. -/
example :
    let plain := Access.plainSetting .atomic
    let site := { plain.site with
      packages := [("config", .scattered (Path.parse "/first") [Path.parse "/second"])] }
    let service := { plain.service with configDir := "conf", resourcePackage := "config" }
    let tree : Tree := ⟨[(["first"], .directory 0o755 .recent), (["second"], .directory 0o755 .recent),
      (["second", "conf"], .directory 0o755 .recent)], [], 0⟩
    (found { plain with site, service } tree).toOption = some (Path.ofLocation ["second", "conf"]) := by
  decide

theorem Offers.absolute (h : Offers s tree root) : root.anchor = .root := by
  cases h with
  | onDisk _ there =>
      obtain ⟨location, _, rfl⟩ := there.canonical
      rfl
  | inPackage _ _ _ _ _ there =>
      obtain ⟨location, _, rfl⟩ := there.canonical
      rfl

/-! One call -/

/-- The events that tell of a root that has been found. -/
def notices (world : World) : List Log.Event :=
  world.events.filter (·.name == "config_root_resolved")

/-- A search logs no root. -/
theorem notices_search (world : World) : notices (attempt (search s) world).2 = notices world := by
  have hMisses : Respects (Adds World.events Log.Event.IsMiss) (search s) :=
    respects_search fun event hMiss _ => ⟨[event], rfl, by simpa using hMiss⟩
  obtain ⟨new, hEvents, hNew⟩ := hMisses world
  have hNone : new.filter (·.name == "config_root_resolved") = [] := by
    rw [List.filter_eq_nil_iff]
    intro event hMem
    have hMiss := hNew event hMem
    cases event with
    | packageUnavailable _ _ => simp [Log.Event.name]
    | rootUnresolved _ _ => simp [Log.Event.name]
    | _ => exact hMiss.elim
  unfold notices attempt
  rw [hEvents, List.filter_append, hNone, List.append_nil]

/-- A call without a root before it finds what the tree offers, keeps it and logs it. If the tree offers
nothing, the call fails, and there is still no root. -/
theorem resolve_cases (s : Setting) (h : world.root = none) :
    (∃ failure after, attempt (resolve s) world = (.error failure, after) ∧
      (∀ root, ¬ Offers s world.tree root) ∧ after.root = none ∧ notices after = notices world) ∨
    ∃ root after, attempt (resolve s) world = (.ok root, after) ∧ Offers s world.tree root ∧
      after.root = some root ∧ notices after = notices world ++ [.rootResolved root.text] := by
  have hFound := attempt_search (s := s) world
  have hSame := notices_search (s := s) world
  have hQuiet : World.Quiet world (attempt (search s) world).2 :=
    respects_search (fun event _ => isQuiet_log event) world
  have hResolve : attempt (resolve s) world = attempt (search s >>= fun root => do
      modify fun world => { world with root := some root }
      Act.log (.rootResolved root.text)
      return root) world := by
    unfold resolve
    rw [attempt_bind, attempt_get]
    simp only [h]
  rcases hSearch : attempt (search s) world with ⟨failure | root, middle⟩
  · rw [hSearch] at hFound hSame hQuiet
    refine .inl ⟨failure, middle, hResolve.trans (attempt_bind_of_error hSearch _), fun root hOffers => ?_,
      hQuiet.root.trans h, hSame⟩
    rw [← found_eq_ok_iff, ← hFound] at hOffers
    cases hOffers
  · rw [hSearch] at hFound hSame
    refine .inr ⟨root, _, hResolve.trans (attempt_bind_of_ok hSearch _), found_eq_ok_iff.mp hFound.symm, rfl, ?_⟩
    rw [← hSame]
    exact List.filter_append _ _

/-! A run -/

/-- What happens in a run. -/
inductive Turn where
  /-- The tree becomes another one. -/
  | change (tree : Tree)
  /-- The root is asked for. -/
  | call

/-- A call that is over, with the tree that it has seen. -/
structure Call where
  tree : Tree
  result : Except Failure Path

/-- The calls of a run, and what is left after it. -/
def run (s : Setting) : List Turn → World → List Call × World
  | [], world => ([], world)
  | .change tree :: rest, world => run s rest { world with tree }
  | .call :: rest, world =>
    let (result, middle) := attempt (resolve s) world
    let (calls, after) := run s rest middle
    (⟨world.tree, result⟩ :: calls, after)

/-- The call fails, since the tree that it sees offers no root. -/
def Call.Misses (s : Setting) (call : Call) : Prop :=
  (∃ failure, call.result = .error failure) ∧ ∀ root, ¬ Offers s call.tree root

/-- All calls have failed. The root is still searched for. -/
structure Searching (s : Setting) (calls : List Call) (after : World) (logged : List Log.Event) : Prop where
  calls : ∀ call ∈ calls, call.Misses s
  rootless : after.root = none
  noticed : notices after = logged

/-- Some calls have failed, and all others have given the root that the tree offered when the first of
them was made. -/
structure Pinned (s : Setting) (root : Path) (calls : List Call) (after : World) (logged : List Log.Event) : Prop where
  calls : ∃ failed first later, calls = failed ++ first :: later ∧ (∀ call ∈ failed, call.Misses s) ∧
    Offers s first.tree root ∧ ∀ call ∈ first :: later, call.result = .ok root
  absolute : root.anchor = .root
  kept : after.root = some root
  noticed : notices after = logged ++ [.rootResolved root.text]

/-- Once there is a root, nothing changes it. -/
theorem run_of_root (turns : List Turn) (h : world.root = some root) :
    (∀ call ∈ (run s turns world).1, call.result = .ok root) ∧ (run s turns world).2.root = some root ∧
      notices (run s turns world).2 = notices world := by
  induction turns generalizing world with
  | nil => exact ⟨by simp [run], h, rfl⟩
  | cons turn rest ih =>
      cases turn with
      | change tree => exact @ih { world with tree } h
      | call =>
          obtain ⟨hCalls, hRoot, hNotices⟩ := ih h
          rw [run, attempt_resolve_of_root h]
          exact ⟨List.forall_mem_cons.mpr ⟨rfl, hCalls⟩, hRoot, hNotices⟩

/-- Without a root the search goes on until it succeeds. -/
theorem run_of_none (turns : List Turn) (h : world.root = none) :
    Searching s (run s turns world).1 (run s turns world).2 (notices world) ∨
      ∃ root, Pinned s root (run s turns world).1 (run s turns world).2 (notices world) := by
  induction turns generalizing world with
  | nil => exact .inl ⟨by simp [run], h, rfl⟩
  | cons turn rest ih =>
      cases turn with
      | change tree => exact @ih { world with tree } h
      | call =>
          rw [run]
          rcases resolve_cases s h with ⟨failure, middle, hCall, hNone, hRoot, hNotices⟩ |
            ⟨root, middle, hCall, hOffers, hRoot, hNotices⟩
          · have hMisses : Call.Misses s ⟨world.tree, .error failure⟩ := ⟨⟨failure, rfl⟩, hNone⟩
            rw [hCall, ← hNotices]
            rcases ih hRoot with hSearching | ⟨root, hPinned⟩
            · exact .inl ⟨List.forall_mem_cons.mpr ⟨hMisses, hSearching.calls⟩, hSearching.rootless, hSearching.noticed⟩
            · obtain ⟨failed, first, later, hCalls, hFailed, hFirst⟩ := hPinned.calls
              refine .inr ⟨root, ⟨_ :: failed, first, later, congrArg _ hCalls, ?_, hFirst⟩, hPinned.absolute,
                hPinned.kept, hPinned.noticed⟩
              exact List.forall_mem_cons.mpr ⟨hMisses, hFailed⟩
          · obtain ⟨hCalls, hKept, hSame⟩ := run_of_root (s := s) rest hRoot
            rw [hCall]
            refine .inr ⟨root, ⟨[], _, _, rfl, by simp, hOffers, ?_⟩, hOffers.absolute, hKept,
              hSame.trans hNotices⟩
            exact List.forall_mem_cons.mpr ⟨rfl, hCalls⟩

/-- In every run either all calls fail, since none of them sees a tree that offers a root, and no root is
logged, or the first root that a call is offered is the answer to this call and to all later ones, and is
logged once. -/
theorem pinned_of_run (s : Setting) (tree : Tree) (turns : List Turn) :
    Searching s (run s turns (World.initial tree)).1 (run s turns (World.initial tree)).2 [] ∨
      ∃ root, Pinned s root (run s turns (World.initial tree)).1 (run s turns (World.initial tree)).2 [] :=
  run_of_none turns rfl

/-- The directory comes, goes, and comes back as a link to another one. -/
example :
    let elsewhere : Tree := ⟨[(["other"], .directory 0o755 .recent), (["conf"], .link "other")], [], 0⟩
    let turns := [.call, .change Access.linkedTree, .call, .change ⟨[], [], 0⟩, .call, .change elsewhere, .call]
    let ⟨calls, after⟩ := run (Access.plainSetting .atomic) turns (World.initial ⟨[], [], 0⟩)
    calls.map (·.result.toOption) = none :: List.replicate 3 (some (Path.ofLocation ["conf"])) ∧
      (notices after).length = 1 := by
  decide

end ConfigGate.ConfigRoot
