import ConfigGate.Proofs.Access.Plan
import ConfigGate.Proofs.Tree.Skeleton

/-! What a rejection tells. The guard judges a request by its text and by canonical locations. These
are a matter of directories and links alone, so that neither the verdict nor what is counted and logged
of it says which files there are, and a rejection is told in the words of the request. -/
namespace ConfigGate

open Act Tree

variable {s : Setting} {tree other : Tree} {world : World}

theorem Setting.canonical_of_sameSkeleton (h : tree.SameSkeleton other) (wf : tree.WellFormed)
    (wf' : other.WellFormed) (p : Path) : s.canonical p other = s.canonical p tree := by
  unfold canonical
  rw [h.canonical wf wf', h.nesting wf wf']

namespace Guard

/-- The world after a verdict: a rejection has been counted and logged. -/
def recorded (world : World) : Except Failure Path → World
  | .error (.rejected reason file) =>
    { world with
      metrics := world.metrics.countRejection reason.reason
      events := world.events ++ [.accessRejected reason.reason file] }
  | _ => world

theorem attempt_check_eq (s : Setting) (root : Path) (requested : String) (world : World) :
    attempt (check s root requested) world =
      (verdict s root requested world.tree,
        recorded world (verdict s root requested world.tree)) := by
  unfold check
  rw [attempt_bind, attempt_get]
  dsimp only
  cases verdict s root requested world.tree with
  | ok candidate => rfl
  | error failure => cases failure <;> rfl

theorem recorded_tree (world : World) (result : Except Failure Path) :
    recorded { world with tree := other } result = { recorded world result with tree := other } := by
  cases result with
  | ok candidate => rfl
  | error failure => cases failure <;> rfl

/-- Where a path leads stays open only if its canonical location is lost, or that of the root. -/
theorem canonicalRelative_error {candidate root : Path} {failure : Failure}
    (h : canonicalRelative s candidate root tree = .error failure) : Setting.TellsLoss failure := by
  have lost {p : Path} (hNul : failure ≠ .embeddedNul)
      (hCanonical : s.canonical p tree = .error failure) : Setting.TellsLoss failure := by
    rcases Setting.canonical_cases s p tree with ⟨_, hKnown, _⟩ | ⟨_, hLost, hLoss, _⟩ | ⟨_, hTorn, _⟩
    · cases hCanonical.symm.trans hKnown
    · cases hCanonical.symm.trans hLost
      exact hLoss
    · cases hCanonical.symm.trans hTorn
      exact absurd rfl hNul
  unfold canonicalRelative at h
  split at h
  · cases h
  · rename_i hNul hCandidate
    cases h
    exact lost hNul hCandidate
  · split at h
    · cases h
    · rename_i hNul hRoot
      cases h
      exact lost hNul hRoot
    · cases h

/-- A request without a verdict is rejected in its own words, or its place is lost. -/
theorem verdict_error {root : Path} {requested : String} {failure : Failure}
    (h : verdict s root requested tree = .error failure) :
    Setting.TellsLoss failure ∨
      ∃ reason, failure = .rejected reason (withForwardSlashes requested) ∧
        (reason = .malformed → hasNul (withForwardSlashes requested) = true) := by
  unfold verdict at h
  dsimp only at h
  split at h
  · cases h
    exact .inr ⟨.hidden, rfl, by simp⟩
  split at h
  · cases h
    exact .inr ⟨.traversal, rfl, by simp⟩
  split at h
  · rename_i hNul
    cases h
    exact .inr ⟨.malformed, rfl, fun _ => hNul⟩
  split at h
  · rename_i hRelative
    cases h
    exact .inl (canonicalRelative_error hRelative)
  · cases h
    exact .inr ⟨.escape, rfl, by simp⟩
  · split at h
    · cases h
      exact .inr ⟨.hidden, rfl, by simp⟩
    · cases h

/-- A rejection reveals nothing about files. Whatever files there are, a request has the same outcome,
which is counted and logged in the same way, and a rejection repeats the request and nothing else. -/
theorem check_discreet (wf : world.tree.WellFormed) (wf' : other.WellFormed)
    (h : world.tree.SameSkeleton other) (s : Setting) (root : Path) (requested : String) :
    attempt (check s root requested) { world with tree := other } =
        ((attempt (check s root requested) world).1,
          { (attempt (check s root requested) world).2 with tree := other }) ∧
      ∀ failure, (attempt (check s root requested) world).1 = .error failure →
        failure.family = "ForbiddenError" →
        ∃ reason, failure = .rejected reason (withForwardSlashes requested) ∧
          (attempt (check s root requested) world).2 =
            { world with
              metrics := world.metrics.countRejection reason.reason
              events := world.events ++
                [.accessRejected reason.reason (withForwardSlashes requested)] } ∧
          (failure.message = "Can not access: " ++ withForwardSlashes requested ∨
            failure.message = "Invalid path: " ++ withForwardSlashes requested ∨
            hasNul (withForwardSlashes requested) = true ∧
              failure.message = "Invalid path: " ++ Text.quoted (withForwardSlashes requested)) := by
  simp only [attempt_check_eq]
  constructor
  · have hVerdict : verdict s root requested other = verdict s root requested world.tree :=
      verdict_congr (Setting.canonical_of_sameSkeleton h wf wf')
    rw [hVerdict, recorded_tree]
  · intro failure hFailure hFamily
    rw [hFailure]
    rcases verdict_error hFailure with hLoss | ⟨reason, rfl, hMalformed⟩
    · exact absurd hFamily hLoss.family_ne
    · refine ⟨reason, rfl, rfl, ?_⟩
      cases reason with
      | hidden => exact .inl rfl
      | traversal => exact .inr (.inl rfl)
      | escape => exact .inr (.inl rfl)
      | malformed => exact .inr (.inr ⟨hMalformed rfl, rfl⟩)

/-- A link to a hidden name is rejected in the same words whether or not a file has that name. -/
theorem check_discreet_link :
    let act := check ((Access.plainSetting .atomic).withHidden (.ofList ["real.txt"]))
      (Path.ofLocation ["conf"]) "link.txt"
    let world := World.initial Access.linkedTree
    let without := Access.linkedTree.take ["conf", "real.txt"]
    (attempt act world).1 = .error (.rejected .hidden "link.txt") ∧
      without.fileAt? ["conf", "real.txt"] = none ∧
      attempt act { world with tree := without } =
        ((attempt act world).1, { (attempt act world).2 with tree := without }) := by
  intro act world without
  have wf : world.tree.WellFormed := by decide
  have hFile : world.tree.fileAt? ["conf", "real.txt"] = some 0 := by decide
  have hSkeleton : world.tree.SameSkeleton without := .take hFile
  have wf' : without.WellFormed := wf.take (by decide) (by decide)
  exact ⟨by decide, by decide, (check_discreet wf wf' hSkeleton _ _ _).1⟩

end Guard

end ConfigGate
