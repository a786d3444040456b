import ConfigGate.Proofs.Access.Write

/-! A write that fails leaves no trace. Under the atomic strategy this holds wherever the failure comes
from; under the other it holds until the target has been opened. -/
namespace ConfigGate.Access

open Act Tree

variable {s : Setting} {world : World}

/-- The access gets as far as opening its target in place. -/
def OpensTarget (s : Setting) (file : Option String) (text : String) (world : World) : Prop :=
  ∃ path root key number, (attempt (target s ⟨file, some text⟩) world).1 = .ok (path, root) ∧
    Write.prepared s path world.tree = .ok key ∧
    (WriteStage.openTarget.run s path (Text.Utf8.encode text) world).1 = .next (.fillTarget number)

/-- Opening the target depends on the tree alone. -/
theorem run_openTarget_congr {before : World} {path : Path} {bytes : Bytes}
    (h : before.tree = world.tree) :
    (WriteStage.openTarget.run s path bytes before).1 =
      (WriteStage.openTarget.run s path bytes world).1 := by
  unfold WriteStage.run
  dsimp only
  rw [h]
  cases s.faultAt? .openFile with
  | some e => rfl
  | none => cases world.tree.openForWriting s.site.working path <;> rfl

/-- A write that fails leaves the tree as it was, up to the times of directories, and no private file
stays behind. A failure while the lock is held is told in one way only. -/
theorem no_trace_of_failed_write (wf : world.tree.WellFormed) {file : Option String}
    {text : String} {failure : Failure} {after : World}
    (h : attempt (handle s ⟨file, some text⟩) world = (.error failure, after)) :
    (s.service.strategy = .atomic → world.tree.Alike after.tree) ∧
      (s.service.strategy = .overwrite → ¬ OpensTarget s file text world →
        after.tree = world.tree) ∧
      ∀ path root key, (attempt (target s ⟨file, some text⟩) world).1 = .ok (path, root) →
        Write.prepared s path world.tree = .ok key →
        failure.family = "InternalFileError" ∧ failure.message = "Internal server error" := by
  obtain ⟨middle, hPerform, hQuiet⟩ := performed_of_handle h
  rw [hQuiet.tree]
  rcases perform_write_cases hPerform with
    ⟨_, hTree, hRefused⟩ | ⟨path, root, key, before, hTarget, hPrepared, hTree, hResult, hAfter⟩
  · refine ⟨fun _ => hTree ▸ .refl _, fun _ _ => hTree, ?_⟩
    intro path root key hTarget hPrepared
    exact absurd hPrepared (hRefused path root key hTarget)
  · obtain ⟨status, hStatus⟩ := status_of_target hTarget
    rw [← hTree] at wf hStatus
    rw [hAfter, ← hTree]
    rcases hStages : Write.stages s path text before with ⟨e | done, final⟩
    · rw [hStages] at hResult
      cases hResult
      refine ⟨fun hStrategy => ?_, fun hStrategy hClosed => ?_, fun _ _ _ _ _ => ⟨rfl, rfl⟩⟩
      · have hEnds := Write.stages_atomic hStrategy wf hStatus text
        rw [hStages] at hEnds
        cases hEnds with
        | restored _ _ _ hAlike => exact hAlike
      · have hEnds := Write.stages_overwrite hStrategy wf hStatus text
        rw [hStages] at hEnds
        cases hEnds with
        | refused => rfl
        | broken _ hOpened =>
            rw [run_openTarget_congr hTree] at hOpened
            exact absurd ⟨path, root, key, _, hTarget, hPrepared, hOpened⟩ hClosed
    · rw [hStages] at hResult
      cases hResult

/-- The file keeps its contents when it cannot be replaced, and when it cannot be opened. -/
theorem no_trace_of_failed_write_real :
    (∃ after, attempt (handle { plainSetting .atomic with fault := some .rename }
          ⟨some "real.txt", some "new"⟩) (World.initial linkedTree) = (.error .internal, after) ∧
        linkedTree.Alike after.tree ∧ Failure.internal.message = "Internal server error") ∧
      ∃ after, attempt (handle { plainSetting .overwrite with fault := some .openFile }
          ⟨some "real.txt", some "new"⟩) (World.initial linkedTree) = (.error .internal, after) ∧
        after.tree = linkedTree := by
  have wf : linkedTree.WellFormed := by decide
  have hRename : (attempt (handle { plainSetting .atomic with fault := some .rename }
      ⟨some "real.txt", some "new"⟩) (World.initial linkedTree)).1 = .error .internal := by
    decide
  have hTarget : (attempt (target { plainSetting .atomic with fault := some .rename }
      ⟨some "real.txt", some "new"⟩) (World.initial linkedTree)).1 =
        .ok (Path.ofLocation ["conf", "real.txt"], Path.ofLocation ["conf"]) := by
    decide
  have hPrepared : Write.prepared { plainSetting .atomic with fault := some .rename }
      (Path.ofLocation ["conf", "real.txt"]) linkedTree = .ok ["conf", "real.txt"] := by
    decide
  have hOpen : (attempt (handle { plainSetting .overwrite with fault := some .openFile }
      ⟨some "real.txt", some "new"⟩) (World.initial linkedTree)).1 = .error .internal := by
    decide
  constructor
  · obtain ⟨hAlike, _, hTold⟩ :=
      no_trace_of_failed_write wf (attempt_eq_of_result hRename)
    exact ⟨_, attempt_eq_of_result hRename, hAlike rfl, (hTold _ _ _ hTarget hPrepared).2⟩
  · obtain ⟨_, hSame, _⟩ :=
      no_trace_of_failed_write wf (attempt_eq_of_result hOpen)
    refine ⟨_, attempt_eq_of_result hOpen, hSame rfl ?_⟩
    rintro ⟨path, root, key, number, _, _, hOpened⟩
    cases hOpened

end ConfigGate.Access
