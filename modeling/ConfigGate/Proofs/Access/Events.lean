import ConfigGate.Proofs.Access.Listing
import ConfigGate.Proofs.Access.Write

/-! What an access leaves in the records. On its way it may log events about what became of it, and count
a rejection or a write; its own outcome is counted after it. What is logged about requests comes from
around the access. -/
namespace ConfigGate

open Act Computation

/-- The relation holds of every step of an access: of changes that go into no record, of events that are
logged, and of rejections and writes that are counted. -/
structure World.Allows (R : World → World → Prop) : Prop where
  unrecorded : ∀ {before after : World}, after.events = before.events →
    after.metrics = before.metrics → R before after
  logged : ∀ (world : World) {event : Log.Event}, event.IsAccess → R world (world.log event)
  rejected : ∀ (world : World) (reason : String),
    R world { world with metrics := world.metrics.countRejection reason }
  written : ∀ (world : World) (size : Nat),
    R world { world with metrics := world.metrics.countWrite size }

variable {s : Setting} {R : World → World → Prop} [Std.Refl R] [Trans R R R]

namespace ConfigRoot

theorem respects_resolve (h : World.Allows R) : Respects R (resolve s) := by
  unfold resolve
  refine respects_get.bind fun world => ?_
  split
  · exact respects_pure _
  · refine (respects_search fun _ hMiss _ => h.logged _ hMiss.isAccess).bind fun root => ?_
    have hKeep : Respects R
        (modify fun world : World => { world with root := some root } : Act Unit) :=
      fun _ => h.unrecorded rfl rfl
    have hLog : Respects R (log (.rootResolved root.text)) := fun _ => h.logged _ trivial
    exact hKeep.bind fun _ => hLog.bind fun _ => respects_pure root

end ConfigRoot

namespace Guard

theorem respects_check (h : World.Allows R) (root : Path) (requested : String) :
    Respects R (check s root requested) := by
  unfold check
  refine respects_get.bind fun world => ?_
  split
  · exact respects_pure _
  · rename_i failure _
    cases failure with
    | rejected reason file =>
        have hCount : Respects R (Act.count (·.countRejection reason.reason)) :=
          fun world => h.rejected world _
        have hLog : Respects R (log (.accessRejected reason.reason file)) :=
          fun _ => h.logged _ trivial
        exact hCount.bind fun _ => hLog.bind fun _ => respects_throw _
    | _ => exact respects_throw _

theorem respects_resolve (h : World.Allows R) (root : Path) (requested : Option String) :
    Respects R (resolve s root requested) := by
  cases requested with
  | none => exact respects_ask _
  | some file => exact (respects_check h root file).bind fun _ => respects_ask _

end Guard

namespace Write

variable {target : Path} {bytes : Bytes}

/-- A stage goes into no record. -/
theorem records_run (target : Path) (bytes : Bytes) (stage : WriteStage) (world : World) :
    (stage.run s target bytes world).2.events = world.events ∧
      (stage.run s target bytes world).2.metrics = world.metrics := by
  unfold WriteStage.run
  cases stage <;> dsimp only <;> repeat' (first | exact ⟨rfl, rfl⟩ | split)

theorem records_runAll (target : Path) (bytes : Bytes) (fuel : Nat) (stage : WriteStage)
    (world : World) :
    (stage.runAll s target bytes fuel world).2.events = world.events ∧
      (stage.runAll s target bytes fuel world).2.metrics = world.metrics := by
  induction fuel generalizing stage world with
  | zero => exact ⟨rfl, rfl⟩
  | succ fuel ih =>
      have hRun := @records_run s target bytes stage world
      rw [WriteStage.runAll]
      revert hRun
      rcases stage.run s target bytes world with ⟨_ | _ | _, after⟩ <;> intro hRun
      · obtain ⟨hEvents, hMetrics⟩ := ih _ after
        exact ⟨hEvents.trans hRun.1, hMetrics.trans hRun.2⟩
      · exact hRun
      · exact hRun

theorem respects_conclude (h : World.Allows R) (key : Location) (caller : Nat)
    (result : Except SystemError Unit) :
    Respects R (conclude s target key caller bytes result) := by
  have hRelease : Respects R (releaseLock key caller) := fun _ => h.unrecorded rfl rfl
  cases result with
  | error e =>
      have hLog : Respects R (log (.writeFailed target.text e.message e.record)) :=
        fun _ => h.logged _ trivial
      exact hLog.bind fun _ => hRelease.bind fun _ => respects_throw _
  | ok done =>
      have hCount : Respects R (Act.count (·.countWrite bytes.length)) :=
        fun world => h.written world _
      exact hRelease.bind fun _ => hCount.bind fun _ => fun _ => h.logged _ trivial

theorem respects_file (h : World.Allows R) (target : Path) (contents : String) :
    Respects R (file s target contents) := by
  intro world
  change R world (attempt (file s target contents) world).2
  rw [attempt_file]
  split
  · exact Std.Refl.refl world
  · rename_i key _
    obtain ⟨hEvents, hMetrics⟩ := @records_runAll s target (Text.Utf8.encode contents)
      (WriteStage.first s.service.strategy).remaining (WriteStage.first s.service.strategy)
      { world with locks := world.locks.request key 0 }
    rcases hRun : stages s target contents { world with locks := world.locks.request key 0 }
      with ⟨result, after⟩
    unfold stages at hRun
    rw [hRun] at hEvents hMetrics
    have hStages : R world after := h.unrecorded hEvents hMetrics
    exact Trans.trans hStages (respects_conclude h key 0 result after)

end Write

namespace Stream

theorem respects_ofPath (h : World.Allows R) (p : Path) : Respects R (ofPath s p) := by
  have hStart (result : Except SystemError Nat) : Respects R (start p result) := by
    cases result with
    | error e =>
        have hLog : Respects R (log (.openFailed p.text e.message e.record)) :=
          fun _ => h.logged _ trivial
        exact hLog.bind fun _ => respects_throw _
    | ok file =>
        intro world
        have hOpen : R world { world with
            streams := (world.nextStream, file) :: world.streams
            nextStream := world.nextStream + 1 } := h.unrecorded rfl rfl
        have hLog (opened : World) : R opened (opened.log (.readStarted p.text)) :=
          h.logged opened trivial
        exact Trans.trans hOpen (hLog _)
  unfold ofPath
  split
  · exact respects_throw _
  · exact respects_get.bind fun world => hStart _

theorem respects_drain (h : World.Allows R) (stream : Stream) : Respects R (stream.drain s) := by
  have hClose : Respects R stream.close := fun _ => h.unrecorded rfl rfl
  unfold drain
  refine respects_get.bind fun world => ?_
  dsimp only
  split
  · rename_i e _
    have hLog : Respects R (log (.readFailed stream.path.text e.message e.record)) :=
      fun _ => h.logged _ trivial
    exact hLog.bind fun _ => hClose.bind fun _ => respects_pure _
  · exact hClose.bind fun _ => respects_pure _

end Stream

theorem Listing.respects_list (h : World.Allows R) (directory root : Path) :
    Respects R (list s directory root) := by
  rw [list_eq]
  split
  · exact respects_throw _
  · split
    · exact respects_throw _
    · refine respects_get.bind fun world => ?_
      split
      · rename_i e _
        have hLog : Respects R (log (.listFailed directory.text e.message e.record)) :=
          fun _ => h.logged _ trivial
        exact hLog.bind fun _ => respects_throw _
      · exact respects_pure _

namespace Access

theorem respects_target (h : World.Allows R) (request : Request) : Respects R (target s request) :=
  (ConfigRoot.respects_resolve h).bind fun root =>
    (Guard.respects_resolve h root _).bind fun _ => respects_pure _

theorem respects_perform (h : World.Allows R) (request : Request) :
    Respects R (perform s request) := by
  refine (respects_target h request).bind fun (path, root) => ?_
  dsimp only
  split
  · exact (Write.respects_file h path _).bind fun _ => respects_pure _
  · refine (respects_ask _).bind fun found => ?_
    cases found with
    | true => exact (Listing.respects_list h path root).bind fun _ => respects_pure _
    | false => exact (Stream.respects_ofPath h path).bind fun _ => respects_pure _

theorem respects_undertake (h : World.Allows R) (demand : Demand) : Respects R (undertake s demand) := by
  unfold undertake
  split
  · refine (respects_target h _).bind fun (path, _) => (respects_ask _).bind fun found => ?_
    cases found <;> exact respects_throw _
  · exact (respects_perform h _).bind fun _ => respects_ask _

end Access

/-! The events of an access -/

namespace Act

/-- The computation adds events of this kind alone. -/
def Logs {α : Type} (kind : Log.Event → Prop) (act : Act α) : Prop :=
  Respects (Adds World.events kind) act

theorem allows_adds_events : World.Allows (Adds World.events Log.Event.IsAccess) where
  unrecorded hEvents _ := adds_of_eq hEvents
  logged _ event hKind := ⟨[event], rfl, by simpa using hKind⟩
  rejected _ _ := adds_of_eq rfl
  written _ _ := adds_of_eq rfl

end Act

theorem Access.logs_call (demand : Demand) : Logs Log.Event.IsAccess (call s demand) := by
  have hCount (result : Except Failure Reply) : Logs Log.Event.IsAccess (count demand.request result) := by
    have hAdds (f : Metrics → Metrics) : Logs Log.Event.IsAccess (Act.count f) :=
      fun _ => adds_of_eq rfl
    cases result with
    | ok reply => exact hAdds _
    | error failure =>
        unfold count
        dsimp only
        split
        · exact hAdds _
        · exact respects_pure ()
  intro world
  have hAfter : Adds World.events Log.Event.IsAccess world
      (attempt (call s demand) world).2 := by
    rw [call, attempt_counted]
    exact Trans.trans (respects_undertake allows_adds_events demand world) (hCount _ _)
  exact hAfter

end ConfigGate
