import ConfigGate.Proofs.Access.Lock
import ConfigGate.Proofs.Access.Sequential

/-! What one step of a client does. A call begins with its planning, as an access without others does,
and goes on from one waiting point to the next. -/
namespace ConfigGate

open Act

variable {s : Setting} {me : Nat} {request : Request} {path : Path} {key : Location} {bytes : Bytes}

namespace Call

/-- The end of a call changes nothing but the records. -/
theorem finish_eq (request : Request) (result : Except Failure Reply) (world : World) :
    ∃ after, finish request result world = (.finished result, after) ∧ World.Quiet world after :=
  ⟨_, rfl, Access.isQuiet_count request result world⟩

/-- The end of a write gives its lock back. -/
theorem conclude_eq (s : Setting) (me : Nat) (request : Request) (path : Path) (key : Location)
    (bytes : Bytes) (result : Except SystemError Unit) (world : World) :
    ∃ after, conclude s me request path key bytes result world =
        (.finished ((result.mapError fun _ => .internal).map
          fun _ => .written path (request.contents.getD "")), after) ∧
      World.Quiet { world with locks := world.locks.release key me } after := by
  obtain ⟨hResult, hQuiet⟩ := Write.attempt_conclude s path key me bytes result world
  unfold conclude
  rcases hConclude : attempt (Write.conclude s path key me bytes result) world with
    ⟨failure | done, middle⟩
  · rw [hConclude] at hResult hQuiet
    obtain ⟨after, hFinish, hEnd⟩ := finish_eq request (.error failure) middle
    refine ⟨after, ?_, hQuiet.trans hEnd⟩
    rw [← hResult]
    exact hFinish
  · rw [hConclude] at hResult hQuiet
    obtain ⟨after, hFinish, hEnd⟩ :=
      finish_eq request (.ok (.written path (request.contents.getD ""))) middle
    refine ⟨after, ?_, hQuiet.trans hEnd⟩
    rw [← hResult]
    exact hFinish

/-- A call begins with its planning. -/
theorem step_ready (s : Setting) (me : Nat) (request : Request) (world : World) :
    (Call.ready request).step s me world =
      match attempt (Access.planned s request) world with
      | (.error failure, after) => finish request (.error failure) after
      | (.ok (.write path key text), after) =>
        enter s me request path key (Text.Utf8.encode text)
          { after with locks := after.locks.request key me }
      | (.ok (.list path root), after) =>
        finish request ((attempt (Listing.list s path root) after).1.map (.listed path))
          (attempt (Listing.list s path root) after).2
      | (.ok (.read path), after) => (.opening request path, after) := by
  unfold step Access.planned
  dsimp only
  rw [attempt_bind]
  rcases hTarget : attempt (Access.target s request) world with ⟨failure | ⟨path, root⟩, middle⟩
  · rfl
  · dsimp only
    rw [Access.attempt_choose]
    unfold Access.chosen
    cases request.contents with
    | some text =>
        dsimp only
        rw [Write.attempt_prepare]
        cases Write.prepared s path middle.tree <;> rfl
    | none =>
        dsimp only
        rw [attempt_ask]
        rcases s.isDirectory path middle.tree with failure | (_ | _)
        · rfl
        · rfl
        · simp only [Except.map, if_true]
          rcases attempt (Listing.list s path root) middle with ⟨_ | _, _⟩ <;> rfl

/-- A write begins once its caller holds the lock. -/
theorem enter_eq {base : Tree} (hBase : IsOrdinary s base) (me : Nat) (request : Request)
    (path : Path) (key : Location) (bytes : Bytes) (world : World) :
    enter s me request path key bytes world =
      if world.locks.holder? key = some me then
        match WriteStage.createTemporary s.site.working path WriteStage.temporaryNames
          world.temporaries world.tree with
        | .error e => conclude s me request path key bytes (.error e) world
        | .ok (temporary, temporaries, tree) =>
          (.writing request path key bytes (.openPrivate temporary), { world with tree, temporaries })
      else (.waiting request path key bytes, world) := by
  unfold enter
  rw [hBase.strategy, WriteStage.run_create hBase]
  split
  · cases WriteStage.createTemporary s.site.working path WriteStage.temporaryNames
      world.temporaries world.tree <;> rfl
  · rfl

end Call

namespace Client

/-- A call that has opened its file returns with a stream. -/
theorem step_opened (s : Setting) (me : Nat) (request : Request) (path : Path) (file : Nat)
    (world : World) :
    ∃ id after, (Client.calling (.opened request path (.ok file))).step s me world =
        (.receiving ⟨path, id, file⟩ [], after) ∧
      after.tree = world.tree ∧ after.locks = world.locks ∧ after.root = world.root := by
  exact ⟨_, _, rfl, rfl, rfl, rfl⟩

/-- Every step of a stream gives the next bytes of the file. -/
theorem receive_eq (hFault : ∀ n, s.faultAt? (.read n) = none) {stream : Stream}
    {found : List Bytes} {world : World} {data : FileData}
    (hData : world.tree.data? stream.file = some data) :
    (data.bytes.drop found.flatten.length = [] ∧
        ∃ after, receive s stream found world =
            (.served (.received stream.path ⟨found.reverse, none⟩), after) ∧
          after.tree = world.tree ∧ after.locks = world.locks ∧ after.root = world.root) ∨
      data.bytes.drop found.flatten.length ≠ [] ∧
        receive s stream found world = (.receiving stream
          ((data.bytes.drop found.flatten.length).take Stream.chunkSize :: found), world) := by
  have hChunk : stream.chunkAfter s found world.tree =
      .ok ((data.bytes.drop found.flatten.length).take Stream.chunkSize) := by
    simp [Stream.chunkAfter, hFault, hData]
  unfold receive
  rw [hChunk]
  cases hRest : (data.bytes.drop found.flatten.length).take Stream.chunkSize with
  | nil =>
      left
      refine ⟨?_, _, rfl, rfl, rfl, rfl⟩
      rcases List.take_eq_nil_iff.mp hRest with hZero | hEmpty
      · exact absurd hZero (Nat.ne_of_gt Stream.chunkSize_pos)
      · exact hEmpty
  | cons byte rest =>
      right
      refine ⟨?_, rfl⟩
      intro hEmpty
      rw [hEmpty] at hRest
      cases hRest

end Client

end ConfigGate
