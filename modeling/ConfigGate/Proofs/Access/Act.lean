import ConfigGate.Access.Handle
import ConfigGate.Proofs.Computation

/-! How an access runs. The laws here take an access apart into its steps, so that no later proof has
to open the monad. -/
namespace ConfigGate

instance decidableEqResult {α β : Type} [DecidableEq α] [DecidableEq β] : DecidableEq (Except α β)
  | .error e, .error e' => decidable_of_iff (e = e') ⟨congrArg Except.error, Except.error.inj⟩
  | .ok a, .ok a' => decidable_of_iff (a = a') ⟨congrArg Except.ok, Except.ok.inj⟩
  | .error _, .ok _ => isFalse fun h => by cases h
  | .ok _, .error _ => isFalse fun h => by cases h

namespace World

/-- Files, locks, and open streams are as they were, and so is the root. Only the records of what has
happened may have grown. -/
structure Quiet (before after : World) : Prop where
  tree : after.tree = before.tree
  root : after.root = before.root
  locks : after.locks = before.locks
  temporaries : after.temporaries = before.temporaries
  streams : after.streams = before.streams
  nextStream : after.nextStream = before.nextStream

namespace Quiet

theorem refl (world : World) : Quiet world world :=
  ⟨rfl, rfl, rfl, rfl, rfl, rfl⟩

theorem trans {before middle after : World} (h : Quiet before middle) (h' : Quiet middle after) :
    Quiet before after :=
  ⟨h'.tree.trans h.tree, h'.root.trans h.root, h'.locks.trans h.locks, h'.temporaries.trans h.temporaries,
    h'.streams.trans h.streams, h'.nextStream.trans h.nextStream⟩

instance : Std.Refl Quiet := ⟨refl⟩

instance : Trans Quiet Quiet Quiet := ⟨trans⟩

end Quiet

end World

/-- The event tells what became of an access. The others are about the request that asks for it, or about
the service. -/
def Log.Event.IsAccess : Log.Event → Prop
  | .requestStarted _ _ _ _ => False
  | .requestFinished _ _ _ _ => False
  | .pushHandled _ _ => False
  | .unhandled _ => False
  | .started _ _ _ _ => False
  | .stopped => False
  | _ => True

/-- The event tells that a search has missed the root, or the package to look for it in. -/
def Log.Event.IsMiss : Log.Event → Prop
  | .packageUnavailable _ _ => True
  | .rootUnresolved _ _ => True
  | _ => False

theorem Log.Event.IsMiss.isAccess {event : Log.Event} (h : event.IsMiss) : event.IsAccess := by
  cases event with
  | packageUnavailable _ _ => trivial
  | rootUnresolved _ _ => trivial
  | _ => exact h.elim

namespace Act

open Computation

variable {α β : Type}

@[simp] theorem attempt_pure (a : α) (world : World) : attempt (pure a) world = (.ok a, world) := rfl

@[simp] theorem attempt_throw (failure : Failure) (world : World) :
    attempt (throw failure : Act α) world = (.error failure, world) := rfl

@[simp] theorem attempt_get (world : World) : attempt get world = (.ok world, world) := rfl

@[simp] theorem attempt_set (next world : World) : attempt (set next) world = (.ok (), next) := rfl

@[simp] theorem attempt_modify (f : World → World) (world : World) :
    attempt (modify f) world = (.ok (), f world) := rfl

@[simp] theorem attempt_log (event : Log.Event) (world : World) :
    attempt (log event) world = (.ok (), world.log event) := rfl

@[simp] theorem attempt_count (f : Metrics → Metrics) (world : World) :
    attempt (count f) world = (.ok (), { world with metrics := f world.metrics }) := rfl

theorem attempt_bind (act : Act α) (next : α → Act β) (world : World) :
    attempt (act >>= next) world =
      match attempt act world with
      | (.ok a, world) => attempt (next a) world
      | (.error failure, world) => (.error failure, world) := by
  unfold attempt
  rw [run_bind]
  rcases act.run.run world with ⟨_ | _, _⟩ <;> rfl

theorem attempt_eq_of_result {act : Act α} {world : World} {result : Except Failure α}
    (h : (attempt act world).1 = result) : attempt act world = (result, (attempt act world).2) :=
  Prod.ext h rfl

theorem attempt_bind_of_ok {act : Act α} {world middle : World} {a : α}
    (h : attempt act world = (.ok a, middle)) (next : α → Act β) :
    attempt (act >>= next) world = attempt (next a) middle := by
  rw [attempt_bind, h]

theorem attempt_bind_of_error {act : Act α} {world middle : World} {failure : Failure}
    (h : attempt act world = (.error failure, middle)) (next : α → Act β) :
    attempt (act >>= next) world = (.error failure, middle) := by
  rw [attempt_bind, h]

@[simp] theorem attempt_ask (f : World → Except Failure α) (world : World) :
    attempt (ask f) world = (f world, world) := by
  unfold ask
  rw [attempt_bind, attempt_get]
  dsimp only
  cases f world <;> rfl

/-- A sequence succeeds if both of its parts do. -/
theorem attempt_bind_ok {act : Act α} {next : α → Act β} {world final : World} {b : β} :
    attempt (act >>= next) world = (.ok b, final) ↔
      ∃ a middle, attempt act world = (.ok a, middle) ∧
        attempt (next a) middle = (.ok b, final) := by
  rw [attempt_bind]
  constructor
  · intro h
    split at h
    · rename_i a middle hAct
      exact ⟨a, middle, hAct, h⟩
    · cases h
  · rintro ⟨a, middle, hAct, hNext⟩
    rw [hAct]
    exact hNext

theorem respects_ask {R : World → World → Prop} [Std.Refl R] (f : World → Except Failure α) :
    Respects R (ask f) := by
  intro world
  change R world (attempt (ask f) world).2
  rw [attempt_ask]
  exact Std.Refl.refl world

/-- The computation never changes files, locks, or streams. -/
def IsQuiet (act : Act α) : Prop := ∀ world, World.Quiet world (attempt act world).2

theorem isQuiet_log (event : Log.Event) : IsQuiet (log event) :=
  fun _ => ⟨rfl, rfl, rfl, rfl, rfl, rfl⟩

theorem isQuiet_count (f : Metrics → Metrics) : IsQuiet (count f) :=
  fun _ => ⟨rfl, rfl, rfl, rfl, rfl, rfl⟩

theorem attempt_map (f : α → β) (act : Act α) (world : World) :
    attempt (f <$> act) world = ((attempt act world).1.map f, (attempt act world).2) := by
  rw [← bind_pure_comp, attempt_bind]
  rcases attempt act world with ⟨_ | _, _⟩ <;> rfl

theorem attempt_tryCatch (act : Act α) (rescue : Failure → Act α) (world : World) :
    attempt (tryCatch act rescue) world =
      match attempt act world with
      | (.ok a, world) => (.ok a, world)
      | (.error failure, world) => attempt (rescue failure) world := by
  unfold attempt
  rw [ExceptT.run_tryCatch, StateT.run_bind]
  rcases act.run.run world with ⟨_ | _, _⟩ <;> rfl

end Act

namespace Request

@[simp] theorem demand_request (request : Request) : request.demand.request = request := by
  obtain ⟨file, _ | text⟩ := request <;> simp [demand, Demand.request]

@[simp] theorem demand_torn? (request : Request) : request.demand.torn? = none := by
  obtain ⟨file, _ | text⟩ := request <;> simp [demand, Demand.torn?]

end Request

/-- A demand whose contents a file can hold is a request. -/
theorem Demand.exists_request {demand : Demand} (h : demand.torn? = none) :
    ∃ request : Request, demand = request.demand := by
  obtain ⟨file, _ | contents⟩ := demand
  · exact ⟨⟨file, none⟩, rfl⟩
  · have hWhole : contents.text?.isSome := by
      rw [Text.Wide.isSome_text?]
      simpa [Demand.torn?] using h
    obtain ⟨text, hText⟩ := Option.isSome_iff_exists.mp hWhole
    obtain rfl := Text.Wide.text?_eq_some_iff.mp hText
    exact ⟨⟨file, some text⟩, rfl⟩

namespace Access

/-- A request is undertaken by performing it and looking at the times of its reply. -/
theorem undertake_demand (s : Setting) (request : Request) :
    undertake s request.demand = (do
      let reply ← perform s request
      Act.ask fun _ => dated reply) := by
  simp [undertake]

theorem isQuiet_count (request : Request) (result : Except Failure Reply) :
    Act.IsQuiet (count request result) := by
  cases result with
  | ok reply => exact Act.isQuiet_count _
  | error failure =>
      unfold count
      dsimp only
      split
      · exact Act.isQuiet_count _
      · exact Computation.respects_pure ()

/-- What is counted gives what it gives by itself. Counting comes after it and changes nothing else. -/
theorem attempt_counted (request : Request) (act : Act Reply) (world : World) :
    Act.attempt (counted request act) world =
      ((Act.attempt act world).1,
        (Act.attempt (count request (Act.attempt act world).1) (Act.attempt act world).2).2) := by
  unfold counted
  rw [Act.attempt_bind, Act.attempt_tryCatch, Act.attempt_map]
  rcases Act.attempt act world with ⟨failure | reply, after⟩
  · dsimp only [Except.map]
    rw [Act.attempt_pure]
    dsimp only
    rw [Act.attempt_bind]
    cases hOutcome : outcome? failure with
    | none => simp [count, hOutcome]
    | some outcome => simp [count, hOutcome]
  · dsimp only [Except.map]
    rw [Act.attempt_bind]
    rfl

/-- An answer is what the access itself gives. -/
theorem attempt_handle (s : Setting) (request : Request) (world : World) :
    Act.attempt (handle s request) world =
      ((Act.attempt (perform s request) world).1,
        (Act.attempt (count request (Act.attempt (perform s request) world).1)
          (Act.attempt (perform s request) world).2).2) :=
  attempt_counted request (perform s request) world

/-- A request from outside is performed as well, and then the times of the reply are looked at. -/
theorem attempt_call_demand (s : Setting) (request : Request) (world : World) :
    Act.attempt (call s request.demand) world =
      let result := (Act.attempt (perform s request) world).1.bind dated
      (result, (Act.attempt (count request result) (Act.attempt (perform s request) world).2).2) := by
  rw [call, Request.demand_request, attempt_counted, undertake_demand, Act.attempt_bind]
  rcases Act.attempt (perform s request) world with ⟨failure | reply, after⟩
  · rfl
  · simp [Except.bind]

/-- What has been written is told as it was given. -/
theorem reply_of_write {s : Setting} {file : Option String} {text : String} {world : World} {reply : Reply}
    (h : (Act.attempt (perform s ⟨file, some text⟩) world).1 = .ok reply) : ∃ path, reply = .written path text := by
  obtain ⟨⟨path, root⟩, middle, _, hWrite⟩ := Act.attempt_bind_ok.mp (Act.attempt_eq_of_result h)
  obtain ⟨_, _, _, hReply⟩ := Act.attempt_bind_ok.mp hWrite
  cases hReply
  exact ⟨path, rfl⟩

/-- Where something is to be written, no times are looked at. -/
theorem attempt_call_write (s : Setting) (file : Option String) (text : String) (world : World) :
    Act.attempt (call s (Request.demand ⟨file, some text⟩)) world =
      Act.attempt (handle s ⟨file, some text⟩) world := by
  rw [attempt_call_demand, attempt_handle]
  cases h : (Act.attempt (perform s ⟨file, some text⟩) world).1 with
  | error failure => rfl
  | ok reply =>
      obtain ⟨path, rfl⟩ := reply_of_write h
      rfl

/-- What is answered has been performed, and nothing but the counting has come after it. -/
theorem performed_of_handle {s : Setting} {request : Request} {world after : World}
    {result : Except Failure Reply} (h : Act.attempt (handle s request) world = (result, after)) :
    ∃ middle, Act.attempt (perform s request) world = (result, middle) ∧
      World.Quiet middle after := by
  rw [attempt_handle, Prod.mk.injEq] at h
  obtain ⟨hResult, rfl⟩ := h
  exact ⟨_, Act.attempt_eq_of_result hResult, isQuiet_count request _ _⟩

/-! A small service -/

/-- A configuration directory with a file and a link to it. -/
def linkedTree : Tree where
  entries := [
    (["conf"], .directory 0o755 .recent),
    (["conf", "real.txt"], .file 0),
    (["conf", "link.txt"], .link "real.txt")]
  files := [(0, ⟨0o644, [0x6f, 0x6c, 0x64], .recent⟩)]
  nextFile := 1

/-- A configuration directory with one file. -/
def singleTree (name : String) (data : FileData) : Tree where
  entries := [
    (["conf"], .directory 0o755 .recent),
    (["conf", name], .file 0)]
  files := [(0, data)]
  nextFile := 1

/-- A service with its configuration in one directory, seen from the root directory. -/
def plainSetting (strategy : WriteStrategy) : Setting where
  site := ⟨[], "/root", [], [], 900, by decide⟩
  service := ⟨"/conf", "", .empty, strategy⟩
  fault := none

end Access

end ConfigGate
