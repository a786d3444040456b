import ConfigGate.Proofs.Access.InPlace
import Mathlib.Algebra.GroupWithZero.Nat
import Mathlib.Data.List.Nodup

/-! Writes in place to one file come one after the other. Each of them asks for the lock of the file,
and the queue of the lock is that of the writes which have asked for it and are not over. The first one
in the queue is the only one that has opened the file, so that the file holds what the write before it
has left, nothing while it is being filled, and then the whole new contents. -/
namespace ConfigGate

open Act Tree

variable {s : Setting} {base : Tree} {requests : List Request} {request : Request} {path : Path}
  {key location : Location} {text : String} {i : Nat} {call : Call} {pool : Pool}
  {arrived : List (Location × Nat)}

/-- The lock that a call has asked for between two moments. -/
def Call.asked? (before after : Call) : Option Location :=
  if before.key?.isNone then after.key? else none

namespace Pool

/-- Let the calls go on in the order of a schedule. -/
def run (s : Setting) (pool : Pool) (schedule : List Nat) : Pool :=
  schedule.foldl (step s) pool

/-- The lock that a call asks for in its next step, with the call. -/
def arrival? (s : Setting) (pool : Pool) (i : Nat) : Option (Location × Nat) :=
  (pool.calls[i]?).bind fun call =>
    (call.asked? (call.step s i pool.world).1).map (·, i)

/-- The calls in the order in which they reach their locks. -/
def arrivals (s : Setting) : Pool → List Nat → List (Location × Nat)
  | _, [] => []
  | pool, i :: rest => (pool.arrival? s i).toList ++ arrivals s (pool.step s i) rest

/-- What the holder of a lock has made of the bytes of its file. -/
def shownAt (pool : Pool) (key : Location) (old : Bytes) : Bytes :=
  match (pool.world.locks.holder? key).bind (pool.calls[·]?) with
  | some call => call.shown old
  | none => old

theorem step_eq (h : pool.calls[i]? = some call) :
    pool.step s i = ⟨pool.calls.set i (call.step s i pool.world).1,
      (call.step s i pool.world).2⟩ := by
  unfold step
  rw [h]

theorem step_of {next : Call} {after : World} (h : pool.calls[i]? = some call)
    (hStep : call.step s i pool.world = (next, after)) :
    pool.step s i = ⟨pool.calls.set i next, after⟩ := by
  rw [step_eq h, hStep]

theorem shownAt_of_holder (hHolder : pool.world.locks.holder? key = some i)
    (hCall : pool.calls[i]? = some call) (old : Bytes) : pool.shownAt key old = call.shown old := by
  rw [shownAt, hHolder, Option.bind_some, hCall]

theorem shownAt_of_free (hHolder : pool.world.locks.holder? key = none) (old : Bytes) :
    pool.shownAt key old = old := by
  rw [shownAt, hHolder]
  rfl

theorem shownAt_set_self {next : Call} {after : World}
    (hHolder : after.locks.holder? key = some i) (hLt : i < pool.calls.length) (old : Bytes) :
    Pool.shownAt ⟨pool.calls.set i next, after⟩ key old = next.shown old := by
  rw [shownAt, hHolder, Option.bind_some, List.getElem?_set_self hLt]

/-- A step of a call makes no difference to locks that others hold. -/
theorem shownAt_set {next : Call} {after : World}
    (hSame : after.locks.holder? key = pool.world.locks.holder? key)
    (hOther : pool.world.locks.holder? key ≠ some i) (old : Bytes) :
    Pool.shownAt ⟨pool.calls.set i next, after⟩ key old = pool.shownAt key old := by
  unfold shownAt
  dsimp only
  rw [hSame]
  cases hHolder : pool.world.locks.holder? key with
  | none => rfl
  | some j =>
      have hNe : i ≠ j := by
        rintro rfl
        exact hOther hHolder
      rw [Option.bind_some, Option.bind_some, List.getElem?_set_ne hNe]

end Pool

/-- The calls that have asked for a lock, in their order. -/
def arrivedAt (arrived : List (Location × Nat)) (key : Location) : List Nat :=
  (arrived.filter (·.1 = key)).map Prod.snd

/-- What a file holds after writes to it. The last one counts, if the file may be written to. -/
def bytesAfter (base : Tree) (requests : List Request) (location : Location) (done : List Nat) :
    Bytes :=
  match done.getLast?.bind (requests[·]?) with
  | some request =>
    if base.isWritableAt location then Text.Utf8.encode (request.contents.getD "")
    else base.bytesAt location
  | none => base.bytesAt location

theorem arrivedAt_concat (arrived : List (Location × Nat)) (key other : Location) (i : Nat) :
    arrivedAt (arrived ++ [(key, i)]) other =
      if other = key then arrivedAt arrived key ++ [i] else arrivedAt arrived other := by
  unfold arrivedAt
  rw [List.filter_append, List.map_append]
  by_cases h : other = key
  · rw [if_pos h, h]
    simp
  · rw [if_neg h]
    simp [Ne.symm h]

theorem bytesAfter_concat (hRequest : requests[i]? = some request)
    (hContents : request.contents = some text) (done : List Nat) :
    bytesAfter base requests location (done ++ [i]) =
      if base.isWritableAt location then Text.Utf8.encode text else base.bytesAt location := by
  simp [bytesAfter, hRequest, hContents]

theorem bytesAfter_of_not_writable (h : base.isWritableAt location = false) (done : List Nat) :
    bytesAfter base requests location done = base.bytesAt location := by
  unfold bytesAfter
  split
  · rw [h, if_neg Bool.false_ne_true]
  · rfl

/-- How a call stands to its lock. -/
inductive InLine (s : Setting) (base : Tree) (requests : List Request) (locks : LockTable)
    (arrived : List (Location × Nat)) (i : Nat) : Call → Prop where
  | ready {request : Request} (hRequest : requests[i]? = some request)
      (hNew : i ∉ arrived.map Prod.snd) : InLine s base requests locks arrived i (.ready request)
  | waiting {request : Request} {path : Path} {key : Location} {text : String}
      (hRequest : requests[i]? = some request)
      (hPlan : Access.plan s request base = .ok (.write path key text))
      (hWaits : i ∈ locks.callers key) :
      InLine s base requests locks arrived i (.waiting request path key (Text.Utf8.encode text))
  | opening {request : Request} {path : Path} {key : Location} {text : String}
      (hRequest : requests[i]? = some request)
      (hPlan : Access.plan s request base = .ok (.write path key text))
      (hHolds : locks.holder? key = some i) :
      InLine s base requests locks arrived i
        (.writing request path key (Text.Utf8.encode text) .openTarget)
  | filling {request : Request} {path : Path} {key : Location} {text : String} {number : Nat}
      (hRequest : requests[i]? = some request)
      (hPlan : Access.plan s request base = .ok (.write path key text))
      (hHolds : locks.holder? key = some i) (hFile : base.fileAt? key = some number)
      (hMay : base.isWritableAt key) :
      InLine s base requests locks arrived i
        (.writing request path key (Text.Utf8.encode text) (.fillTarget number))
  | settled {request : Request} {path : Path} {key : Location} {text : String}
      {file : Option Nat} {result : Except SystemError Unit} (hRequest : requests[i]? = some request)
      (hPlan : Access.plan s request base = .ok (.write path key text))
      (hHolds : locks.holder? key = some i)
      (hFile : ∀ number, file = some number → base.fileAt? key = some number)
      (hResult : result.toBool = base.isWritableAt key) :
      InLine s base requests locks arrived i
        (.settled request path key (Text.Utf8.encode text) file result)
  | finished {result : Except Failure Reply} :
      InLine s base requests locks arrived i (.finished result)

/-- A call stands as it stood when others ask for locks or give them back. -/
theorem InLine.mono {locks locks' : LockTable} {arrived' : List (Location × Nat)}
    (h : InLine s base requests locks arrived i call)
    (hCallers : ∀ key, i ∈ locks.callers key → i ∈ locks'.callers key)
    (hHolder : ∀ key, locks.holder? key = some i → locks'.holder? key = some i)
    (hNew : i ∉ arrived.map Prod.snd → i ∉ arrived'.map Prod.snd) :
    InLine s base requests locks' arrived' i call := by
  cases h with
  | ready hRequest hNotYet => exact .ready hRequest (hNew hNotYet)
  | waiting hRequest hPlan hWaits => exact .waiting hRequest hPlan (hCallers _ hWaits)
  | opening hRequest hPlan hHolds => exact .opening hRequest hPlan (hHolder _ hHolds)
  | filling hRequest hPlan hHolds hFile hMay =>
      exact .filling hRequest hPlan (hHolder _ hHolds) hFile hMay
  | settled hRequest hPlan hHolds hFile hResult =>
      exact .settled hRequest hPlan (hHolder _ hHolds) hFile hResult
  | finished => exact .finished

theorem LockTable.mem_callers_of_holder? {locks : LockTable} (h : locks.holder? key = some i) :
    i ∈ locks.callers key :=
  List.mem_of_mem_head? h

/-- A call with a key holds the lock with this key or waits for it. -/
theorem InLine.mem_callers {locks : LockTable} (h : InLine s base requests locks arrived i call)
    (hKey : call.key? = some key) : i ∈ locks.callers key := by
  cases h with
  | ready => cases hKey
  | finished => cases hKey
  | waiting _ _ hWaits => cases hKey; exact hWaits
  | opening _ _ hHolds => cases hKey; exact LockTable.mem_callers_of_holder? hHolds
  | filling _ _ hHolds => cases hKey; exact LockTable.mem_callers_of_holder? hHolds
  | settled _ _ hHolds => cases hKey; exact LockTable.mem_callers_of_holder? hHolds

/-- The key of a call is the canonical location of its target. -/
theorem InLine.exists_target {locks : LockTable} (hBase : IsInPlace s base requests)
    (h : InLine s base requests locks arrived i call) (hKey : call.key? = some key) :
    ∃ path, call.target? = some path ∧ s.canonical path base = .ok key := by
  have of_plan {request : Request} {path : Path} {text : String}
      (hRequest : requests[i]? = some request)
      (hPlan : Access.plan s request base = .ok (.write path key text)) :
      s.canonical path base = .ok key := (hBase.locksFile hRequest hPlan).1.canonical
  cases h with
  | ready => cases hKey
  | finished => cases hKey
  | waiting hRequest hPlan => cases hKey; exact ⟨_, rfl, of_plan hRequest hPlan⟩
  | opening hRequest hPlan => cases hKey; exact ⟨_, rfl, of_plan hRequest hPlan⟩
  | filling hRequest hPlan => cases hKey; exact ⟨_, rfl, of_plan hRequest hPlan⟩
  | settled hRequest hPlan => cases hKey; exact ⟨_, rfl, of_plan hRequest hPlan⟩

/-- A call that waits for its lock has not touched its file. -/
theorem InLine.shown_of_not_holder {locks : LockTable}
    (h : InLine s base requests locks arrived i call) (hKey : call.key? = some key)
    (hHolder : locks.holder? key ≠ some i) (old : Bytes) : call.shown old = old := by
  cases h with
  | ready => rfl
  | finished => rfl
  | waiting => rfl
  | opening => rfl
  | filling _ _ hHolds => cases hKey; exact absurd hHolds hHolder
  | settled _ _ hHolds => cases hKey; exact absurd hHolds hHolder

/-- The call begins if it holds its lock, and else goes on waiting. -/
theorem InLine.entered {locks : LockTable} (hRequest : requests[i]? = some request)
    (hPlan : Access.plan s request base = .ok (.write path key text)) (hWaits : i ∈ locks.callers key) :
    InLine s base requests locks arrived i
      (Call.entered request path key (Text.Utf8.encode text) (locks.holder? key = some i)) := by
  by_cases hHolder : locks.holder? key = some i
  · simpa [Call.entered, hHolder] using InLine.opening hRequest hPlan hHolder
  · simpa [Call.entered, hHolder] using InLine.waiting hRequest hPlan hWaits

/-- What a settled write has left: the contents, if the file may be written to. -/
theorem Call.shown_settled {result : Except SystemError Unit}
    (hResult : result.toBool = base.isWritableAt key) (file : Option Nat) (done : List Nat) :
    (Call.settled request path key (Text.Utf8.encode text) file result).shown
        (bytesAfter base requests key done) =
      if base.isWritableAt key then Text.Utf8.encode text else base.bytesAt key := by
  cases result with
  | ok _ =>
      have hMay : base.isWritableAt key = true := hResult.symm
      rw [if_pos hMay]
      rfl
  | error e =>
      have hMay : base.isWritableAt key = false := hResult.symm
      rw [if_neg (by simp [hMay])]
      exact bytesAfter_of_not_writable hMay done

/-- The writes under way stand in line at their locks. -/
structure Serial (s : Setting) (base : Tree) (requests : List Request) (pool : Pool)
    (arrived : List (Location × Nat)) : Prop where
  length : pool.calls.length = requests.length
  kept : ConfigRoot.IsKept s base pool.world
  refills : base.Refills pool.world.tree
  tidy : pool.world.locks.IsTidy
  once : (arrived.map Prod.snd).Nodup
  line : ∀ (i : Nat) (call : Call), pool.calls[i]? = some call →
    InLine s base requests pool.world.locks arrived i call
  own : ∀ (key : Location) (i : Nat), i ∈ pool.world.locks.callers key →
    ∃ call, pool.calls[i]? = some call ∧ call.key? = some key
  /-- Of the calls that have asked for a lock those in its queue are the last ones. The file holds what
  the others have left, or what the holder has made of it. -/
  queue : ∀ key, ∃ done, arrivedAt arrived key = done ++ pool.world.locks.callers key ∧
    pool.world.tree.bytesAt key = pool.shownAt key (bytesAfter base requests key done)

namespace Serial

variable {next : Call} {after : World}

theorem start (s : Setting) (base : Tree) (requests : List Request) :
    Serial s base requests (Pool.ofRequests requests (World.initial base)) [] where
  length := List.length_map _
  kept := rfl
  refills := .refl base
  tidy := .empty
  once := List.nodup_nil
  line i call hCall := by
    rw [Pool.ofRequests, List.getElem?_map, Option.map_eq_some_iff] at hCall
    obtain ⟨request, hRequest, rfl⟩ := hCall
    exact .ready hRequest (by simp)
  own key i hMem := by cases hMem
  queue key := ⟨[], rfl, rfl⟩

theorem nodup_callers (h : Serial s base requests pool arrived) (key : Location) :
    (pool.world.locks.callers key).Nodup := by
  obtain ⟨done, hQueue, _⟩ := h.queue key
  have hArrived : (arrivedAt arrived key).Nodup :=
    h.once.sublist (List.filter_sublist.map Prod.snd)
  rw [hQueue] at hArrived
  exact (List.nodup_append.mp hArrived).2.1

theorem not_mem_callers (h : Serial s base requests pool arrived) (hCall : pool.calls[i]? = some call)
    (hKey : call.key? ≠ some key) : i ∉ pool.world.locks.callers key := by
  intro hMem
  obtain ⟨other, hOther, hSame⟩ := h.own key i hMem
  cases hCall.symm.trans hOther
  exact hKey hSame

/-- A call that stands in the queue behind the holder has not touched the file. -/
theorem shown_of_behind (h : Serial s base requests pool arrived) {j : Nat}
    (hHolds : pool.world.locks.holder? key = some i)
    (hMem : j ∈ pool.world.locks.callers key) (hNe : i ≠ j) (next : Call) (old : Bytes) :
    ∃ other, (pool.calls.set i next)[j]? = some other ∧ other.shown old = old := by
  obtain ⟨other, hThere, hKey⟩ := h.own key j hMem
  have hWaits : pool.world.locks.holder? key ≠ some j := by
    rw [hHolds]
    exact fun hSame => hNe (Option.some.inj hSame)
  exact ⟨other, by rw [List.getElem?_set_ne hNe, hThere],
    (h.line j other hThere).shown_of_not_holder hKey hWaits old⟩

section

variable (h : Serial s base requests pool arrived) (hCall : pool.calls[i]? = some call)

include h hCall

/-- Every call stands in line if the one that takes a step does, and the others still do. -/
theorem line_set {locks : LockTable} {arrived' : List (Location × Nat)}
    (hMine : InLine s base requests locks arrived' i next)
    (hOthers : ∀ (j : Nat) (other : Call), i ≠ j →
      InLine s base requests pool.world.locks arrived j other →
      InLine s base requests locks arrived' j other)
    (j : Nat) (other : Call) (hThere : (pool.calls.set i next)[j]? = some other) :
    InLine s base requests locks arrived' j other := by
  by_cases hNe : i = j
  · subst hNe
    rw [List.getElem?_set_self (List.getElem?_eq_some_iff.mp hCall).1] at hThere
    cases hThere
    exact hMine
  · rw [List.getElem?_set_ne hNe] at hThere
    exact hOthers j other hNe (h.line j other hThere)

/-- Every caller has its key if the one that takes a step has, and no other is new. -/
theorem own_set {locks : LockTable}
    (hMine : ∀ key, i ∈ locks.callers key → next.key? = some key)
    (hOthers : ∀ key j, i ≠ j → j ∈ locks.callers key → j ∈ pool.world.locks.callers key)
    (key : Location) (j : Nat) (hMem : j ∈ locks.callers key) :
    ∃ other, (pool.calls.set i next)[j]? = some other ∧ other.key? = some key := by
  by_cases hNe : i = j
  · subst hNe
    exact ⟨next, List.getElem?_set_self (List.getElem?_eq_some_iff.mp hCall).1, hMine key hMem⟩
  · obtain ⟨other, hThere, hSame⟩ := h.own key j (hOthers key j hNe hMem)
    exact ⟨other, by rw [List.getElem?_set_ne hNe, hThere], hSame⟩

/-- A step that leaves the locks alone. Only the holder of a lock changes its file. -/
theorem of_same_locks (hLocks : after.locks = pool.world.locks)
    (hKept : ConfigRoot.IsKept s base after) (hRefills : base.Refills after.tree)
    (hMine : InLine s base requests pool.world.locks arrived i next) (hKey : next.key? = call.key?)
    (hOther : ∀ key, pool.world.locks.holder? key ≠ some i →
      after.tree.bytesAt key = pool.world.tree.bytesAt key)
    (hOwn : ∀ key old, pool.world.locks.holder? key = some i →
      pool.world.tree.bytesAt key = call.shown old → after.tree.bytesAt key = next.shown old) :
    Serial s base requests ⟨pool.calls.set i next, after⟩ arrived where
  length := by rw [List.length_set, h.length]
  kept := hKept
  refills := hRefills
  tidy := hLocks ▸ h.tidy
  once := h.once
  line := hLocks ▸ h.line_set hCall hMine fun _ _ _ hLine => hLine
  own := by
    refine hLocks ▸ h.own_set hCall (fun key hMem => ?_) fun _ _ _ hMem => hMem
    obtain ⟨other, hThere, hSame⟩ := h.own key i hMem
    cases hCall.symm.trans hThere
    exact hKey.trans hSame
  queue key := by
    obtain ⟨done, hQueue, hBytes⟩ := h.queue key
    refine ⟨done, by rw [hLocks, hQueue], ?_⟩
    by_cases hHolder : pool.world.locks.holder? key = some i
    · rw [Pool.shownAt_of_holder hHolder hCall] at hBytes
      rw [Pool.shownAt_set_self (by rw [hLocks, hHolder]) (List.getElem?_eq_some_iff.mp hCall).1]
      exact hOwn key _ hHolder hBytes
    · rw [Pool.shownAt_set (by rw [hLocks]) hHolder, hOther key hHolder]
      exact hBytes

/-- A call comes to the end of the queue for its lock. -/
theorem of_asked (hReady : call = .ready request) (hRequest : requests[i]? = some request)
    (hNew : i ∉ arrived.map Prod.snd)
    (hPlan : Access.plan s request base = .ok (.write path key text))
    (hTree : after.tree = pool.world.tree) (hLocks : after.locks = pool.world.locks.request key i)
    (hKept : ConfigRoot.IsKept s base after) :
    Serial s base requests
      ⟨pool.calls.set i
        (Call.entered request path key (Text.Utf8.encode text) (after.locks.holder? key = some i)), after⟩
      (arrived ++ [(key, i)]) := by
  have hLength := (List.getElem?_eq_some_iff.mp hCall).1
  have hNone (other : Location) : i ∉ pool.world.locks.callers other :=
    h.not_mem_callers hCall (by simp [hReady, Call.key?])
  have hCallers (other : Location) (j : Nat) : j ∈ after.locks.callers other ↔
      j ∈ pool.world.locks.callers other ∨ other = key ∧ j = i := by
    rw [hLocks, LockTable.mem_callers_request]
  refine ⟨by rw [List.length_set, h.length], hKept, hTree ▸ h.refills, ?_, ?_, ?_, ?_, ?_⟩
  · rw [hLocks]
    exact h.tidy.request key i
  · rw [List.map_append, List.map_singleton, ← List.concat_eq_append, List.nodup_concat]
    exact ⟨hNew, h.once⟩
  · refine h.line_set hCall (InLine.entered hRequest hPlan ((hCallers key i).mpr (.inr ⟨rfl, rfl⟩)))
      fun j other hNe hLine => hLine.mono (fun key hMem => (hCallers key j).mpr (.inl hMem)) ?_ ?_
    · intro key hHolder
      rw [hLocks]
      exact LockTable.holder?_request hHolder
    · simp [Ne.symm hNe]
  · refine h.own_set hCall (fun other hMem => ?_) fun other j hNe hMem => ?_
    · rcases (hCallers other i).mp hMem with hOld | ⟨rfl, _⟩
      · exact absurd hOld (hNone other)
      · exact Call.key?_entered _
    · rcases (hCallers other j).mp hMem with hOld | ⟨_, hSame⟩
      · exact hOld
      · exact absurd hSame.symm hNe
  · intro other
    obtain ⟨done, hQueue, hBytes⟩ := h.queue other
    have hFree : pool.world.locks.holder? other ≠ some i :=
      fun hHolder => hNone other (LockTable.mem_callers_of_holder? hHolder)
    refine ⟨done, ?_, ?_⟩
    · rw [arrivedAt_concat, hLocks, LockTable.callers_request]
      split
      · rename_i hSame
        rw [← hSame, hQueue, List.append_assoc]
      · exact hQueue
    · rw [hTree, hBytes]
      cases hHolder : pool.world.locks.holder? other with
      | some j => rw [Pool.shownAt_set (by rw [hLocks, LockTable.holder?_request hHolder, hHolder]) hFree]
      | none =>
          have hNow : (pool.world.locks.request key i).holder? other =
              if other = key then some i else none := LockTable.holder?_request_of_free hHolder
          rw [Pool.shownAt_of_free hHolder]
          by_cases hSame : other = key
          · rw [if_pos hSame, ← hLocks] at hNow
            rw [Pool.shownAt_set_self hNow hLength, Call.shown_entered]
          · rw [if_neg hSame, ← hLocks] at hNow
            exact (Pool.shownAt_of_free hNow _).symm

/-- A call gives its lock back. The next one in the queue has not touched the file. -/
theorem of_left {file : Option Nat} {result : Except SystemError Unit} {reply : Except Failure Reply}
    (hSettled : call = .settled request path key (Text.Utf8.encode text) file result)
    (hRequest : requests[i]? = some request) (hContents : request.contents = some text)
    (hHolds : pool.world.locks.holder? key = some i)
    (hResult : result.toBool = base.isWritableAt key) (hTree : after.tree = pool.world.tree)
    (hLocks : after.locks = pool.world.locks.release key i) (hKept : ConfigRoot.IsKept s base after) :
    Serial s base requests ⟨pool.calls.set i (.finished reply), after⟩ arrived := by
  obtain ⟨rest, hCallers⟩ := List.head?_eq_some_iff.mp hHolds
  have hNow (other : Location) : after.locks.callers other =
      if other = key then rest else pool.world.locks.callers other := by
    rw [hLocks, LockTable.callers_release, hCallers, List.erase_cons_head]
  have hElsewhere {other : Location} (hOther : other ≠ key) :
      i ∉ pool.world.locks.callers other :=
    h.not_mem_callers hCall (by simpa [hSettled, Call.key?] using Ne.symm hOther)
  have hGone (other : Location) : i ∉ after.locks.callers other := by
    have hNodup := h.nodup_callers key
    rw [hCallers] at hNodup
    rw [hNow]
    split
    · exact (List.nodup_cons.mp hNodup).1
    · exact hElsewhere ‹_›
  have hOld (other : Location) (j : Nat) (hNe : i ≠ j) :
      j ∈ after.locks.callers other ↔ j ∈ pool.world.locks.callers other := by
    rw [hLocks]
    exact LockTable.mem_callers_release (Ne.symm hNe)
  refine ⟨by rw [List.length_set, h.length], hKept, hTree ▸ h.refills, ?_, h.once, ?_, ?_, ?_⟩
  · rw [hLocks]
    exact h.tidy.release key i
  · refine h.line_set hCall .finished fun j other hNe hLine =>
      hLine.mono (fun key hMem => (hOld key j hNe).mpr hMem) ?_ id
    intro key hHolder
    rw [hLocks]
    exact LockTable.holder?_release hHolder (Ne.symm hNe)
  · exact h.own_set hCall (fun other hMem => absurd hMem (hGone other))
      fun other j hNe hMem => (hOld other j hNe).mp hMem
  · intro other
    obtain ⟨done, hQueue, hBytes⟩ := h.queue other
    by_cases hSame : other = key
    · subst hSame
      -- The call joins those that are done. What the next holder shows is what this one has left.
      refine ⟨done ++ [i], by rw [hQueue, hNow, if_pos rfl, hCallers, List.append_assoc]; rfl, ?_⟩
      rw [Pool.shownAt_of_holder hHolds hCall, hSettled, Call.shown_settled hResult] at hBytes
      rw [hTree, hBytes, bytesAfter_concat hRequest hContents]
      cases hHolder : after.locks.holder? other with
      | none => exact (Pool.shownAt_of_free hHolder _).symm
      | some j =>
          have hMem := LockTable.mem_callers_of_holder? hHolder
          have hNe : i ≠ j := fun hIs => hGone other (hIs ▸ hMem)
          obtain ⟨found, hThere, hShown⟩ :=
            h.shown_of_behind hHolds ((hOld other j hNe).mp hMem) hNe (.finished reply) _
          exact ((Pool.shownAt_of_holder hHolder hThere _).trans hShown).symm
    · refine ⟨done, by rw [hQueue, hNow, if_neg hSame], ?_⟩
      rw [hTree, hBytes, Pool.shownAt_set ?_ ?_]
      · rw [LockTable.holder?, LockTable.holder?, hNow, if_neg hSame]
      · exact fun hHolder => hElsewhere hSame (LockTable.mem_callers_of_holder? hHolder)

end

theorem eq_of_holder? (h : Serial s base requests pool arrived) (hCall : pool.calls[i]? = some call)
    (hKey : call.key? = some key) (hHolder : pool.world.locks.holder? location = some i) :
    location = key := by
  obtain ⟨other, hOther, hSame⟩ := h.own location i (LockTable.mem_callers_of_holder? hHolder)
  cases hCall.symm.trans hOther
  exact Option.some.inj (hSame.symm.trans hKey)

/-- The holder of a lock changes the bytes of its file. -/
theorem of_change (hBase : IsInPlace s base requests) (h : Serial s base requests pool arrived)
    (hCall : pool.calls[i]? = some call) (hKey : call.key? = some key)
    (hHolds : pool.world.locks.holder? key = some i) {number : Nat} {data : FileData}
    (hFile : base.fileAt? key = some number) (hData : pool.world.tree.data? number = some data)
    (hMine : InLine s base requests pool.world.locks arrived i next) (hNext : next.key? = call.key?)
    (bytes : FileData → Bytes)
    (hBytes : ∀ old, data.bytes = call.shown old → bytes data = next.shown old) :
    Serial s base requests ⟨pool.calls.set i next, { pool.world with
      tree := pool.world.tree.change number fun data => data.rewritten (bytes data) }⟩ arrived := by
  have hThere : pool.world.tree.fileAt? key = some number := (h.refills.fileAt? key).trans hFile
  have hRefills := h.refills.change number bytes
  refine h.of_same_locks hCall rfl (h.kept.of_found rfl (Access.found_of_refills hRefills)) (h.refills.change number bytes) hMine hNext ?_ ?_
  · intro other hOther
    refine bytesAt_change_of_ne (h.refills.isUnshared hBase.unshared) hThere ?_ _
    rintro rfl
    exact hOther hHolds
  · intro other old hHolder hBefore
    obtain rfl := h.eq_of_holder? hCall hKey hHolder
    rw [bytesAt_of_file hThere hData] at hBefore
    exact (bytesAt_change hThere hData _).trans (hBytes old hBefore)

/-- What one step keeps. -/
theorem of_moves (hBase : IsInPlace s base requests) (h : Serial s base requests pool arrived)
    (hCall : pool.calls[i]? = some call) (hMoves : Call.Moves s base i pool.world call next after) :
    Serial s base requests ⟨pool.calls.set i next, after⟩
      (arrived ++ ((call.asked? next).map (·, i)).toList) := by
  have of_none (h : Serial s base requests ⟨pool.calls.set i next, after⟩ arrived)
      (hNone : call.asked? next = none) : Serial s base requests ⟨pool.calls.set i next, after⟩
        (arrived ++ ((call.asked? next).map (·, i)).toList) := by
    rw [hNone]
    simpa using h
  have hLine := h.line i call hCall
  cases hMoves with
  | turnedDown hTree hLocks hKept =>
      refine of_none (h.of_same_locks hCall hLocks hKept (hTree ▸ h.refills) .finished rfl ?_ ?_) rfl
      · exact fun key _ => by rw [hTree]
      · intro key old _ hBytes
        rw [hTree, hBytes]
        rfl
  | @asked request path key text _ hPlan hTree hLocks hKept =>
      cases hLine with
      | ready hRequest hNew =>
          have hAsked (holds : Bool) : Call.asked? (.ready request)
              (Call.entered request path key (Text.Utf8.encode text) holds) = some key :=
            Call.key?_entered holds
          rw [hAsked]
          exact h.of_asked hCall rfl hRequest hNew hPlan hTree hLocks hKept
  | called =>
      cases hLine with
      | waiting hRequest hPlan hWaits =>
          refine of_none (h.of_same_locks hCall rfl h.kept h.refills
            (InLine.entered hRequest hPlan hWaits) (Call.key?_entered _) (fun _ _ => rfl) ?_) rfl
          intro key old _ hBytes
          rw [hBytes, Call.shown_entered]
          rfl
  | opened hFile hData hMay =>
      cases hLine with
      | opening hRequest hPlan hHolds =>
          exact of_none (h.of_change hBase hCall rfl hHolds hFile hData
            (.filling hRequest hPlan hHolds hFile hMay) rfl (fun _ => []) fun _ _ => rfl) rfl
  | refused hMay =>
      cases hLine with
      | opening hRequest hPlan hHolds =>
          exact of_none (h.of_same_locks hCall rfl h.kept h.refills
            (.settled hRequest hPlan hHolds (fun _ h => nomatch h) hMay.symm) rfl (fun _ _ => rfl)
            fun _ _ _ hBytes => hBytes) rfl
  | filled =>
      cases hLine with
      | @filling _ _ _ text number hRequest hPlan hHolds hFile hMay =>
          obtain ⟨hLocks, _⟩ := hBase.locksFile hRequest hPlan
          obtain ⟨found, data, hFound, hData⟩ := hLocks.file
          cases hFile.symm.trans hFound
          obtain ⟨now, hNow, _⟩ := h.refills.data? hData
          have hResult : (Except.ok () : Except SystemError Unit).toBool = _ := hMay.symm
          refine of_none (h.of_change hBase hCall rfl hHolds hFile hNow
            (.settled hRequest hPlan hHolds (fun _ hOpen => hOpen ▸ hFile) hResult) rfl
            (fun data => Text.Utf8.encode text ++ data.bytes.drop (Text.Utf8.encode text).length)
            fun old hEmpty => ?_) rfl
          rw [show now.bytes = [] from hEmpty, List.drop_nil, List.append_nil]
          rfl
  | left hTree hLocks hRoot =>
      cases hLine with
      | settled hRequest hPlan hHolds _ hResult =>
          exact of_none (h.of_left hCall rfl hRequest (hBase.locksFile hRequest hPlan).2 hHolds hResult
            hTree hLocks (h.kept.of_root hRoot hTree)) rfl
  | ended =>
      exact of_none (h.of_same_locks hCall rfl h.kept h.refills .finished rfl (fun _ _ => rfl)
        fun _ _ _ hBytes => hBytes) rfl

/-- Every call goes on as the writes in place do. -/
theorem moves (hBase : IsInPlace s base requests) (h : Serial s base requests pool arrived)
    (hCall : pool.calls[i]? = some call) :
    Call.Moves s base i pool.world call (call.step s i pool.world).1
      (call.step s i pool.world).2 := by
  cases h.line i call hCall with
  | ready hRequest => exact Call.moves_ready hBase h.refills h.kept hRequest
  | waiting => exact Call.moves_waiting hBase
  | opening hRequest hPlan => exact Call.moves_openTarget hBase h.refills hRequest hPlan _
  | filling => exact Call.moves_fillTarget hBase
  | settled => exact Call.moves_settled base _ _
  | finished => exact .ended

theorem step (hBase : IsInPlace s base requests) (h : Serial s base requests pool arrived) (i : Nat) :
    Serial s base requests (pool.step s i) (arrived ++ (pool.arrival? s i).toList) := by
  unfold Pool.arrival?
  cases hCall : pool.calls[i]? with
  | none =>
      rw [Pool.step, hCall, Option.bind_none, Option.toList_none, List.append_nil]
      exact h
  | some call =>
      rw [Pool.step_eq hCall]
      exact h.of_moves hBase hCall (h.moves hBase hCall)

theorem run (hBase : IsInPlace s base requests) (h : Serial s base requests pool arrived)
    (schedule : List Nat) :
    Serial s base requests (pool.run s schedule) (arrived ++ pool.arrivals s schedule) := by
  induction schedule generalizing pool arrived with
  | nil =>
      rw [Pool.arrivals, List.append_nil]
      exact h
  | cons i rest ih =>
      rw [Pool.arrivals, ← List.append_assoc]
      exact ih (h.step hBase i)

end Serial

/-! Going on to the end -/

/-- The number of steps that a call takes at most, not counting those in which it waits. -/
def Call.remaining : Call → Nat
  | .ready _ => 5
  | .waiting _ _ _ _ => 4
  | .writing _ _ _ _ .openTarget => 3
  | .writing _ _ _ _ _ => 2
  | .settled _ _ _ _ _ _ => 1
  | _ => 0

theorem Call.remaining_entered (request : Request) (path : Path) (key : Location) (bytes : Bytes)
    (holds : Bool) : (entered request path key bytes holds).remaining ≤ 4 := by
  cases holds with
  | false => exact Nat.le_refl 4
  | true => exact Nat.le_succ 3

/-- A step of a call that has its turn brings it closer to its end. -/
theorem Call.Moves.remaining_lt {world after : World} {next : Call}
    (h : Call.Moves s base i world call next after) (hBusy : call.isFinished = false)
    (hTurn : ∀ key, call.key? = some key → world.locks.holder? key = some i) :
    next.remaining < call.remaining := by
  cases h with
  | turnedDown => exact Nat.zero_lt_succ 4
  | asked => exact Nat.lt_succ_of_le (Call.remaining_entered _ _ _ _ _)
  | called =>
      rw [hTurn _ rfl, decide_eq_true rfl]
      exact Nat.lt_succ_self 3
  | opened => exact Nat.lt_succ_self 2
  | refused => exact Nat.lt_succ_of_le (Nat.le_succ 1)
  | filled => exact Nat.lt_succ_self 1
  | left => exact Nat.lt_succ_self 0
  | ended => cases hBusy

/-- The number of steps that the calls take at most. -/
def Pool.remaining (pool : Pool) : Nat := (pool.calls.map Call.remaining).sum

theorem Pool.remaining_step_lt (hCall : pool.calls[i]? = some call)
    (hLess : (call.step s i pool.world).1.remaining < call.remaining) :
    (pool.step s i).remaining < pool.remaining := by
  have sum_set_lt {calls : List Call} {n : Nat} {next : Call} (hAt : calls[n]? = some call)
      (hLess : next.remaining < call.remaining) :
      ((calls.set n next).map Call.remaining).sum < (calls.map Call.remaining).sum := by
    induction calls generalizing n with
    | nil => cases hAt
    | cons first rest ih =>
        cases n with
        | zero =>
            cases hAt
            simpa using hLess
        | succ n => simpa using ih hAt
  rw [Pool.step_eq hCall]
  exact sum_set_lt hCall hLess

namespace Serial

/-- As long as a call is not over, some call can go on. -/
theorem exists_step (hBase : IsInPlace s base requests) (h : Serial s base requests pool arrived)
    (hBusy : pool.calls.all (·.isFinished) = false) :
    ∃ i, (pool.step s i).remaining < pool.remaining := by
  obtain ⟨call, hMem, hOpen⟩ := List.all_eq_false.mp hBusy
  obtain ⟨i, hCall⟩ := List.mem_iff_getElem?.mp hMem
  rw [Bool.not_eq_true] at hOpen
  cases hKey : call.key? with
  | none =>
      exact ⟨i, Pool.remaining_step_lt hCall
        ((h.moves hBase hCall).remaining_lt hOpen (by simp [hKey]))⟩
  | some key =>
      -- The holder of the lock has its turn, whether or not this is the call itself.
      obtain ⟨j, hHolder⟩ : ∃ j, pool.world.locks.holder? key = some j := by
        have hWaits := (h.line i call hCall).mem_callers hKey
        rw [LockTable.holder?, List.head?_eq_some_head (List.ne_nil_of_mem hWaits)]
        exact ⟨_, rfl⟩
      obtain ⟨other, hOther, hSame⟩ := h.own key j (LockTable.mem_callers_of_holder? hHolder)
      have hNotOver : other.isFinished = false := by
        cases other with
        | finished => cases hSame
        | _ => rfl
      refine ⟨j, Pool.remaining_step_lt hOther ((h.moves hBase hOther).remaining_lt hNotOver ?_)⟩
      intro key' hKey'
      cases hSame.symm.trans hKey'
      exact hHolder

/-- No call is kept from its end. -/
theorem exists_finished (hBase : IsInPlace s base requests) (h : Serial s base requests pool arrived) :
    ∃ rest, (pool.run s rest).calls.all (·.isFinished) := by
  generalize hCount : pool.remaining = count
  induction count using Nat.strongRecOn generalizing pool arrived with
  | _ count ih =>
      cases hBusy : pool.calls.all (·.isFinished) with
      | true => exact ⟨[], hBusy⟩
      | false =>
          obtain ⟨i, hLess⟩ := h.exists_step hBase hBusy
          obtain ⟨rest, hRest⟩ := ih _ (hCount ▸ hLess) (h.step hBase i) rfl
          exact ⟨i :: rest, hRest⟩

end Serial

/-- Writes in place that are under way at the same time come one after the other at each file. -/
structure IsSerialized (s : Setting) (base : Tree) (requests : List Request) (pool : Pool)
    (arrived : List (Location × Nat)) : Prop where
  /-- At most one call has a file open for writing. -/
  apart : ∀ (i j : Nat) (call other : Call) (number : Nat), pool.calls[i]? = some call →
    pool.calls[j]? = some other → call.openFile? = some number → other.openFile? = some number → i = j
  /-- A call has open the file that its lock is named after, and holds this lock. -/
  opened : ∀ (i : Nat) (call : Call) (number : Nat), pool.calls[i]? = some call →
    call.openFile? = some number → ∃ key, call.key? = some key ∧
      pool.world.tree.fileAt? key = some number ∧ pool.world.locks.holder? key = some i
  /-- A call under way holds the lock, or waits for the lock, which is named after the canonical location of
  its target. -/
  locked : ∀ (i : Nat) (call : Call) (key : Location), pool.calls[i]? = some call →
    call.key? = some key → i ∈ pool.world.locks.callers key ∧
      ∃ path, call.target? = some path ∧ s.canonical path pool.world.tree = .ok key
  /-- No lock is in the table twice. -/
  table : (pool.world.locks.map Prod.fst).Nodup
  /-- A lock is in the table exactly as long as a call under way has its key. -/
  used : ∀ key, key ∈ pool.world.locks.map Prod.fst ↔
    ∃ (i : Nat) (call : Call), pool.calls[i]? = some call ∧ call.key? = some key
  /-- When all calls are over, every file holds what the last write to reach its lock has left, and no
  entry has changed. -/
  left : pool.calls.all (·.isFinished) → pool.world.locks = [] ∧
    pool.world.tree.entries = base.entries ∧
    ∀ location, pool.world.tree.bytesAt location =
      bytesAfter base requests location (arrivedAt arrived location)

namespace Serial

theorem isSerialized (hBase : IsInPlace s base requests) (h : Serial s base requests pool arrived) :
    IsSerialized s base requests pool arrived := by
  have hOpened (i : Nat) (call : Call) (number : Nat) (hCall : pool.calls[i]? = some call)
      (hOpen : call.openFile? = some number) : ∃ key, call.key? = some key ∧
        pool.world.tree.fileAt? key = some number ∧ pool.world.locks.holder? key = some i := by
    cases h.line i call hCall with
    | filling _ _ hHolds hFile _ =>
        cases hOpen
        exact ⟨_, rfl, (h.refills.fileAt? _).trans hFile, hHolds⟩
    | settled _ _ hHolds hFile _ =>
        exact ⟨_, rfl, (h.refills.fileAt? _).trans (hFile number hOpen), hHolds⟩
    | _ => cases hOpen
  have hUsed (key : Location) : key ∈ pool.world.locks.map Prod.fst ↔
      ∃ (i : Nat) (call : Call), pool.calls[i]? = some call ∧ call.key? = some key := by
    rw [h.tidy.mem_keys_iff]
    constructor
    · intro hCallers
      obtain ⟨i, hMem⟩ := List.exists_mem_of_ne_nil _ hCallers
      exact ⟨i, h.own key i hMem⟩
    · rintro ⟨i, call, hCall, hKey⟩
      exact List.ne_nil_of_mem ((h.line i call hCall).mem_callers hKey)
  refine ⟨?_, hOpened, ?_, h.tidy.once, hUsed, ?_⟩
  · intro i j call other number hCall hOther hOpen hOpenOther
    obtain ⟨key, _, hFile, hHolder⟩ := hOpened i call number hCall hOpen
    obtain ⟨key', _, hFile', hHolder'⟩ := hOpened j other number hOther hOpenOther
    obtain rfl := h.refills.isUnshared hBase.unshared key key' number hFile hFile'
    exact Option.some.inj (hHolder.symm.trans hHolder')
  · intro i call key hCall hKey
    obtain ⟨path, hTarget, hCanonical⟩ := (h.line i call hCall).exists_target hBase hKey
    exact ⟨(h.line i call hCall).mem_callers hKey, path, hTarget,
      (Setting.canonical_of_refills h.refills path).trans hCanonical⟩
  · intro hOver
    have hFree (key : Location) : pool.world.locks.callers key = [] := by
      rw [List.eq_nil_iff_forall_not_mem]
      intro i hMem
      obtain ⟨call, hCall, hKey⟩ := h.own key i hMem
      have hEnd := List.all_eq_true.mp hOver call (List.mem_of_getElem? hCall)
      cases call with
      | finished => cases hKey
      | _ => cases hEnd
    refine ⟨?_, h.refills.entries, ?_⟩
    · rw [List.eq_nil_iff_forall_not_mem]
      intro entry hMem
      exact (h.tidy.mem_keys_iff.mp (List.mem_map_of_mem hMem)) (hFree entry.1)
    · intro location
      obtain ⟨done, hQueue, hBytes⟩ := h.queue location
      rw [hFree, List.append_nil] at hQueue
      rw [hBytes, hQueue, Pool.shownAt_of_free]
      rw [LockTable.holder?, hFree]
      rfl

end Serial

namespace Access

/-- Writes in place come one after the other at each file, however their steps take turns, and none of
them is kept from its end. -/
theorem serialized_of_overwrite (hBase : IsInPlace s base requests) (schedule : List Nat) :
    IsSerialized s base requests ((Pool.ofRequests requests (World.initial base)).run s schedule)
        ((Pool.ofRequests requests (World.initial base)).arrivals s schedule) ∧
      ∃ rest, ((Pool.ofRequests requests (World.initial base)).run s (schedule ++ rest)).calls.all
        (·.isFinished) := by
  have h := (Serial.start s base requests).run hBase schedule
  obtain ⟨rest, hRest⟩ := h.exists_finished hBase
  refine ⟨h.isSerialized hBase, rest, ?_⟩
  rw [Pool.run, List.foldl_append]
  exact hRest

/-- Two writes to one file, of which one goes over a link. -/
def linkedWrites : List Request := [⟨some "link.txt", some "AAAA"⟩, ⟨some "real.txt", some "B"⟩]

theorem isInPlace_linkedWrites : IsInPlace (plainSetting .overwrite) linkedTree linkedWrites where
  strategy := rfl
  fault := rfl
  working := by decide
  unshared := isUnshared_of_entries (by decide)
  writes := by decide
  fits := by
    have hPath : ∀ request ∈ linkedWrites,
        (plan (plainSetting .overwrite) request linkedTree).toOption.all fun made =>
          match made with
          | .write path _ _ => path.anchor ≠ .relative
          | _ => true := by
      decide
    intro request hRequest path key text hPlan
    have hAnchor := hPath request hRequest
    rw [hPlan] at hAnchor
    exact linkNamesFit_of_entries (by simpa [Except.toOption] using hAnchor) (by decide)

/-- The two writes take turns. -/
theorem serialized_of_overwrite_turns :
    ∃ rest, ((Pool.ofRequests linkedWrites (World.initial linkedTree)).run (plainSetting .overwrite)
        ([0, 1, 0, 1] ++ rest)).calls.all (·.isFinished) ∧
      IsSerialized (plainSetting .overwrite) linkedTree linkedWrites
        ((Pool.ofRequests linkedWrites (World.initial linkedTree)).run (plainSetting .overwrite)
          [0, 1, 0, 1])
        ((Pool.ofRequests linkedWrites (World.initial linkedTree)).arrivals (plainSetting .overwrite)
          [0, 1, 0, 1]) := by
  obtain ⟨hSerialized, rest, hRest⟩ := serialized_of_overwrite isInPlace_linkedWrites [0, 1, 0, 1]
  exact ⟨rest, hRest, hSerialized⟩

/-- A write opens the file that its path leads to, and leaves all others as they are. -/
theorem Call.step_openTarget {path : Path} {place : Location} {number : Nat} {data : FileData}
    (hFault : s.faultAt? .openFile = none) (hRefills : base.Refills world.tree)
    (hFind : base.find s.site.working .creation path = .ok (.present place))
    (hFile : base.fileAt? place = some number) (hData : base.data? number = some data)
    (hMay : base.isWritableAt place) (i : Nat) (request : Request) (key : Location) (bytes : Bytes) :
    ∃ after, (Call.writing request path key bytes .openTarget).step s i world =
      (.writing request path key bytes (.fillTarget number), after) ∧ base.Refills after.tree := by
  obtain ⟨now, _, hRun⟩ := WriteStage.run_openTarget_of_find hFault hRefills hFind hFile hData bytes
  rw [if_pos hMay] at hRun
  unfold Call.step Call.advance
  dsimp only
  rw [hRun]
  exact ⟨_, rfl, hRefills.change number fun _ => []⟩

/-- Two writes that lead to one file over paths whose locks have different names have it open at the same
time. -/
theorem both_open_of_keys_ne {first second : Request} {path path' : Path} {key key' place : Location}
    {text text' : String} {number : Nat} {data : FileData}
    (hStrategy : s.service.strategy = .overwrite) (hFault : s.faultAt? .openFile = none)
    (hFirst : plan s first base = .ok (.write path key text))
    (hSecond : plan s second base = .ok (.write path' key' text')) (hNe : key' ≠ key)
    (hFind : base.find s.site.working .creation path = .ok (.present place))
    (hFind' : base.find s.site.working .creation path' = .ok (.present place))
    (hFile : base.fileAt? place = some number) (hData : base.data? number = some data)
    (hMay : base.isWritableAt place) :
    ∃ call other,
      ((Pool.ofRequests [first, second] (World.initial base)).run s [0, 1, 0, 1]).calls =
        [call, other] ∧ call.openFile? = some number ∧ other.openFile? = some number := by
  have hKept : ConfigRoot.IsKept s base (World.initial base) := rfl
  obtain ⟨world₁, hStep₁, hTree₁, hLocks₁, hKept₁⟩ :=
    Call.step_ready_of_plan hStrategy (.refl base) hKept hFirst 0
  have hRefills₁ : base.Refills world₁.tree := hTree₁ ▸ .refl base
  have hHolder₁ (other : Location) :
      world₁.locks.holder? other = if other = key then some 0 else none := by
    rw [hLocks₁]
    exact LockTable.holder?_request_of_free rfl
  obtain ⟨world₂, hStep₂, hTree₂, hLocks₂, _⟩ :=
    Call.step_ready_of_plan hStrategy hRefills₁ hKept₁ hSecond 1
  have hRefills₂ : base.Refills world₂.tree := hTree₂ ▸ hRefills₁
  have hHolder₂ : world₂.locks.holder? key' = some 1 := by
    rw [hLocks₂, LockTable.holder?_request_of_free (by rw [hHolder₁, if_neg hNe]), if_pos rfl]
  obtain ⟨world₃, hStep₃, hRefills₃⟩ := Call.step_openTarget hFault hRefills₂ hFind hFile hData hMay 0
    first key (Text.Utf8.encode text)
  obtain ⟨world₄, hStep₄, _⟩ := Call.step_openTarget hFault hRefills₃ hFind' hFile hData hMay 1 second
    key' (Text.Utf8.encode text')
  rw [hHolder₁, if_pos rfl, decide_eq_true rfl] at hStep₁
  rw [hHolder₂, decide_eq_true rfl] at hStep₂
  have hPool₁ : (Pool.ofRequests [first, second] (World.initial base)).step s 0 =
      ⟨[.writing first path key (Text.Utf8.encode text) .openTarget, .ready second], world₁⟩ :=
    Pool.step_of rfl hStep₁
  have hPool₂ : Pool.step s
      ⟨[.writing first path key (Text.Utf8.encode text) .openTarget, .ready second], world₁⟩ 1 =
      ⟨[.writing first path key (Text.Utf8.encode text) .openTarget,
        .writing second path' key' (Text.Utf8.encode text') .openTarget], world₂⟩ :=
    Pool.step_of rfl hStep₂
  refine ⟨.writing first path key (Text.Utf8.encode text) (.fillTarget number),
    .writing second path' key' (Text.Utf8.encode text') (.fillTarget number), ?_, rfl, rfl⟩
  rw [Pool.run, List.foldl_cons, hPool₁, List.foldl_cons, hPool₂, List.foldl_cons,
    Pool.step_of rfl hStep₃, List.foldl_cons, Pool.step_of rfl hStep₄]
  rfl

/-- No two names lead to one file. -/
theorem isUnshared_deepTree : deepTree.IsUnshared := by
  have hAlone {location : Location} {number : Nat}
      (hFile : deepTree.fileAt? location = some number) : location = ["outside", "secret"] := by
    have hMem := mem_entries_of_file hFile
    simp only [deepTree, List.mem_append, List.mem_cons, List.mem_map, Prod.mk.injEq, reduceCtorEq,
      and_false, exists_false, or_false, false_or, List.not_mem_nil, Entry.file.injEq] at hMem
    exact hMem.1
  exact fun location other number hFile hOther => (hAlone hFile).trans (hAlone hOther).symm

/-- A service with the root directory as its configuration. -/
def rootSetting : Setting :=
  { plainSetting .overwrite with service := ⟨"/", "", .empty, .overwrite⟩ }

/-- The path over the deep link has a lock of its own, since resolution stops at the link. -/
theorem plan_shortcut (text : String) :
    ∃ key, key ≠ ["outside", "secret"] ∧
      plan rootSetting ⟨some "conf/a/b/z/secret", some text⟩ deepTree =
        .ok (.write shortcut key text) := by
  obtain ⟨below, hSettles, hOther⟩ := settles_shortcut
  have hCanonical : rootSetting.canonical shortcut deepTree = .ok ("conf" :: below) :=
    Setting.canonical_of_settles (by decide) (Nat.le_refl _) hSettles
  have hFound : ConfigRoot.found rootSetting deepTree = .ok (Path.ofLocation []) := by
    decide
  have hRoot : rootSetting.canonical (Path.ofLocation []) deepTree = .ok [] := by decide
  have hPath : (Path.ofLocation []).join (Path.parse (withForwardSlashes "conf/a/b/z/secret")) =
      shortcut := by
    decide
  have hJudged : Guard.canonicalRelative rootSetting shortcut (Path.ofLocation []) deepTree =
      .ok (some ("conf" :: below)) := by
    rw [Guard.canonicalRelative_eq hCanonical hRoot]
    exact congrArg Except.ok (Path.below?_append [] ("conf" :: below))
  have hVerdict : Guard.verdict rootSetting (Path.ofLocation []) "conf/a/b/z/secret" deepTree =
      .ok shortcut :=
    Guard.verdict_ok_iff.mpr ⟨hPath.symm, by decide, by decide, by decide, _,
      hJudged, rfl⟩
  have hStatus : deepTree.status [] shortcut = .ok ⟨false, 1, 0o644, .recent⟩ :=
    status_ok.mpr ⟨_, find_shortcut, by decide⟩
  have hProbe : rootSetting.probe shortcut deepTree = .ok (some ⟨false, 1, 0o644, .recent⟩) :=
    Setting.probe_some.mpr ⟨by decide, hStatus⟩
  have hShown : Guard.shown rootSetting shortcut deepTree = .ok shortcut :=
    Guard.shown_of_status (by decide) (by decide) hStatus (by decide)
  have hFile : rootSetting.isDirectory shortcut deepTree = .ok false := by
    unfold Setting.isDirectory
    rw [hProbe]
    rfl
  exact ⟨"conf" :: below, hOther, plan_write hFound (Guard.decision_of_verdict hVerdict hShown) rfl
    (Write.prepared_ok.mpr ⟨hFile, hCanonical⟩)⟩

/-- Two writes to one file, of which one goes over a link with a name that is too long, have the file
open at the same time. -/
theorem both_open_over_deep_link :
    deepTree.IsUnshared ∧ ∃ call other,
      ((Pool.ofRequests [⟨some "conf/a/b/z/secret", some "AAAA"⟩, ⟨some "outside/secret", some "B"⟩]
        (World.initial deepTree)).run rootSetting [0, 1, 0, 1]).calls = [call, other] ∧
      call.openFile? = some 0 ∧ other.openFile? = some 0 := by
  obtain ⟨key, hNe, hFirst⟩ := plan_shortcut "AAAA"
  have hSecond : plan rootSetting ⟨some "outside/secret", some "B"⟩ deepTree =
      .ok (.write (Path.ofLocation ["outside", "secret"]) ["outside", "secret"] "B") := by
    decide
  have hFile : deepTree.fileAt? ["outside", "secret"] = some 0 := by decide
  have hData : deepTree.data? 0 = some ⟨0o644, [0x73], .recent⟩ := by decide
  have hFind : deepTree.find rootSetting.site.working .creation shortcut =
      .ok (.present ["outside", "secret"]) := by
    rw [show rootSetting.site.working = [] from rfl]
    exact find_creation_of_target find_shortcut (by decide)
  have hFind' : deepTree.find rootSetting.site.working .creation
      (Path.ofLocation ["outside", "secret"]) = .ok (.present ["outside", "secret"]) := by
    decide
  have hMay : deepTree.isWritableAt ["outside", "secret"] := by decide
  exact ⟨isUnshared_deepTree,
    both_open_of_keys_ne rfl rfl hFirst hSecond (Ne.symm hNe) hFind hFind' hFile hData hMay⟩

end Access

end ConfigGate
