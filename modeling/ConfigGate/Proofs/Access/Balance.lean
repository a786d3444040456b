import ConfigGate.Proofs.Access.Counting

/-! What a service has counted after any course of events. The counters agree with each other and with what
has happened, since each access adds what its result tells. -/
namespace ConfigGate

open Act

variable {request : Request}

/-! Sums of counters -/

namespace Metrics

/-- The sum of the counters with these keys. -/
def total {κ : Type} (isMeant : κ → Bool) (counters : List (κ × Nat)) : Nat :=
  ((counters.filter (isMeant ·.1)).map (·.2)).sum

theorem total_bump {κ : Type} [DecidableEq κ] (isMeant : κ → Bool) (key : κ)
    (counters : List (κ × Nat)) :
    total isMeant (bump key counters) = total isMeant counters + if isMeant key then 1 else 0 := by
  unfold total bump
  induction counters with
  | nil => cases h : isMeant key <;> simp [Keyed.assign, h]
  | cons counter rest ih =>
      obtain ⟨k, n⟩ := counter
      by_cases hKey : k = key
      · subst hKey
        cases h : isMeant k <;> simp [Keyed.assign, h]
        omega
      · rw [List.lookup_cons, show (key == k) = false by simpa using Ne.symm hKey]
        rw [Keyed.assign, if_neg hKey, List.filter_cons, List.filter_cons]
        dsimp only
        cases isMeant k with
        | false => exact ih
        | true =>
            simp only [if_true, List.map_cons, List.sum_cons]
            omega

/-- The number of accesses with this outcome, in all modes. -/
def outcomeCount (m : Metrics) (outcome : String) : Nat :=
  total (·.2 == outcome) m.accesses

/-- The number of rejections for all reasons. -/
def rejectionCount (m : Metrics) : Nat :=
  total (fun _ => true) m.rejections

theorem writeSum_eq (m : Metrics) : m.writeSum = m.writes.sum :=
  List.sum_eq_foldl_nat.symm

section

variable (m : Metrics) (mode outcome reason : String) (size : Nat)

@[simp] theorem writes_countAccess : (m.countAccess mode outcome).writes = m.writes := rfl

@[simp] theorem writes_countRejection : (m.countRejection reason).writes = m.writes := rfl

@[simp] theorem writes_countWrite : (m.countWrite size).writes = size :: m.writes := rfl

@[simp] theorem accessCount_countRejection (series : String × String) :
    (m.countRejection reason).accessCount series = m.accessCount series := rfl

@[simp] theorem accessCount_countWrite (series : String × String) :
    (m.countWrite size).accessCount series = m.accessCount series := rfl

@[simp] theorem outcomeCount_countAccess (other : String) :
    (m.countAccess mode outcome).outcomeCount other =
      m.outcomeCount other + if outcome = other then 1 else 0 := by
  unfold outcomeCount countAccess
  rw [total_bump]
  simp

@[simp] theorem outcomeCount_countRejection :
    (m.countRejection reason).outcomeCount outcome = m.outcomeCount outcome := rfl

@[simp] theorem outcomeCount_countWrite :
    (m.countWrite size).outcomeCount outcome = m.outcomeCount outcome := rfl

@[simp] theorem rejectionCount_countAccess :
    (m.countAccess mode outcome).rejectionCount = m.rejectionCount := rfl

@[simp] theorem rejectionCount_countRejection :
    (m.countRejection reason).rejectionCount = m.rejectionCount + 1 :=
  total_bump _ reason m.rejections

@[simp] theorem rejectionCount_countWrite :
    (m.countWrite size).rejectionCount = m.rejectionCount := rfl

end

end Metrics

/-! A course of events -/

/-- What may happen while a service runs. -/
inductive Occurrence where
  /-- Someone else changes the files. -/
  | change (tree : Tree)
  /-- An access. The system may fail at one place on its way. -/
  | access (fault : Option Fault) (demand : Demand)

/-- An access that is over. -/
structure Past where
  request : Request
  /-- What became of the search for the root. -/
  root : Except Failure Path
  result : Except Failure Reply

namespace Past

/-- The number of bytes that were written, if it is a write that succeeded. -/
def written? (past : Past) : Option Nat :=
  match past.result, past.request.contents with
  | .ok _, some text => some (Text.Utf8.encode text).length
  | _, _ => none

/-- The guard rejected the request. -/
def isRejected (past : Past) : Bool :=
  match past.result with
  | .error (.rejected _ _) => true
  | _ => false

/-- The root could not be resolved. -/
def lacksRoot (past : Past) : Bool :=
  match past.root with
  | .error _ => true
  | .ok _ => false

/-- The search for the root came to its end without one. -/
def findsNoRoot (past : Past) : Bool :=
  match past.root with
  | .error .noRoot => true
  | _ => false

/-- The search for the root broke off on its way, as it does below the home directory of an unknown user, or
where the system refuses to look. -/
def breaksOff (past : Past) : Bool :=
  past.lacksRoot && !past.findsNoRoot

theorem findsNoRoot_iff {past : Past} : past.findsNoRoot ↔ past.root = .error .noRoot := by
  unfold findsNoRoot
  split <;> simp_all

theorem lacksRoot_of_findsNoRoot {past : Past} (h : past.findsNoRoot) : past.lacksRoot := by
  rw [lacksRoot, findsNoRoot_iff.mp h]

/-- A call that could not resolve the root found none, or its search broke off. -/
theorem countP_lacksRoot (pasts : List Past) :
    pasts.countP lacksRoot = pasts.countP findsNoRoot + pasts.countP breaksOff := by
  induction pasts with
  | nil => rfl
  | cons past rest ih =>
      rw [List.countP_cons, List.countP_cons, List.countP_cons, ih, breaksOff]
      cases hNone : past.findsNoRoot with
      | true =>
          rw [lacksRoot_of_findsNoRoot hNone]
          simp only [Bool.not_true, Bool.and_false, if_true, Bool.false_eq_true, if_false]
          omega
      | false =>
          simp only [Bool.not_false, Bool.and_true, Bool.false_eq_true, if_false]
          omega

/-- The access failed in a way that only the log tells. -/
def isInternal (past : Past) : Bool :=
  match past.result with
  | .error failure => failure.family == "InternalFileError"
  | .ok _ => false

/-- A failure with another status is neither a rejection nor an internal one. -/
theorem unmarked_of_status (request : Request) (root : Except Failure Path) {failure : Failure}
    (h : failure.status? ≠ some 403) (h' : failure.status? ≠ some 500) :
    isRejected ⟨request, root, .error failure⟩ = false ∧
      isInternal ⟨request, root, .error failure⟩ = false ∧ failure ≠ .noRoot := by
  cases hStatus : failure.status? with
  | none =>
      have hFamily := failure.family_of_status_none hStatus
      simp only [List.mem_cons, List.not_mem_nil, or_false, not_or] at hFamily
      refine ⟨?_, by simp [isInternal, hFamily], ?_⟩
      · cases failure <;> simp_all [isRejected, Failure.status?]
      · rintro rfl
        cases hStatus
  | some status => cases failure <;> simp_all [isRejected, isInternal, Failure.family, Failure.status?]

end Past

/-- The counters have grown by what has happened. -/
structure Tallied (pasts : List Past) (before after : Metrics) : Prop where
  writes : after.accessCount ("write", "ok") =
    before.accessCount ("write", "ok") + (pasts.filterMap Past.written?).length
  sizes : after.writes = (pasts.filterMap Past.written?).reverse ++ before.writes
  rejections : after.rejectionCount = before.rejectionCount + pasts.countP Past.isRejected
  forbidden : after.outcomeCount "forbidden" =
    before.outcomeCount "forbidden" + pasts.countP Past.isRejected + pasts.countP Past.findsNoRoot
  errors : after.outcomeCount "error" = before.outcomeCount "error" + pasts.countP Past.isInternal

namespace Tallied

theorem refl (m : Metrics) : Tallied [] m m where
  writes := rfl
  sizes := rfl
  rejections := rfl
  forbidden := rfl
  errors := rfl

theorem append {first others : List Past} {before middle after : Metrics}
    (h : Tallied first before middle) (h' : Tallied others middle after) :
    Tallied (first ++ others) before after where
  writes := by
    rw [h'.writes, h.writes, List.filterMap_append, List.length_append, Nat.add_assoc]
  sizes := by
    rw [h'.sizes, h.sizes, List.filterMap_append, List.reverse_append, List.append_assoc]
  rejections := by rw [h'.rejections, h.rejections, List.countP_append, Nat.add_assoc]
  forbidden := by
    rw [h'.forbidden, h.forbidden, List.countP_append, List.countP_append]
    omega
  errors := by rw [h'.errors, h.errors, List.countP_append, Nat.add_assoc]

end Tallied

namespace Access

/-- One access is tallied. -/
theorem Books.tallied {root : Except Failure Path} {result : Except Failure Reply}
    {before after : Metrics} (h : Books request before result after)
    (hRoot : result = .error .noRoot ↔ root = .error .noRoot) :
    Tallied [⟨request, root, result⟩] before after := by
  have hLacks : Past.findsNoRoot ⟨request, root, result⟩ ↔ result = .error .noRoot :=
    Past.findsNoRoot_iff.trans hRoot.symm
  cases h with
  | written hContents hMode =>
      constructor <;>
        simp [Past.written?, Past.isRejected, Past.isInternal, hLacks, hContents,
          Metrics.accessCount_countAccess]
  | read hContents hMode =>
      constructor <;>
        simp [Past.written?, Past.isRejected, Past.isInternal, hLacks, hContents,
          Metrics.accessCount_countAccess, hMode.symm]
  | rootless | rejected | internal =>
      constructor <;>
        simp [Past.written?, Past.isRejected, Past.isInternal, hLacks, Failure.family,
          Metrics.accessCount_countAccess]
  | @badRequest failure hStatus =>
      have hForbidden : failure.status? ≠ some 403 := by simp [hStatus]
      obtain ⟨hRejected, hInternal, hFound⟩ := Past.unmarked_of_status request root hForbidden (by simp [hStatus])
      constructor <;>
        simp [Past.written?, hRejected, hInternal, hLacks, hFound, Metrics.accessCount_countAccess]
  | @surprise failure hStatus =>
      have hForbidden : failure.status? ≠ some 403 := by simp [hStatus]
      obtain ⟨hRejected, hInternal, hFound⟩ := Past.unmarked_of_status request root hForbidden (by simp [hStatus])
      constructor <;> simp [Past.written?, hRejected, hInternal, hLacks, hFound]

/-- What an occurrence does, and the access that it was if it was one. -/
def occur (s : Setting) : Occurrence → World → List Past × World
  | .change tree, world => ([], { world with tree })
  | .access fault demand, world =>
    let s := { s with fault }
    let (result, after) := attempt (call s demand) world
    ([⟨demand.request, ConfigRoot.current s world, result⟩], after)

/-- A course of events. -/
def occurAll (s : Setting) : List Occurrence → World → List Past × World
  | [], world => ([], world)
  | occurrence :: rest, world =>
    let (first, middle) := occur s occurrence world
    let (others, after) := occurAll s rest middle
    (first ++ others, after)

theorem tallied_occur (s : Setting) (occurrence : Occurrence) (world : World) :
    Tallied (occur s occurrence world).1 world.metrics (occur s occurrence world).2.metrics := by
  cases occurrence with
  | change tree => exact .refl world.metrics
  | access fault demand =>
      obtain ⟨hBooks, hRoot⟩ := books_of_call { s with fault } demand world
      exact hBooks.tallied hRoot

theorem tallied_occurAll (s : Setting) (course : List Occurrence) (world : World) :
    Tallied (occurAll s course world).1 world.metrics (occurAll s course world).2.metrics := by
  induction course generalizing world with
  | nil => exact .refl world.metrics
  | cons occurrence rest ih => exact (tallied_occur s occurrence world).append (ih _)

end Access

/-- What has been counted is what has happened. A write that succeeds is counted as an access and with its
size, accesses that are forbidden are those that the guard rejects and those that could not resolve the root,
of which so many are missing, and accesses that end in an error are those that fail internally. -/
structure Balanced (pasts : List Past) (missing : Nat) (before after : Metrics) : Prop where
  writes : after.accessCount ("write", "ok") + before.writeCount =
    before.accessCount ("write", "ok") + after.writeCount
  count : after.writeCount = before.writeCount + (pasts.filterMap Past.written?).length
  sum : after.writeSum = before.writeSum + (pasts.filterMap Past.written?).sum
  upTo : ∀ bound, after.writesUpTo bound =
    before.writesUpTo bound + (pasts.filterMap Past.written?).countP (· ≤ bound)
  forbidden : after.outcomeCount "forbidden" + missing + before.rejectionCount =
    before.outcomeCount "forbidden" + after.rejectionCount + pasts.countP Past.lacksRoot
  errors : after.outcomeCount "error" = before.outcomeCount "error" + pasts.countP Past.isInternal

namespace Access

/-- Whatever happens to a service, its counters agree with each other and with what has happened, but for
the calls whose search for the root broke off. These are missing from the counters, and no others are. -/
theorem balanced_iff_of_course (s : Setting) (course : List Occurrence) (world : World) (missing : Nat) :
    Balanced (occurAll s course world).1 missing world.metrics (occurAll s course world).2.metrics ↔
      missing = (occurAll s course world).1.countP Past.breaksOff := by
  obtain ⟨hWrites, hSizes, hRejections, hForbidden, hErrors⟩ := tallied_occurAll s course world
  have hRootless := Past.countP_lacksRoot (occurAll s course world).1
  constructor
  · intro h
    have hMissing := h.forbidden
    omega
  · rintro rfl
    have hCount : (occurAll s course world).2.metrics.writeCount =
        world.metrics.writeCount + ((occurAll s course world).1.filterMap Past.written?).length := by
      rw [Metrics.writeCount, Metrics.writeCount, hSizes, List.length_append, List.length_reverse]
      omega
    exact {
      writes := by omega
      count := hCount
      sum := by
        rw [Metrics.writeSum_eq, Metrics.writeSum_eq, hSizes, List.sum_append, List.sum_reverse]
        omega
      upTo := fun bound => by
        rw [Metrics.writesUpTo, Metrics.writesUpTo, hSizes, List.countP_append, List.countP_reverse]
        omega
      forbidden := by omega
      errors := hErrors }

/-- The setting with another configuration directory. -/
def settingAt (configDir : String) : Setting :=
  let s := plainSetting .atomic
  { s with service := { s.service with configDir } }

/-- A call below the home directory of an unknown user cannot resolve the root, and is not counted as
forbidden. -/
theorem unbalanced_unknown_home :
    let course := [Occurrence.access none ⟨none, none⟩]
    let world := World.initial ⟨[], [], 0⟩
    let ⟨pasts, after⟩ := occurAll (settingAt "~nosuchuser/conf") course world
    pasts.countP Past.lacksRoot = 1 ∧ after.metrics.outcomeCount "forbidden" = 0 ∧
      ¬ Balanced pasts 0 world.metrics after.metrics := by
  refine ⟨by decide, by decide, fun h => ?_⟩
  have hForbidden := h.forbidden
  revert hForbidden
  decide

/-- A service that has no directory yet, then gets one, takes a write of two bytes and rejects a path. -/
example :
    let course := [
      .access none ⟨none, none⟩,
      .change linkedTree,
      .access none ⟨some "real.txt", some "é"⟩,
      .access none ⟨some "../real.txt", none⟩]
    let after := (occurAll (plainSetting .overwrite) course (World.initial ⟨[], [], 0⟩)).2.metrics
    after.writes = [2] ∧ after.rejectionCount = 1 ∧ after.outcomeCount "forbidden" = 2 := by
  decide +kernel

end Access

end ConfigGate
