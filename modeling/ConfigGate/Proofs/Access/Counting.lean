import ConfigGate.Proofs.Access.Accounting
import ConfigGate.Proofs.Access.Discretion

/-! What one access adds to the counters. Accesses, rejections and writes are counted in different places,
and some accesses fail between them. Still the result of an access alone tells what it has counted. -/
namespace ConfigGate

open Act Computation

variable {α β : Type} {s : Setting} {world : World} {request : Request}

/-! Which failures come up where -/

variable {p : Path} {tree : Tree} {failure : Failure}

namespace Setting

theorem probe_error (h : s.probe p tree = .error failure) : failure.status? = none := by
  unfold probe at h
  split at h
  · cases h
  · split at h <;> cases h
    rfl

theorem isDirectory_error (h : s.isDirectory p tree = .error failure) : failure.status? = none := by
  unfold isDirectory at h
  cases hProbe : s.probe p tree with
  | ok found =>
      rw [hProbe] at h
      cases h
  | error other =>
      rw [hProbe] at h
      cases h
      exact probe_error hProbe

theorem canonical_error (h : s.canonical p tree = .error failure) : failure.status? = none := by
  rcases canonical_cases s p tree with ⟨_, hKnown, _⟩ | ⟨_, hLost, hLoss, _⟩ | ⟨_, hTorn, _⟩
  · cases h.symm.trans hKnown
  · cases h.symm.trans hLost
    exact hLoss.status?
  · cases h.symm.trans hTorn
    rfl

end Setting

theorem ConfigRoot.directoryAt_error (h : directoryAt s p tree = .error failure) :
    failure.status? = none := by
  unfold directoryAt at h
  split at h
  · rename_i hDirectory
    cases h
    exact Setting.isDirectory_error hDirectory
  · cases h
  · cases hCanonical : s.canonical p tree with
    | ok location =>
        rw [hCanonical] at h
        cases h
    | error other =>
        rw [hCanonical] at h
        cases h
        exact Setting.canonical_error hCanonical

theorem ConfigRoot.allDirectories_error {paths : List Path} (h : allDirectories s tree paths = .error failure) :
    failure.status? = none := by
  induction paths with
  | nil => cases h
  | cons q rest ih =>
      rw [allDirectories] at h
      split at h
      · rename_i hDirectory
        cases h
        exact Setting.isDirectory_error hDirectory
      · cases h
      · exact ih h

theorem ConfigRoot.holder_error {name : String} {paths : List Path}
    (h : holder s tree name paths = .error failure) : failure.status? = none := by
  induction paths with
  | nil => cases h
  | cons q rest ih =>
      rw [holder] at h
      split at h
      · rename_i hEntry
        cases h
        unfold Setting.hasEntry at hEntry
        split at hEntry <;> cases hEntry
        rfl
      · cases h
      · exact ih h

theorem ConfigRoot.packagePlace_error {name : String} {package : Package}
    (h : packagePlace s tree name package = .error failure) : failure.status? = none := by
  cases package with
  | directory | archived | single => cases h
  | scattered first others =>
      rw [packagePlace] at h
      split at h
      · rename_i hAll
        cases h
        exact allDirectories_error hAll
      · cases h
        rfl
      · cases hHolder : holder s tree name (first :: others) with
        | ok found =>
            rw [hHolder] at h
            cases h
        | error other =>
            rw [hHolder] at h
            cases h
            exact holder_error hHolder

theorem ConfigRoot.packaged_error (h : packaged s tree = .error failure) : failure.status? = none := by
  unfold packaged at h
  split at h
  · cases h
  · split at h
    · cases h
    · split at h
      · rename_i hPlace
        cases h
        exact packagePlace_error hPlace
      · cases h
      · exact directoryAt_error h

/-- A search that fails finds that there is no root, or fails in a way that no client is meant to see. -/
theorem ConfigRoot.current_error (h : current s world = .error failure) :
    failure = .noRoot ∨ failure.status? = none := by
  unfold current at h
  split at h
  · cases h
  · unfold found at h
    split at h
    · rename_i hHome
      cases h
      exact .inr (status?_of_expandHome hHome)
    · split at h
      · rename_i hDisk
        cases h
        exact .inr (directoryAt_error hDisk)
      · cases h
      · split at h
        · rename_i hPackaged
          cases h
          exact .inr (packaged_error hPackaged)
        · cases h
        · cases h
          exact .inl rfl

theorem Guard.shown_error (h : shown s p tree = .error failure) : failure.status? ≠ some 403 := by
  unfold shown at h
  cases hProbe : s.probe p tree with
  | error other =>
      rw [hProbe] at h
      cases h
      simp [Setting.probe_error hProbe]
  | ok found =>
      rw [hProbe] at h
      cases found with
      | none =>
          cases h
          simp [Failure.status?]
      | some status =>
          simp only [bind, Except.bind, isSystemHidden_of_probe hProbe] at h
          split at h
          · cases h
            simp [Failure.status?]
          · split at h <;> cases h
            simp [Failure.status?]

theorem Write.prepared_error (h : prepared s p tree = .error failure) : failure.status? ≠ some 403 := by
  unfold prepared at h
  cases hDirectory : s.isDirectory p tree with
  | error other =>
      rw [hDirectory] at h
      cases h
      simp [Setting.isDirectory_error hDirectory]
  | ok found =>
      rw [hDirectory] at h
      cases found with
      | true =>
          cases h
          simp [Failure.status?]
      | false =>
          have hCanonical : s.canonical p tree = .error failure := h
          simp [Setting.canonical_error hCanonical]

/-! What the parts of an access count -/

/-- What has been counted of a failure when it comes up: the guard counts its rejections. -/
def Failure.counted : Failure → Metrics → Metrics
  | .rejected reason _, m => m.countRejection reason.reason
  | _, m => m

theorem Failure.counted_of_status (h : failure.status? ≠ some 403) (m : Metrics) :
    failure.counted m = m := by
  cases failure <;> first | rfl | exact absurd rfl h

namespace Act

/-- What a part of an access that has found its root comes to. A success has been counted as `done`
says, and a failure as the failure says. -/
def Counted (done : α → Metrics → Metrics → Prop) (before : Metrics) : Except Failure α × World → Prop
  | (.ok a, after) => done a before after.metrics
  | (.error failure, after) => failure ≠ .noRoot ∧ after.metrics = failure.counted before

def Counts (done : α → Metrics → Metrics → Prop) (act : Act α) : Prop :=
  ∀ world, Counted done world.metrics (attempt act world)

/-- The part of an access counts nothing but the failure that it ends in. -/
abbrev CountsFailures (act : Act α) : Prop := Counts (fun _ before after => after = before) act

variable {done : β → Metrics → Metrics → Prop}

theorem CountsFailures.bind {act : Act α} {next : α → Act β} (h : CountsFailures act)
    (hNext : ∀ a, Counts done (next a)) : Counts done (act >>= next) := by
  intro world
  have hFirst := h world
  rw [attempt_bind]
  rcases hRun : attempt act world with ⟨failure | a, middle⟩
  · rw [hRun] at hFirst
    exact hFirst
  · rw [hRun] at hFirst
    have hSame : middle.metrics = world.metrics := hFirst
    have hRest := hNext a middle
    rwa [hSame] at hRest

theorem counts_pure {b : β} (h : ∀ m, done b m m) : Counts done (pure b : Act β) :=
  fun world => h world.metrics

theorem counted_error (h : failure.status? ≠ some 403) (world : World) :
    Counted done world.metrics (.error failure, world) :=
  ⟨fun hRoot => h (by rw [hRoot]; rfl), (failure.counted_of_status h world.metrics).symm⟩

theorem counts_throw (h : failure.status? ≠ some 403) :
    Counts done (throw failure : Act β) := counted_error h

theorem countsFailures_get : CountsFailures (get : Act World) := fun _ => rfl

theorem countsFailures_log (event : Log.Event) : CountsFailures (log event) := fun _ => rfl

theorem countsFailures_ask {f : World → Except Failure α}
    (h : ∀ {world failure}, f world = .error failure → failure.status? ≠ some 403) :
    CountsFailures (ask f) := by
  intro world
  rw [attempt_ask]
  cases hResult : f world with
  | ok a => rfl
  | error failure => exact counted_error (h hResult) world

end Act

namespace Guard

theorem countsFailures_check (root : Path) (requested : String) :
    CountsFailures (check s root requested) := by
  intro world
  have hVerdict : verdict s root requested world.tree ≠ .error .noRoot := by
    intro hError
    rcases verdict_error hError with ⟨⟨⟩⟩ | ⟨reason, h, _⟩
    cases h
  rw [attempt_check_eq]
  cases hResult : verdict s root requested world.tree with
  | ok candidate => rfl
  | error failure =>
      refine ⟨fun h => hVerdict (by rw [hResult, h]), ?_⟩
      cases failure <;> rfl

theorem countsFailures_resolve (root : Path) (requested : Option String) :
    CountsFailures (resolve s root requested) := by
  have hShown (target : Path) : CountsFailures (ask fun world => shown s target world.tree) :=
    countsFailures_ask shown_error
  cases requested with
  | none => exact hShown root
  | some file => exact (countsFailures_check root file).bind hShown

end Guard

/-- A write that succeeds has been counted with its size. -/
theorem Write.counts_file (target : Path) (contents : String) :
    Counts (fun _ before after => after = before.countWrite (Text.Utf8.encode contents).length)
      (file s target contents) := by
  intro world
  rw [attempt_file]
  cases hPrepared : prepared s target world.tree with
  | error failure => exact counted_error (prepared_error hPrepared) world
  | ok key =>
      dsimp only
      have hStages : (stages s target contents { world with locks := world.locks.request key 0 }).2.metrics =
          world.metrics := (records_runAll target _ _ _ _).2
      rcases hRun : stages s target contents { world with locks := world.locks.request key 0 } with
        ⟨e | done, after⟩
      · rw [hRun] at hStages
        exact ⟨by rintro ⟨⟩, hStages⟩
      · rw [hRun] at hStages
        exact congrArg (Metrics.countWrite · _) hStages

theorem Stream.countsFailures_ofPath (p : Path) : CountsFailures (ofPath s p) := by
  have hStart (result : Except SystemError Nat) : CountsFailures (start p result) := by
    cases result with
    | error e =>
        exact (countsFailures_log _).bind fun _ => counts_throw (by simp [Failure.status?])
    | ok file => exact fun _ => rfl
  unfold ofPath
  split
  · exact counts_throw (by simp [Failure.status?])
  · exact countsFailures_get.bind fun world => hStart _

theorem Listing.countsFailures_list (directory root : Path) :
    CountsFailures (list s directory root) := by
  rw [list_eq]
  split
  · exact counts_throw (by simp [Failure.status?])
  · split
    · exact counts_throw (by simp [Failure.status?])
    · refine countsFailures_get.bind fun world => ?_
      split
      · exact (countsFailures_log _).bind fun _ => counts_throw (by simp [Failure.status?])
      · exact counts_pure fun _ => rfl

/-- Nothing has been counted. -/
def SameMetrics (before after : World) : Prop := after.metrics = before.metrics

instance : Std.Refl SameMetrics := ⟨fun _ => rfl⟩

instance : Trans SameMetrics SameMetrics SameMetrics := ⟨fun h h' => h'.trans h⟩

namespace Access

/-- An access below a root that has been found. -/
def below (s : Setting) (request : Request) (root : Path) : Act Reply := do
  let target ← Guard.resolve s root request.file
  match request.contents with
  | some text =>
    Write.file s target text
    return .written target text
  | none =>
    if ← Act.ask fun world => s.isDirectory target world.tree then
      return .listed target (← Listing.list s target root)
    else
      return .read target (← Stream.ofPath s target)

theorem perform_eq_below (s : Setting) (request : Request) :
    perform s request = ConfigRoot.resolve s >>= below s request := by
  simp only [perform, target, bind_assoc, pure_bind]
  rfl

/-- The same for contents that no file can hold. -/
def refuseBelow (s : Setting) (request : Request) (contents : Text.Wide) (root : Path) : Act Reply := do
  let target ← Guard.resolve s root request.file
  if ← Act.ask fun world => s.isDirectory target world.tree then throw (.writesDirectory target.name)
  throw (.unencodable contents)

/-- The same for a demand. -/
def undertakeBelow (s : Setting) (demand : Demand) (root : Path) : Act Reply :=
  match demand.torn? with
  | some contents => refuseBelow s demand.request contents root
  | none => do
    let reply ← below s demand.request root
    Act.ask fun _ => dated reply

/-- A reply to a request, with what has been counted on the way to it. -/
def Replied (request : Request) (reply : Reply) (before after : Metrics) : Prop :=
  match request.contents with
  | some text => reply.mode = "write" ∧ after = before.countWrite (Text.Utf8.encode text).length
  | none => reply.mode ≠ "write" ∧ after = before

theorem counts_below (request : Request) (root : Path) :
    Counts (Replied request) (below s request root) := by
  refine (Guard.countsFailures_resolve root request.file).bind fun target => ?_
  unfold Replied
  cases request.contents with
  | some text =>
      intro world
      have hWrite := Write.counts_file (s := s) target text world
      dsimp only
      rw [attempt_bind]
      rcases hRun : attempt (Write.file s target text) world with ⟨failure | done, after⟩
      · rw [hRun] at hWrite
        exact hWrite
      · rw [hRun] at hWrite
        exact ⟨rfl, hWrite⟩
  | none =>
      have hLook : CountsFailures (ask fun world => s.isDirectory target world.tree) :=
        countsFailures_ask fun h => by simp [Setting.isDirectory_error h]
      refine hLook.bind fun isDirectory => ?_
      cases isDirectory with
      | true =>
          exact (Listing.countsFailures_list target root).bind fun _ =>
            counts_pure fun _ => ⟨by simp [Reply.mode], rfl⟩
      | false =>
          exact (Stream.countsFailures_ofPath target).bind fun _ =>
            counts_pure fun _ => ⟨by simp [Reply.mode], rfl⟩

/-- The search for the root counts nothing. It is all that can find that there is none. -/
theorem attempt_resolve_metrics (s : Setting) (world : World) :
    (attempt (ConfigRoot.resolve s) world).1 = ConfigRoot.current s world ∧
      (attempt (ConfigRoot.resolve s) world).2.metrics = world.metrics := by
  refine ⟨ConfigRoot.attempt_resolve_eq_current world, ?_⟩
  cases hRoot : world.root with
  | some root => rw [ConfigRoot.attempt_resolve_of_root hRoot]
  | none =>
      have hSearch : Respects SameMetrics (ConfigRoot.search s) :=
        ConfigRoot.respects_search fun _ _ _ => rfl
      have hSame : (attempt (ConfigRoot.search s) world).2.metrics = world.metrics := hSearch world
      unfold ConfigRoot.resolve
      rw [attempt_bind, attempt_get]
      simp only [hRoot]
      rw [attempt_bind]
      rcases hRun : attempt (ConfigRoot.search s) world with ⟨failure | root, middle⟩ <;>
        rw [hRun] at hSame <;> exact hSame

/-- What an access with this result adds to the counters. -/
inductive Books (request : Request) (before : Metrics) : Except Failure Reply → Metrics → Prop where
  | written {text : String} {reply : Reply} (hContents : request.contents = some text)
      (hMode : reply.mode = "write") :
      Books request before (.ok reply)
        ((before.countWrite (Text.Utf8.encode text).length).countAccess "write" "ok")
  | read {reply : Reply} (hContents : request.contents = none) (hMode : reply.mode ≠ "write") :
      Books request before (.ok reply) (before.countAccess reply.mode "ok")
  | rootless : Books request before (.error .noRoot) (before.countAccess request.mode "forbidden")
  | rejected (reason : Rejection) (file : String) :
      Books request before (.error (.rejected reason file))
        ((before.countRejection reason.reason).countAccess request.mode "forbidden")
  | badRequest {failure : Failure} (hStatus : failure.status? = some 400) :
      Books request before (.error failure) (before.countAccess request.mode "bad_request")
  | internal : Books request before (.error .internal) (before.countAccess request.mode "error")
  | surprise {failure : Failure} (hStatus : failure.status? = none) :
      Books request before (.error failure) before

theorem Books.of_counted {result : Except Failure Reply} {before : Metrics} {after : World}
    (h : Counted (Replied request) before (result, after)) :
    Books request before result (attempt (count request result) after).2.metrics ∧
      result ≠ .error .noRoot := by
  rw [attempt_count_eq]
  cases result with
  | error failure =>
      obtain ⟨hFound, hCounted⟩ := h
      refine ⟨?_, fun hResult => hFound (Except.error.inj hResult)⟩
      rw [hCounted]
      cases failure with
      | rejected reason file => exact .rejected reason file
      | noRoot => exact absurd rfl hFound
      | internal => exact .internal
      | notFound | notShown | writesDirectory => exact .badRequest rfl
      | _ => exact .surprise rfl
  | ok reply =>
      refine ⟨?_, by simp⟩
      have hReplied : Replied request reply before after.metrics := h
      unfold Replied at hReplied
      cases hContents : request.contents with
      | some text =>
          rw [hContents] at hReplied
          obtain ⟨hMode, hCounted⟩ := hReplied
          dsimp only [series?]
          rw [hMode, hCounted]
          exact .written hContents hMode
      | none =>
          rw [hContents] at hReplied
          obtain ⟨hMode, hCounted⟩ := hReplied
          dsimp only [series?]
          rw [hCounted]
          exact .read hContents hMode

/-- Contents that no file can hold are never written. -/
theorem counts_refuseBelow {done : Reply → Metrics → Metrics → Prop} (request : Request)
    (contents : Text.Wide) (root : Path) : Counts done (refuseBelow s request contents root) := by
  refine (Guard.countsFailures_resolve root request.file).bind fun target => ?_
  have hLook : CountsFailures (ask fun world => s.isDirectory target world.tree) :=
    countsFailures_ask fun h => by simp [Setting.isDirectory_error h]
  refine hLook.bind fun isDirectory => ?_
  cases isDirectory <;> exact counts_throw (by simp [Failure.status?])

/-- Times that are no dates make a reply fail that has counted nothing. -/
theorem counts_dated {act : Act Reply} (h : Counts (Replied request) act) :
    Counts (Replied request) (act >>= fun reply => ask fun _ => dated reply) := by
  intro world
  have hCounted := h world
  rw [attempt_bind]
  rcases hRun : attempt act world with ⟨failure | reply, after⟩ <;> rw [hRun] at hCounted
  · exact hCounted
  dsimp only
  rw [attempt_ask]
  cases reply with
  | read | written => exact hCounted
  | listed path listing =>
      change Replied request (.listed path listing) world.metrics after.metrics at hCounted
      cases hUndated : listing.undated? with
      | none =>
          have hSame : dated (.listed path listing) = .ok (.listed path listing) := by simp [dated, hUndated]
          rw [hSame]
          exact hCounted
      | some fault =>
          have hFault : dated (.listed path listing) = .error (.undated fault) := by simp [dated, hUndated]
          have hMode : (Reply.listed path listing).mode ≠ "write" := by simp [Reply.mode]
          unfold Replied at hCounted
          rw [hFault]
          refine ⟨by simp, ?_⟩
          cases hContents : request.contents with
          | some text =>
              rw [hContents] at hCounted
              exact absurd hCounted.1 hMode
          | none =>
              rw [hContents] at hCounted
              exact hCounted.2

/-- A demand is undertaken once the root has been found. -/
theorem undertake_eq_undertakeBelow (s : Setting) (demand : Demand) :
    undertake s demand = ConfigRoot.resolve s >>= undertakeBelow s demand := by
  unfold undertake undertakeBelow
  cases demand.torn? with
  | some contents =>
      simp only [refuse, target, bind_assoc, pure_bind]
      rfl
  | none =>
      rw [perform_eq_below, bind_assoc]

theorem counts_undertakeBelow (demand : Demand) (root : Path) :
    Counts (Replied demand.request) (undertakeBelow s demand root) := by
  unfold undertakeBelow
  cases demand.torn? with
  | some contents => exact counts_refuseBelow demand.request contents root
  | none => exact counts_dated (counts_below demand.request root)

/-- What a call adds to the counters is told by its result, and it is the search for the root that finds
that there is none. -/
theorem books_of_call (s : Setting) (demand : Demand) (world : World) :
    Books demand.request world.metrics (attempt (call s demand) world).1
        (attempt (call s demand) world).2.metrics ∧
      ((attempt (call s demand) world).1 = .error .noRoot ↔
        ConfigRoot.current s world = .error .noRoot) := by
  obtain ⟨hRoot, hSearch⟩ := attempt_resolve_metrics s world
  rw [call, attempt_counted, ← hRoot]
  dsimp only
  rw [undertake_eq_undertakeBelow, attempt_bind]
  rcases hRun : attempt (ConfigRoot.resolve s) world with ⟨failure | root, middle⟩ <;>
    rw [hRun] at hRoot hSearch <;> have hSame : middle.metrics = world.metrics := hSearch
  · refine ⟨?_, by simp⟩
    dsimp only
    rw [attempt_count_eq, hSame]
    rcases ConfigRoot.current_error hRoot.symm with rfl | hStatus
    · exact .rootless
    · rw [series?, outcome?, hStatus]
      exact .surprise hStatus
  · have hBelow := counts_undertakeBelow (s := s) demand root middle
    rw [hSame] at hBelow
    rcases hRest : attempt (undertakeBelow s demand root) middle with ⟨result, after⟩
    rw [hRest] at hBelow
    dsimp only
    rw [hRest]
    obtain ⟨hBooks, hFound⟩ := Books.of_counted hBelow
    exact ⟨hBooks, iff_of_false hFound (by simp)⟩

end Access

end ConfigGate
