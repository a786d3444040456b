import ConfigGate.Access.Lookup
import ConfigGate.Proofs.Access.Counting
import ConfigGate.Proofs.Access.Spelling

/-! The two checks for hidden files. One answers a question and the other judges a request, each with tests of
its own, and still they have one verdict. The lookup asks the first one and then the second, so that it is
never rejected as hidden. -/
namespace ConfigGate

open Act

variable {α β : Type} {s : Setting} {tree : Tree} {world : World} {root : Path} {requested : String}
  {failure : Failure}

namespace Guard

/-- The question is answered by the verdict. -/
def hiddenIn : Except Failure Path → Except Failure Bool
  | .ok _ => .ok false
  | .error (.rejected reason _) => .ok (reason = .hidden)
  | .error failure => .error failure

theorem isHidden_eq_hiddenIn (s : Setting) (root : Path) (requested : String) (tree : Tree) :
    isHidden s root requested tree = hiddenIn (verdict s root requested tree) := by
  unfold isHidden verdict
  dsimp only
  -- Both checks make the tests in this order, the second one with more outcomes.
  cases s.service.hidden.hides (withForwardSlashes requested) with
  | true => rfl
  | false =>
      cases hasTraversal (withForwardSlashes requested).toList with
      | true => rfl
      | false =>
          cases hasNul (withForwardSlashes requested) with
          | true => rfl
          | false =>
              cases hRelative : canonicalRelative s (root.join (Path.parse (withForwardSlashes requested)))
                root tree with
              | error failure =>
                  have hLoss := canonicalRelative_error hRelative
                  cases hLoss <;> rfl
              | ok relative =>
                  cases relative with
                  | none => rfl
                  | some parts =>
                      cases hHidden : s.service.hidden.hides (Path.relativeText parts) <;>
                        simp [Except.map, hiddenIn, hHidden]

theorem isHidden_eq_true : isHidden s root requested tree = .ok true ↔
    verdict s root requested tree = .error (.rejected .hidden (withForwardSlashes requested)) := by
  rw [isHidden_eq_hiddenIn]
  cases hVerdict : verdict s root requested tree with
  | ok path => simp [hiddenIn]
  | error failure =>
      rcases verdict_error hVerdict with hLoss | ⟨reason, rfl, -⟩
      · cases hLoss <;> simp [hiddenIn]
      · simp [hiddenIn]

end Guard

namespace Lookup

/-- What the lookup makes of the text of an admitted file, or of the trouble with it. -/
def settle (file : String) : Except Trouble String → Act String
  | .ok text => return text
  | .error (.system e) =>
    if e.errno = .noEntry then do
      Act.log (.lookupMissing file)
      return ""
    else do
      Act.log (.lookupFailed file e.message e.record)
      throw .internal
  | .error trouble => do
    Act.log (.lookupFailed file trouble.message trouble.record)
    throw .internal

/-- The lookup with any way to read a file. -/
def contentsBy (s : Setting) (readAt : Path → Tree → Except Trouble String) (root : Path) (file : String) :
    Act String := do
  if ← Act.ask fun world => Guard.isHidden s root file world.tree then
    Act.log (.lookupHidden file)
    return ""
  let target ← Guard.check s root file
  settle file (readAt target (← get).tree)

theorem contents_eq_contentsBy (s : Setting) (root : Path) (file : String) :
    contents s root file = contentsBy s (textAt s) root file := rfl

variable {readAt : Path → Tree → Except Trouble String} {file : String}

theorem settle_error {result : Except Trouble String} (h : (attempt (settle file result) world).1 = .error failure) :
    failure = .internal := by
  unfold settle at h
  split at h
  · cases h
  · split at h <;> cases h
    rfl
  · cases h
    rfl

theorem settle_metrics (file : String) (result : Except Trouble String) (world : World) :
    (attempt (settle file result) world).2.metrics = world.metrics := by
  unfold settle
  split
  · rfl
  · split <;> rfl
  · rfl

/-- The lookup goes by the verdict, and only what has been admitted is read. -/
theorem attempt_contentsBy (readAt : Path → Tree → Except Trouble String) (root : Path) (file : String)
    (world : World) :
    attempt (contentsBy s readAt root file) world =
      match Guard.verdict s root file world.tree with
      | .ok target => attempt (settle file (readAt target world.tree)) world
      | .error (.rejected .hidden _) => (.ok "", world.log (.lookupHidden file))
      | .error failure => (.error failure, Guard.recorded world (.error failure)) := by
  unfold contentsBy
  rw [attempt_bind, attempt_ask, Guard.isHidden_eq_hiddenIn]
  cases hVerdict : Guard.verdict s root file world.tree with
  | ok target =>
      have hCheck : attempt (Guard.check s root file) world = (.ok target, world) := by
        rw [Guard.attempt_check_eq, hVerdict]
        rfl
      simp only [Guard.hiddenIn, Bool.false_eq_true, if_false]
      rw [attempt_bind_of_ok hCheck, attempt_bind, attempt_get]
  | error failure =>
      rcases Guard.verdict_error hVerdict with hLoss | ⟨reason, rfl, -⟩
      · cases hLoss <;> rfl
      · have hCheck := Guard.attempt_check_eq s root file world
        rw [hVerdict] at hCheck
        cases reason with
        | hidden => rfl
        | _ =>
            simp only [Guard.hiddenIn, reduceCtorEq, decide_false, Bool.false_eq_true, if_false]
            rw [attempt_bind_of_error hCheck]

/-- What has not been admitted is told as the guard tells it, except that nothing is said of a hidden file. -/
theorem contentsBy_error (h : (attempt (contentsBy s readAt root file) world).1 = .error failure) :
    failure = .internal ∨ Setting.TellsLoss failure ∨
      ∃ reason, reason ≠ .hidden ∧ failure = .rejected reason (withForwardSlashes file) := by
  rw [attempt_contentsBy] at h
  cases hVerdict : Guard.verdict s root file world.tree with
  | ok target =>
      rw [hVerdict] at h
      exact .inl (settle_error h)
  | error other =>
      rw [hVerdict] at h
      rcases Guard.verdict_error hVerdict with hLoss | ⟨reason, rfl, -⟩
      · cases hLoss <;> cases h
        · exact .inr (.inl (.looped _))
        · exact .inr (.inl .tooDeep)
      · cases reason with
        | hidden => cases h
        | _ =>
            cases h
            exact .inr (.inr ⟨_, by simp, rfl⟩)

end Lookup

/-! What is rejected by an access that has found its root -/

namespace Act

/-- The part of an access never fails as one that is forbidden. -/
def Permits (act : Act α) : Prop :=
  ∀ world failure, (attempt act world).1 = .error failure → failure.status? ≠ some 403

theorem permits_pure (a : α) : Permits (pure a : Act α) := by
  intro world failure h
  cases h

theorem permits_throw (h : failure.status? ≠ some 403) : Permits (throw failure : Act α) := by
  intro world other hThrown
  cases hThrown
  exact h

theorem permits_get : Permits (get : Act World) := by
  intro world failure h
  cases h

theorem permits_log (event : Log.Event) : Permits (log event) := by
  intro world failure h
  cases h

theorem permits_ask {f : World → Except Failure α}
    (h : ∀ {world failure}, f world = .error failure → failure.status? ≠ some 403) : Permits (ask f) := by
  intro world failure hAsked
  rw [attempt_ask] at hAsked
  exact h hAsked

theorem Permits.bind {act : Act α} {next : α → Act β} (h : Permits act) (hNext : ∀ a, Permits (next a)) :
    Permits (act >>= next) := by
  intro world failure hFailed
  rw [attempt_bind] at hFailed
  split at hFailed
  · rename_i a middle hAct
    exact hNext a middle failure hFailed
  · rename_i other middle hAct
    rw [Except.error.injEq] at hFailed
    exact hFailed ▸ h world other (congrArg Prod.fst hAct)

end Act

theorem Write.permits_file (target : Path) (contents : String) : Permits (file s target contents) := by
  intro world failure h
  rcases file_cases (attempt_eq_of_result h) with
    ⟨_, hPrepared, hFailure, _⟩ | ⟨_, _, _, outcome, _, _, _, hFailure, _⟩
  · cases hFailure
    exact prepared_error hPrepared
  · cases outcome with
    | ok done => cases hFailure
    | error e =>
        cases hFailure
        simp [Failure.status?]

theorem Stream.permits_ofPath (p : Path) : Permits (ofPath s p) := by
  unfold ofPath
  split
  · exact permits_throw (by simp [Failure.status?])
  · refine permits_get.bind fun world => ?_
    unfold start
    cases opened s p world.tree with
    | error e => exact (permits_log _).bind fun _ => permits_throw (by simp [Failure.status?])
    | ok number =>
        intro world failure h
        cases h

theorem Listing.permits_list (directory root : Path) : Permits (list s directory root) := by
  rw [list_eq]
  split
  · exact permits_throw (by simp [Failure.status?])
  · split
    · exact permits_throw (by simp [Failure.status?])
    · refine permits_get.bind fun world => ?_
      split
      · exact (permits_log _).bind fun _ => permits_throw (by simp [Failure.status?])
      · exact permits_pure _

theorem Guard.decision_rejected_iff {reason : Rejection} {file : String} :
    decision s root (some requested) tree = .error (.rejected reason file) ↔
      verdict s root requested tree = .error (.rejected reason file) := by
  change verdict s root requested tree >>= (shown s · tree) = _ ↔ _
  cases verdict s root requested tree with
  | error failure => exact Iff.rfl
  | ok target =>
      refine iff_of_false (fun hShown => ?_) (by simp)
      exact shown_error hShown rfl

namespace Access

/-- Below the root an access is rejected exactly if the guard rejects its request. -/
theorem below_rejected_iff {contents : Option String} {reason : Rejection} {file : String} :
    (attempt (below s ⟨some requested, contents⟩ root) world).1 = .error (.rejected reason file) ↔
      Guard.verdict s root requested world.tree = .error (.rejected reason file) := by
  rw [← Guard.decision_rejected_iff, ← (Guard.attempt_resolve root (some requested) world).1]
  unfold below
  rw [attempt_bind]
  rcases attempt (Guard.resolve s root (some requested)) world with ⟨failure | target, middle⟩
  · simp
  · refine iff_of_false (fun hRejected => ?_) (by simp)
    refine (?_ : Permits _) middle _ hRejected rfl
    cases contents with
    | some text => exact (Write.permits_file target text).bind fun _ => permits_pure _
    | none =>
        have hLook : Permits (ask fun world => s.isDirectory target world.tree) :=
          permits_ask fun h => by simp [Setting.isDirectory_error h]
        refine hLook.bind fun isDirectory => ?_
        cases isDirectory with
        | true => exact (Listing.permits_list target root).bind fun _ => permits_pure _
        | false => exact (Stream.permits_ofPath target).bind fun _ => permits_pure _

/-- Where there is a root, an access is rejected exactly if the guard rejects its request. -/
theorem handle_rejected_iff (hRoot : (attempt (ConfigRoot.resolve s) world).1 = .ok root)
    (contents : Option String) (reason : Rejection) (file : String) :
    (attempt (handle s ⟨some requested, contents⟩) world).1 = .error (.rejected reason file) ↔
      Guard.verdict s root requested world.tree = .error (.rejected reason file) := by
  have hTree := (ConfigRoot.quiet_resolve (s := s) world).tree
  rw [attempt_handle, perform_eq_below]
  dsimp only
  rw [attempt_bind_of_ok (attempt_eq_of_result hRoot), below_rejected_iff, hTree]

end Access

/-! The one verdict -/

/-- The failure tells that something can not be accessed. -/
def Failure.DeniesAccess (failure : Failure) : Prop :=
  "Can not access".toList <+: failure.message.toList

namespace Lookup

variable {readAt : Path → Tree → Except Trouble String} {file : String}

theorem contentsBy_not_denied (h : (attempt (contentsBy s readAt root file) world).1 = .error failure) :
    ¬ failure.DeniesAccess := by
  have hFirst {text rest : String} (hText : text.toList.head? ≠ some 'C') (hSome : text.toList ≠ []) :
      ¬ "Can not access".toList <+: (text ++ rest).toList := by
    rintro ⟨more, hMore⟩
    rw [String.toList_append] at hMore
    have hHead := congrArg List.head? hMore
    rw [List.head?_append_of_ne_nil _ hSome] at hHead
    exact hText hHead.symm
  unfold Failure.DeniesAccess
  rcases contentsBy_error h with rfl | hLoss | ⟨reason, hReason, rfl⟩
  · decide
  · cases hLoss with
    | looped path => exact hFirst (by decide) (by decide)
    | tooDeep => decide
  · cases reason with
    | hidden => exact absurd rfl hReason
    | traversal => exact hFirst (by decide) (by decide)
    | malformed => exact hFirst (by decide) (by decide)
    | escape => exact hFirst (by decide) (by decide)

theorem contentsBy_hidden_count (readAt : Path → Tree → Except Trouble String) (root : Path) (file : String)
    (world : World) :
    (attempt (contentsBy s readAt root file) world).2.metrics.rejections.lookup "hidden" =
      world.metrics.rejections.lookup "hidden" := by
  rw [attempt_contentsBy]
  cases hVerdict : Guard.verdict s root file world.tree with
  | ok target => exact congrArg (fun m : Metrics => m.rejections.lookup "hidden") (settle_metrics file _ world)
  | error failure =>
      rcases Guard.verdict_error hVerdict with hLoss | ⟨reason, rfl, -⟩
      · cases hLoss <;> rfl
      · cases reason with
        | hidden => rfl
        | _ =>
            refine (Keyed.lookup_assign ..).trans (if_neg ?_)
            decide

/-- The lookup gives nothing without a look at any file exactly if the guard rejects the request as hidden. -/
theorem unread_iff : (∀ readAt, (attempt (contentsBy s readAt root file) world).1 = .ok "") ↔
    Guard.RejectsHidden s root file world := by
  unfold Guard.RejectsHidden
  rw [(Guard.attempt_check root file world).1]
  constructor
  · intro hAll
    have h := hAll fun _ _ => .ok "x"
    rw [attempt_contentsBy] at h
    cases hVerdict : Guard.verdict s root file world.tree with
    | ok target =>
        rw [hVerdict] at h
        exact absurd (Except.ok.inj h) (by decide)
    | error failure =>
        rw [hVerdict] at h
        rcases Guard.verdict_error hVerdict with hLoss | ⟨reason, rfl, -⟩
        · cases hLoss <;> cases h
        · cases reason with
          | hidden => rfl
          | _ => cases h
  · intro hVerdict readAt
    rw [attempt_contentsBy, hVerdict]

/-- Another rejection is that of the guard, and is counted and logged in the same way. -/
theorem contentsBy_rejected_iff {reason : Rejection} {text : String} {after : World} :
    attempt (contentsBy s readAt root file) world = (.error (.rejected reason text), after) ↔
      reason ≠ .hidden ∧ attempt (Guard.check s root file) world = (.error (.rejected reason text), after) := by
  rw [attempt_contentsBy, Guard.attempt_check_eq]
  cases hVerdict : Guard.verdict s root file world.tree with
  | ok target =>
      refine iff_of_false (fun h => ?_) (by simp)
      have hSettled := settle_error (congrArg Prod.fst h)
      cases hSettled
  | error failure =>
      rcases Guard.verdict_error hVerdict with hLoss | ⟨reason, rfl, -⟩
      · cases hLoss <;> simp
      · cases reason <;> simp +contextual [eq_comm]

/-- The question whether a file is hidden has the answer that the guard gives when it judges the request. So the
lookup reads as empty, without a look at any file, what an access is rejected for as hidden. It is rejected
for another reason when the guard rejects the request for it, in the same way, and never as hidden. -/
theorem one_hidden_verdict (s : Setting) (root : Path) (requested : String) (world : World) :
    (Guard.isHidden s root requested world.tree = .ok true ↔
      ∃ failure, failure.family = "ForbiddenError" ∧
        failure.message = "Can not access: " ++ withForwardSlashes requested ∧
        attempt (Guard.check s root requested) world = (.error failure,
          { world with
            metrics := world.metrics.countRejection "hidden"
            events := world.events ++ [.accessRejected "hidden" (withForwardSlashes requested)] })) ∧
    contents s root requested = contentsBy s (textAt s) root requested ∧
    ((∀ readAt, (attempt (contentsBy s readAt root requested) world).1 = .ok "") ↔
      Guard.isHidden s root requested world.tree = .ok true) ∧
    ((attempt (ConfigRoot.resolve s) world).1 = .ok root → ∀ text,
      ((∀ readAt, (attempt (contentsBy s readAt root requested) world).1 = .ok "") ↔
        (attempt (Access.handle s ⟨some requested, text⟩) world).1 =
          .error (.rejected .hidden (withForwardSlashes requested)))) ∧
    (∀ reason file after,
      attempt (contents s root requested) world = (.error (.rejected reason file), after) ↔
        reason ≠ .hidden ∧ attempt (Guard.check s root requested) world = (.error (.rejected reason file), after)) ∧
    (∀ failure, (attempt (contents s root requested) world).1 = .error failure → ¬ failure.DeniesAccess) ∧
    (attempt (contents s root requested) world).2.metrics.rejections.lookup "hidden" =
      world.metrics.rejections.lookup "hidden" := by
  refine ⟨?_, contents_eq_contentsBy s root requested, ?_, ?_, ?_, ?_, ?_⟩
  · rw [Guard.isHidden_eq_true, Guard.attempt_check_eq]
    constructor
    · intro hVerdict
      rw [hVerdict]
      exact ⟨_, rfl, rfl, rfl⟩
    · rintro ⟨failure, hFamily, -, hCheck⟩
      obtain ⟨hVerdict, hRecorded⟩ := Prod.mk.inj hCheck
      rw [hVerdict] at hRecorded ⊢
      rcases Guard.verdict_error hVerdict with hLoss | ⟨reason, rfl, -⟩
      · exact absurd hFamily hLoss.family_ne
      · have hEvents := List.append_cancel_left (congrArg World.events hRecorded)
        cases reason with
        | hidden => rfl
        | _ => exact absurd (Log.Event.accessRejected.inj (List.cons.inj hEvents).1).1 (by decide)
  · rw [unread_iff, Guard.isHidden_eq_true, Guard.RejectsHidden, (Guard.attempt_check root requested world).1]
  · intro hRoot text
    rw [unread_iff, Guard.RejectsHidden, (Guard.attempt_check root requested world).1,
      Access.handle_rejected_iff hRoot]
  · intro reason file after
    exact contentsBy_rejected_iff
  · intro failure hFailed
    exact contentsBy_not_denied hFailed
  · exact contentsBy_hidden_count (textAt s) root requested world

/-- A link to a hidden file is hidden for the lookup as it is for an access. -/
theorem one_hidden_verdict_link :
    let s := (Access.plainSetting .atomic).withHidden (.ofList ["real.txt"])
    let root := Path.ofLocation ["conf"]
    let world := World.initial Access.linkedTree
    (attempt (ConfigRoot.resolve s) world).1 = .ok root ∧
      (∀ readAt, (attempt (contentsBy s readAt root "link.txt") world).1 = .ok "") ∧
      (attempt (Access.handle s ⟨some "link.txt", none⟩) world).1 = .error (.rejected .hidden "link.txt") := by
  intro s root world
  have hRoot : (attempt (ConfigRoot.resolve s) world).1 = .ok root := by decide
  have hHandle : (attempt (Access.handle s ⟨some "link.txt", none⟩) world).1 =
      .error (.rejected .hidden "link.txt") := by
    decide
  exact ⟨hRoot, ((one_hidden_verdict s root "link.txt" world).2.2.2.1 hRoot none).mpr hHandle, hHandle⟩

end Lookup

end ConfigGate
