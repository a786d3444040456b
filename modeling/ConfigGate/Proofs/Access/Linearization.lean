import ConfigGate.Proofs.Access.Stepping
import Mathlib.Data.List.Nodup

/-! Calls that run at the same time under the atomic strategy are as good as calls that are made one after
the other. The order is that of the history which is kept beside the run. It only grows at its end, so
that a call which was over before another one began stands before it. -/
namespace ConfigGate

open Act Tree

/-- Clients that have been served up to some point of a schedule. -/
def Clients.after (s : Setting) (base : Tree) (requests : List Request) (schedule : List Nat) :
    Clients :=
  (ofRequests requests (World.initial base)).run s schedule

/-- What the calls give one after the other. -/
def Access.inOrder (s : Setting) (base : Tree) (requests : List Request) (order : List Nat) :
    List Answer × World :=
  serveAll s (order.filterMap (requests[·]?)) (World.initial base)

/-- The calls of a run might as well have been made one after the other in this order. -/
structure IsLinearization (s : Setting) (base : Tree) (requests : List Request)
    (schedule order : List Nat) : Prop where
  /-- Every call is made once. -/
  complete : order.Perm (List.range requests.length)
  /-- Every client has got the answer that the order gives, up to the times in listings. -/
  answers : ∀ n i : Nat, order[n]? = some i → ∃ answer told : Answer,
    (Clients.after s base requests schedule).clients[i]? = some (Client.served answer) ∧
      (Access.inOrder s base requests order).1[n]? = some told ∧ answer.timeless = told.timeless
  /-- The tree looks the same in the end. -/
  tree : ∀ location, (Clients.after s base requests schedule).world.tree.node? location =
    (Access.inOrder s base requests order).2.tree.node? location
  /-- A call that is over before another one begins is made before it. -/
  inTime : ∀ (sooner later : List Nat) (i j : Nat), schedule = sooner ++ later →
    (Clients.after s base requests sooner).clients[i]?.any Client.hasReturned →
    (Clients.after s base requests sooner).clients[j]?.any Client.isReady →
    order.idxOf i < order.idxOf j

variable {s : Setting} {base : Tree} {requests : List Request}

/-! The history of a run -/

theorem Clients.step_eq {pool : Clients} {i : Nat} {client : Client}
    (h : pool.clients[i]? = some client) :
    pool.step s i = ⟨pool.clients.set i (client.step s i pool.world).1,
      (client.step s i pool.world).2⟩ := by
  unfold step
  rw [h]

theorem Adds.prefix {i : Nat} {history history' : List (Nat × Answer)} {alone alone' : World}
    (h : Adds s requests i history alone history' alone') : history <+: history' := by
  cases h with
  | nothing => exact List.prefix_refl _
  | answer => exact List.prefix_append _ _

namespace Linearized

variable {pool : Clients} {history : List (Nat × Answer)} {alone : World}

theorem start (wf : base.WellFormed) :
    Linearized s base requests (Clients.ofRequests requests (World.initial base)) []
      (World.initial base) where
  length := List.length_map _
  legal := rfl
  once := List.nodup_nil
  known := by simp
  kept := (steady_initial s wf).kept
  hosts := .refl wf
  shows _ := .inl rfl
  stands i client hClient := by
    rw [Clients.ofRequests, List.getElem?_map, Option.map_eq_some_iff] at hClient
    obtain ⟨request, hRequest, rfl⟩ := hClient
    exact .ready hRequest (by simp)

section

variable (hBase : IsOrdinary s base)
  (hNames : ∀ request ∈ requests, ¬ Access.NamesTemporary request)

include hBase hNames

theorem grow (h : Linearized s base requests pool history alone) (i : Nat) :
    ∃ history' alone', history <+: history' ∧
      Linearized s base requests (pool.step s i) history' alone' := by
  cases hClient : pool.clients[i]? with
  | none =>
      refine ⟨history, alone, List.prefix_refl _, ?_⟩
      rwa [Clients.step, hClient]
  | some client =>
      obtain ⟨history', alone', hAdds, hStep⟩ := h.step hBase hNames hClient
      rw [← Clients.step_eq hClient] at hStep
      exact ⟨history', alone', hAdds.prefix, hStep⟩

/-- The history grows at its end, whoever takes a step. That of any earlier moment is its beginning. -/
theorem run (h : Linearized s base requests pool history alone) (schedule : List Nat) :
    ∃ history' alone', Linearized s base requests (pool.run s schedule) history' alone' ∧
      ∀ sooner later, schedule = sooner ++ later → ∃ first alone'', history <+: first ∧
        first <+: history' ∧ Linearized s base requests (pool.run s sooner) first alone'' := by
  induction schedule generalizing pool history alone with
  | nil =>
      refine ⟨history, alone, h, ?_⟩
      intro sooner later hSplit
      obtain ⟨rfl, -⟩ := List.append_eq_nil_iff.mp hSplit.symm
      exact ⟨history, alone, List.prefix_refl _, List.prefix_refl _, h⟩
  | cons i rest ih =>
      obtain ⟨middle, alone', hPrefix, hMiddle⟩ := h.grow hBase hNames i
      obtain ⟨last, alone'', hLast, hEarlier⟩ := ih hMiddle
      refine ⟨last, alone'', hLast, ?_⟩
      rintro (_ | ⟨j, sooner⟩) later hSplit
      · obtain ⟨first, _, hMiddleFirst, hFirstLast, _⟩ := hEarlier [] rest rfl
        exact ⟨history, alone, List.prefix_refl _,
          hPrefix.trans (hMiddleFirst.trans hFirstLast), h⟩
      · obtain ⟨rfl, rfl⟩ := List.cons.inj hSplit
        obtain ⟨first, alone₁, hMiddleFirst, hFirstLast, hFirst⟩ := hEarlier sooner later rfl
        exact ⟨first, alone₁, hPrefix.trans hMiddleFirst, hFirstLast, hFirst⟩

end

/-- Whoever has returned is in the history. -/
theorem mem_of_hasReturned (h : Linearized s base requests pool history alone) {i : Nat}
    (hReturned : pool.clients[i]?.any Client.hasReturned) : i ∈ history.map Prod.fst := by
  obtain ⟨client, hClient, hIs⟩ := (Option.any_eq_true _ _).mp hReturned
  cases h.stands i client hClient with
  | receiving _ hDone _ => exact List.mem_map_of_mem hDone
  | served hDone _ => exact List.mem_map_of_mem hDone
  | _ => cases hIs

/-- Whoever has not begun is not in the history. -/
theorem notMem_of_isReady (h : Linearized s base requests pool history alone) {i : Nat}
    (hReady : pool.clients[i]?.any Client.isReady) : i ∉ history.map Prod.fst := by
  obtain ⟨client, hClient, hIs⟩ := (Option.any_eq_true _ _).mp hReady
  cases h.stands i client hClient with
  | ready _ hNew => exact hNew
  | _ => cases hIs

section

variable (h : Linearized s base requests pool history alone) (hServed : pool.areServed)

include h hServed

theorem served_of_lt {i : Nat} (hLt : i < requests.length) :
    ∃ answer told, pool.clients[i]? = some (.served answer) ∧ (i, told) ∈ history ∧
      answer.timeless = told.timeless := by
  obtain ⟨client, hClient⟩ : ∃ client, pool.clients[i]? = some client :=
    ⟨_, List.getElem?_eq_getElem (h.length.symm ▸ hLt)⟩
  have hIs := List.all_eq_true.mp hServed client (List.mem_of_getElem? hClient)
  cases h.stands i client hClient with
  | @served answer told hDone hSame => exact ⟨answer, told, hClient, hDone, hSame⟩
  | _ => cases hIs

theorem perm_range : (history.map Prod.fst).Perm (List.range requests.length) := by
  rw [List.perm_ext_iff_of_nodup h.once List.nodup_range]
  intro i
  rw [List.mem_range]
  constructor
  · exact h.known i
  · intro hLt
    obtain ⟨_, _, _, hDone, _⟩ := h.served_of_lt hServed hLt
    exact List.mem_map_of_mem hDone

/-- Without private files both trees look the same. -/
theorem node?_eq (location : Location) :
    pool.world.tree.node? location = alone.tree.node? location := by
  rcases h.shows location with hSame | ⟨i, client, path, hClient, hPrivate, _⟩
  · exact hSame
  · have hIs := List.all_eq_true.mp hServed client (List.mem_of_getElem? hClient)
    cases client with
    | served => cases hPrivate
    | _ => cases hIs

end

end Linearized

/-! Answers -/

/-- Listings that differ in times alone have entries of the same names. -/
theorem Listing.mem_of_timeless {listing other : Listing} (h : listing.timeless = other.timeless)
    {entry : ListedEntry} (hMem : entry ∈ listing.entries) :
    ∃ same ∈ other.entries, same.name = entry.name := by
  have hEntries := congrArg Listing.entries h
  dsimp only [Listing.timeless] at hEntries
  have hThere : entry.timeless ∈ other.entries.map ListedEntry.timeless :=
    hEntries ▸ List.mem_map_of_mem hMem
  obtain ⟨same, hSame, hEntry⟩ := List.mem_map.mp hThere
  exact ⟨same, hSame, (ListedEntry.mk.inj hEntry).1⟩

namespace Access

variable {request : Request} {world after : World} {path : Path}

theorem serveAll_append (first second : List Request) (world : World) :
    serveAll s (first ++ second) world =
      ((serveAll s first world).1 ++ (serveAll s second (serveAll s first world).2).1,
        (serveAll s second (serveAll s first world).2).2) := by
  induction first generalizing world with
  | nil => rfl
  | cons request rest ih => simp only [List.cons_append, serveAll, ih]

theorem length_serveAll (requests : List Request) (world : World) :
    (serveAll s requests world).1.length = requests.length := by
  induction requests generalizing world with
  | nil => rfl
  | cons request rest ih => simp only [serveAll, List.length_cons, ih]

section

variable (hBase : IsOrdinary s base) (hSteady : Steady s base world)
  (hName : ¬ NamesTemporary request)

include hBase hSteady hName

/-- An answer without a failure carries out the plan. -/
theorem plan_of_serve {answer : Answer} (h : serve s request world = (answer, after))
    (hAnswer : ∀ failure, answer ≠ .failed failure) :
    (∃ path key text, plan s request base = .ok (.write path key text) ∧
        answer = .written path text) ∨
      (∃ path root listing, plan s request base = .ok (.list path root) ∧
        Listing.listed s path root world.tree = .ok listing ∧ answer = .listed path listing) ∨
      ∃ path mode bytes, plan s request base = .ok (.read path) ∧
        world.tree.node? (path.place s.site.working) = some (.file mode bytes) ∧
        answer = .received path ⟨Stream.chunksOf Stream.chunkSize bytes, none⟩ := by
  cases hPlan : plan s request base with
  | error failure =>
      obtain ⟨_, hServe, _⟩ := serve_rejected hBase hSteady hName hPlan
      cases hServe.symm.trans h
      exact absurd rfl (hAnswer _)
  | ok made =>
      cases made with
      | write path key text =>
          by_cases hCan : WriteStage.CanCreate s.site.working path base
          · obtain ⟨_, _, _, hServe, _⟩ := serve_write hBase hSteady hName hPlan hCan
            cases hServe.symm.trans h
            exact .inl ⟨path, key, text, rfl, rfl⟩
          · obtain ⟨_, hServe, _⟩ := serve_refused hBase hSteady hName hPlan hCan
            cases hServe.symm.trans h
            exact absurd rfl (hAnswer _)
      | list path root =>
          obtain ⟨_, hServe, _⟩ := serve_list hBase hSteady hName hPlan
          have hSame := congrArg Prod.fst (hServe.symm.trans h)
          cases hListed : Listing.listed s path root world.tree with
          | error failure =>
              rw [hListed] at hSame
              exact absurd hSame.symm (hAnswer _)
          | ok listing =>
              rw [hListed] at hSame
              exact .inr (.inl ⟨path, root, listing, rfl, hListed, hSame.symm⟩)
      | read path =>
          obtain ⟨mode, bytes, _, hNode, hServe, _⟩ := serve_read hBase hSteady hName hPlan
          cases hServe.symm.trans h
          exact .inr (.inr ⟨path, mode, bytes, rfl, hNode, rfl⟩)

/-- What a client has received is the file as it stood when the call was made. -/
theorem serve_received {drained : Drained}
    (h : serve s request world = (.received path drained, after)) :
    drained.error = none ∧ ∃ mode, world.tree.node? (path.place s.site.working) =
      some (.file mode drained.bytes) := by
  rcases plan_of_serve hBase hSteady hName h (by simp) with
    ⟨_, _, _, _, hAnswer⟩ | ⟨_, _, _, _, _, hAnswer⟩ | ⟨_, mode, bytes, _, hNode, hAnswer⟩
  · cases hAnswer
  · cases hAnswer
  · cases hAnswer
    refine ⟨rfl, mode, ?_⟩
    rw [hNode, Drained.bytes, Stream.flatten_chunksOf Stream.chunkSize_pos]

/-- No private file is listed. -/
theorem serve_listed {listing : Listing}
    (h : serve s request world = (.listed path listing, after)) :
    ∀ entry ∈ listing.entries, ¬ WriteStage.IsTemporaryName entry.name := by
  rcases plan_of_serve hBase hSteady hName h (by simp) with
    ⟨_, _, _, _, hAnswer⟩ | ⟨_, _, _, _, hListed, hAnswer⟩ | ⟨_, _, _, _, _, hAnswer⟩
  · cases hAnswer
  · cases hAnswer
    rintro entry hMem ⟨target, n, hEntry⟩
    have hDot := Listing.isDotName_of_listed hListed hMem
    rw [hEntry, WriteStage.isDotName_temporaryName] at hDot
    cases hDot
  · cases hAnswer

end

end Access

namespace Linearized

variable {pool : Clients} {history : List (Nat × Answer)} {alone : World} {i : Nat} {told : Answer}

/-- An answer of the history is the one that the call gives after all calls before it. -/
theorem serve_at (h : Linearized s base requests pool history alone)
    {before later : List (Nat × Answer)} (hHistory : history = before ++ (i, told) :: later) :
    ∃ request after, requests[i]? = some request ∧
      Access.serve s request (Access.inOrder s base requests (before.map Prod.fst)).2 =
        (told, after) := by
  have hKnown {j : Nat} (hMem : j ∈ history.map Prod.fst) : (requests[j]?).isSome := by
    simpa using h.known j hMem
  subst hHistory
  obtain ⟨request, hRequest⟩ := Option.isSome_iff_exists.mp (hKnown (j := i) (by simp))
  have hCount : (before.filterMap fun entry => requests[entry.1]?).length = before.length := by
    rw [List.length_filterMap_eq_countP, List.countP_eq_length]
    intro entry hMem
    exact hKnown (List.mem_map_of_mem (List.mem_append_left _ hMem))
  have hLegal := h.legal
  rw [List.filterMap_append, List.filterMap_cons] at hLegal
  dsimp only at hLegal
  rw [hRequest, Access.serveAll_append, List.map_append, List.map_cons, Prod.mk.injEq] at hLegal
  obtain ⟨hBefore, hRest⟩ := List.append_inj hLegal.1
    (by rw [Access.length_serveAll, hCount, List.length_map])
  refine ⟨request, _, hRequest, Prod.ext ?_ rfl⟩
  rw [Access.inOrder, List.filterMap_map]
  exact (List.cons.inj hRest).1

section

variable (hServed : pool.areServed)

include hServed

/-- Every answer is the one that the call gives in the order of the history. -/
theorem answers_eq (h : Linearized s base requests pool history alone) {client : Client}
    (hClient : pool.clients[i]? = some client) :
    ∃ (answer told : Answer) (before later : List (Nat × Answer)),
      client = .served answer ∧ history = before ++ (i, told) :: later ∧
        answer.timeless = told.timeless := by
  have hLt : i < requests.length := h.length ▸ (List.getElem?_eq_some_iff.mp hClient).1
  obtain ⟨answer, told, hAnswer, hDone, hSame⟩ := h.served_of_lt hServed hLt
  obtain ⟨before, later, hHistory⟩ := List.append_of_mem hDone
  cases hClient.symm.trans hAnswer
  exact ⟨answer, told, before, later, rfl, hHistory, hSame⟩

end

end Linearized

namespace Access

theorem isLinearization_of_linearized {schedule : List Nat} {history : List (Nat × Answer)}
    {alone : World}
    (h : Linearized s base requests (Clients.after s base requests schedule) history alone)
    (hServed : (Clients.after s base requests schedule).areServed)
    (hGrows : ∀ sooner later, schedule = sooner ++ later → ∃ history' alone', history' <+: history ∧
      Linearized s base requests (Clients.after s base requests sooner) history' alone') :
    IsLinearization s base requests schedule (history.map Prod.fst) := by
  have hLegal : inOrder s base requests (history.map Prod.fst) = (history.map Prod.snd, alone) := by
    rw [inOrder, List.filterMap_map]
    exact h.legal
  refine ⟨h.perm_range hServed, ?_, ?_, ?_⟩
  · intro n i hOrder
    rw [List.getElem?_map, Option.map_eq_some_iff] at hOrder
    obtain ⟨⟨_, told⟩, hEntry, rfl⟩ := hOrder
    have hMem := List.mem_of_getElem? hEntry
    obtain ⟨answer, other, hClient, hDone, hSame⟩ :=
      h.served_of_lt hServed (h.known _ (List.mem_map_of_mem hMem))
    have hTold : other = told := by
      have hUnique := List.inj_on_of_nodup_map h.once hDone hMem rfl
      cases hUnique
      rfl
    rw [hLegal]
    exact ⟨answer, told, hClient, by simp [hEntry], hTold ▸ hSame⟩
  · intro location
    rw [hLegal]
    exact h.node?_eq hServed location
  · intro sooner later i j hSchedule hReturned hReady
    obtain ⟨first, _, ⟨rest, rfl⟩, hFirst⟩ := hGrows sooner later hSchedule
    have hMem := hFirst.mem_of_hasReturned hReturned
    have hNew := hFirst.notMem_of_isReady hReady
    rw [List.map_append, List.idxOf_append_of_mem hMem, List.idxOf_append_of_notMem hNew]
    exact Nat.lt_of_lt_of_le (List.idxOf_lt_length_of_mem hMem) (Nat.le_add_right _ _)

section

variable (hBase : IsOrdinary s base) (hNames : ∀ request ∈ requests, ¬ NamesTemporary request)

include hBase hNames

theorem steady_inOrder (order : List Nat) : Steady s base (inOrder s base requests order).2 := by
  refine serveAll_steady hBase ?_ (steady_initial s hBase.wf)
  intro request hMem
  obtain ⟨_, _, hRequest⟩ := List.mem_filterMap.mp hMem
  exact hNames request (List.mem_of_getElem? hRequest)

theorem linearized_after (schedule : List Nat) :
    ∃ history alone, Linearized s base requests (Clients.after s base requests schedule) history alone ∧
      ∀ sooner later, schedule = sooner ++ later → ∃ history' alone', history' <+: history ∧
        Linearized s base requests (Clients.after s base requests sooner) history' alone' := by
  obtain ⟨history, alone, h, hEarlier⟩ := (Linearized.start hBase.wf).run hBase hNames schedule
  refine ⟨history, alone, h, ?_⟩
  intro sooner later hSplit
  obtain ⟨first, alone', _, hPrefix, hFirst⟩ := hEarlier sooner later hSplit
  exact ⟨first, alone', hPrefix, hFirst⟩

end

/-- A configuration directory with one file. -/
def plainTree : Tree where
  entries := [(["conf"], .directory 0o755 .recent), (["conf", "real.txt"], .file 0)]
  files := [(0, ⟨0o644, [0x6f, 0x6c, 0x64], .recent⟩)]
  nextFile := 1

/-- A write, a read of the same file, and a listing of its directory. -/
def plainRequests : List Request :=
  [⟨some "real.txt", some "new"⟩, ⟨some "real.txt", none⟩, ⟨some ".", none⟩]

end Access

end ConfigGate
