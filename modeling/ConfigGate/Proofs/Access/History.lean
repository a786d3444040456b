import ConfigGate.Proofs.Access.Interference
import Mathlib.Data.List.Nodup

/-! Clients that are served at the same time might as well be served one after the other. A history is
kept beside the run: a call enters it at the step that decides its answer. For a write this is the step
that puts the private file in the place of the target, for the reading of a file the step that opens it,
and for all else the step that gives the answer. What the calls of the history do one after the other
gives the same answers, and leaves a tree that looks the same up to private files. -/
namespace ConfigGate

open Act Tree

namespace Answer

/-- An answer without times. -/
def timeless : Answer → Answer
  | .listed path listing => .listed path listing.timeless
  | answer => answer

end Answer

namespace Client

/-- The private file of the client, if it has one. -/
def private? : Client → Option Path
  | .calling (.writing _ _ _ _ stage) => stage.temporary?
  | _ => none

end Client

variable {s : Setting} {base : Tree} {requests : List Request}

/-- How a client stands to the history. Before its call has entered the history its plan is the one that
the first tree gives; after it the client gets the answer that the history has, or has got it. -/
inductive Stands (s : Setting) (base : Tree) (requests : List Request) (world : World)
    (history : List (Nat × Answer)) (i : Nat) : Client → Prop where
  | ready {request : Request} (hRequest : requests[i]? = some request)
      (hNew : i ∉ history.map Prod.fst) :
      Stands s base requests world history i (.calling (.ready request))
  | waiting {request : Request} {path : Path} {key : Location} {text : String}
      (hRequest : requests[i]? = some request) (hNew : i ∉ history.map Prod.fst)
      (hRoot : world.root.isSome)
      (hPlan : Access.plan s request base = .ok (.write path key text)) :
      Stands s base requests world history i
        (.calling (.waiting request path key (Text.Utf8.encode text)))
  | writing {request : Request} {path : Path} {key : Location} {text : String}
      {stage : WriteStage} {n number : Nat} (hRequest : requests[i]? = some request)
      (hNew : i ∉ history.map Prod.fst) (hRoot : world.root.isSome)
      (hPlan : Access.plan s request base = .ok (.write path key text))
      (hHolds : world.locks.holder? key = some i)
      (hUnderway : WriteStage.Underway s base world.tree path (Text.Utf8.encode text) stage n number) :
      Stands s base requests world history i
        (.calling (.writing request path key (Text.Utf8.encode text) stage))
  | settled {request : Request} {path : Path} {key : Location} {bytes : Bytes} {text : String}
      {file : Option Nat}
      (hText : request.contents = some text) (hDone : (i, .written path text) ∈ history) :
      Stands s base requests world history i
        (.calling (.settled request path key bytes file (.ok ())))
  | opening {request : Request} {path : Path} (hRequest : requests[i]? = some request)
      (hNew : i ∉ history.map Prod.fst) (hPlan : Access.plan s request base = .ok (.read path)) :
      Stands s base requests world history i (.calling (.opening request path))
  | opened {request : Request} {path : Path} {file : Nat} {bytes : Bytes}
      (hReads : Reads base world.tree file bytes)
      (hDone : (i, .received path ⟨Stream.chunksOf Stream.chunkSize bytes, none⟩) ∈ history) :
      Stands s base requests world history i (.calling (.opened request path (.ok file)))
  | receiving {stream : Stream} {found : List Bytes} {bytes : Bytes}
      (hReads : Reads base world.tree stream.file bytes)
      (hDone : (i, .received stream.path ⟨Stream.chunksOf Stream.chunkSize bytes, none⟩) ∈ history)
      (hFound : found.reverse ++
          Stream.chunksOf Stream.chunkSize (bytes.drop found.flatten.length) =
        Stream.chunksOf Stream.chunkSize bytes) :
      Stands s base requests world history i (.receiving stream found)
  | served {answer told : Answer} (hDone : (i, told) ∈ history)
      (hSame : answer.timeless = told.timeless) :
      Stands s base requests world history i (.served answer)

/-- A step of the client `i` adds nothing to the history, or what its call gives after all others. -/
inductive Adds (s : Setting) (requests : List Request) (i : Nat) (history : List (Nat × Answer))
    (alone : World) : List (Nat × Answer) → World → Prop where
  | nothing : Adds s requests i history alone history alone
  | answer {request : Request} {answer : Answer} {after : World}
      (hRequest : requests[i]? = some request) (hNew : i ∉ history.map Prod.fst)
      (hServe : Access.serve s request alone = (answer, after)) :
      Adds s requests i history alone (history ++ [(i, answer)]) after

namespace Adds

variable {i j : Nat} {history history' : List (Nat × Answer)} {alone alone' : World}

theorem mem (h : Adds s requests i history alone history' alone') {entry : Nat × Answer}
    (hMem : entry ∈ history) : entry ∈ history' := by
  cases h with
  | nothing => exact hMem
  | answer => exact List.mem_append_left _ hMem

theorem new (h : Adds s requests i history alone history' alone') (hNe : j ≠ i)
    (hNew : j ∉ history.map Prod.fst) : j ∉ history'.map Prod.fst := by
  cases h with
  | nothing => exact hNew
  | answer => simp [hNe, List.mem_map] at hNew ⊢; exact hNew

theorem legal (h : Adds s requests i history alone history' alone') {world : World}
    (hLegal : Access.serveAll s (history.filterMap fun (i, _) => requests[i]?) world =
      (history.map Prod.snd, alone)) :
    Access.serveAll s (history'.filterMap fun (i, _) => requests[i]?) world =
      (history'.map Prod.snd, alone') := by
  cases h with
  | nothing => exact hLegal
  | answer hRequest _ hServe =>
      rw [List.filterMap_append, List.map_append]
      simpa [hRequest] using Access.serveAll_concat hLegal hServe

theorem once (h : Adds s requests i history alone history' alone')
    (hOnce : (history.map Prod.fst).Nodup) : (history'.map Prod.fst).Nodup := by
  cases h with
  | nothing => exact hOnce
  | answer _ hNew _ =>
      rw [List.map_append, List.map_singleton, ← List.concat_eq_append, List.nodup_concat]
      exact ⟨hNew, hOnce⟩

theorem known (h : Adds s requests i history alone history' alone')
    (hKnown : ∀ j ∈ history.map Prod.fst, j < requests.length) :
    ∀ j ∈ history'.map Prod.fst, j < requests.length := by
  cases h with
  | nothing => exact hKnown
  | answer hRequest _ _ =>
      intro j hMem
      rw [List.map_append, List.mem_append, List.map_singleton, List.mem_singleton] at hMem
      rcases hMem with hMem | rfl
      · exact hKnown j hMem
      · exact (List.getElem?_eq_some_iff.mp hRequest).1

end Adds

/-- What is open to a client stays open to it when others take a step. -/
theorem Stands.of_leaves {world world' : World} {history history' : List (Nat × Answer)}
    {alone alone' : World} {i j : Nat} {client : Client} (hBase : IsOrdinary s base)
    (h : Stands s base requests world history j client) (hNe : j ≠ i)
    (hLeaves : Leaves s base i world world')
    (hAdds : Adds s requests i history alone history' alone') :
    Stands s base requests world' history' j client := by
  cases h with
  | ready hRequest hNew => exact .ready hRequest (hAdds.new hNe hNew)
  | waiting hRequest hNew hRoot hPlan =>
      exact .waiting hRequest (hAdds.new hNe hNew) (hLeaves.root hRoot) hPlan
  | writing hRequest hNew hRoot hPlan hHolds hUnderway =>
      obtain ⟨_, rfl, _⟩ := Access.isTarget_of_write hBase.working hBase.linkless hPlan
      exact .writing hRequest (hAdds.new hNe hNew) (hLeaves.root hRoot) hPlan (hLeaves.holders _ j hNe hHolds)
        (hLeaves.writers j _ _ _ _ _ hNe hHolds hUnderway)
  | settled hText hDone => exact .settled hText (hAdds.mem hDone)
  | opening hRequest hNew hPlan => exact .opening hRequest (hAdds.new hNe hNew) hPlan
  | opened hReads hDone => exact .opened (hLeaves.readers _ _ hReads) (hAdds.mem hDone)
  | receiving hReads hDone hFound =>
      exact .receiving (hLeaves.readers _ _ hReads) (hAdds.mem hDone) hFound
  | served hDone hSame => exact .served (hAdds.mem hDone) hSame

/-- A private file belongs to a write that is under way and holds its lock. -/
theorem Stands.isUnderway {world : World} {history : List (Nat × Answer)} {i : Nat}
    {client : Client} {temporary : Path} (hBase : IsOrdinary s base)
    (h : Stands s base requests world history i client)
    (hTemporary : client.private? = some temporary) :
    ∃ path bytes stage n number,
      temporary.place s.site.working = WriteStage.temporaryPlace s.site.working path n ∧
        world.locks.holder? (path.place s.site.working) = some i ∧
        WriteStage.Underway s base world.tree path bytes stage n number := by
  cases h with
  | writing _ _ _ hPlan hHolds hUnderway =>
      cases hUnderway.temporary.symm.trans hTemporary
      obtain ⟨_, rfl, _⟩ := Access.isTarget_of_write hBase.working hBase.linkless hPlan
      exact ⟨_, _, _, _, _, WriteStage.place_temporaryPath hBase.working _ _, hHolds, hUnderway⟩
  | _ => cases hTemporary

/-- The clients and the history beside them. -/
structure Linearized (s : Setting) (base : Tree) (requests : List Request) (pool : Clients)
    (history : List (Nat × Answer)) (alone : World) : Prop where
  length : pool.clients.length = requests.length
  legal : Access.serveAll s (history.filterMap fun (i, _) => requests[i]?) (World.initial base) =
    (history.map Prod.snd, alone)
  once : (history.map Prod.fst).Nodup
  known : ∀ i ∈ history.map Prod.fst, i < requests.length
  kept : ConfigRoot.IsKept s base pool.world
  hosts : Hosts base pool.world.tree
  /-- Both trees look the same but for the private files. -/
  shows : ∀ location, pool.world.tree.node? location = alone.tree.node? location ∨
    ∃ (i : Nat) (client : Client) (path : Path), pool.clients[i]? = some client ∧
      client.private? = some path ∧ location = path.place s.site.working
  stands : ∀ (i : Nat) (client : Client), pool.clients[i]? = some client →
    Stands s base requests pool.world history i client

namespace Linearized

variable {pool : Clients} {history history' : List (Nat × Answer)} {alone alone' world' : World}
  {i : Nat} {client client' : Client}

theorem steady (hBase : IsOrdinary s base)
    (hNames : ∀ request ∈ requests, ¬ Access.NamesTemporary request)
    (h : Linearized s base requests pool history alone) : Steady s base alone := by
  have hCalls : ∀ request ∈ history.filterMap fun (i, _) => requests[i]?,
      ¬ Access.NamesTemporary request := by
    intro request hMem
    obtain ⟨entry, _, hRequest⟩ := List.mem_filterMap.mp hMem
    exact hNames request (List.mem_of_getElem? hRequest)
  have hServed := Access.serveAll_steady hBase hCalls (steady_initial s hBase.wf)
  rwa [h.legal] at hServed

/-- A step of a client keeps the history in order if it leaves to the others what is theirs. -/
theorem of_step (hBase : IsOrdinary s base) (h : Linearized s base requests pool history alone)
    (hClient : pool.clients[i]? = some client)
    (hAdds : Adds s requests i history alone history' alone')
    (hKept : ConfigRoot.IsKept s base world') (hHosts : Hosts base world'.tree)
    (hLeaves : Leaves s base i pool.world world')
    (hMine : Stands s base requests world' history' i client')
    (hShows : ∀ location, (∃ path, client'.private? = some path ∧
          location = path.place s.site.working) ∨
        world'.tree.node? location = alone'.tree.node? location ∨
        world'.tree.node? location = pool.world.tree.node? location ∧
          alone'.tree.node? location = alone.tree.node? location ∧
          ∀ path, client.private? = some path → location ≠ path.place s.site.working) :
    Linearized s base requests ⟨pool.clients.set i client', world'⟩ history' alone' where
  length := by rw [List.length_set, h.length]
  legal := hAdds.legal h.legal
  once := hAdds.once h.once
  known := hAdds.known h.known
  kept := hKept
  hosts := hHosts
  shows location := by
    have hLength := (List.getElem?_eq_some_iff.mp hClient).1
    rcases hShows location with ⟨path, hPath, hPlace⟩ | hSame | ⟨hTree, hAlone, hOwn⟩
    · exact .inr ⟨i, client', path, List.getElem?_set_self hLength, hPath, hPlace⟩
    · exact .inl hSame
    · rcases h.shows location with hSame | ⟨j, other, path, hOther, hPath, hPlace⟩
      · exact .inl (by rw [hTree, hAlone, hSame])
      · refine .inr ⟨j, other, path, ?_, hPath, hPlace⟩
        have hNe : i ≠ j := by
          rintro rfl
          cases hClient.symm.trans hOther
          exact hOwn path hPath hPlace
        rw [List.getElem?_set_ne hNe, hOther]
  stands j other hOther := by
    by_cases hNe : i = j
    · subst hNe
      rw [List.getElem?_set_self (List.getElem?_eq_some_iff.mp hClient).1] at hOther
      cases hOther
      exact hMine
    · rw [List.getElem?_set_ne hNe] at hOther
      exact (h.stands j other hOther).of_leaves hBase (Ne.symm hNe) hLeaves hAdds

/-- The tree of the history shows what the clients see, without the private files. -/
theorem mirrors (hBase : IsOrdinary s base)
    (hNames : ∀ request ∈ requests, ¬ Access.NamesTemporary request)
    (h : Linearized s base requests pool history alone) :
    Mirrors Access.IsSpare alone.tree pool.world.tree := by
  intro location
  rcases h.shows location with hSame | ⟨i, client, temporary, hClient, hTemporary, hPlace⟩
  · exact .inl hSame
  · obtain ⟨path, bytes, stage, n, number, hPrivate, _, hUnderway⟩ :=
      (h.stands i client hClient).isUnderway hBase hTemporary
    rw [hPrivate] at hPlace
    subst hPlace
    have hAlone : alone.tree.node? (WriteStage.temporaryPlace s.site.working path n) = none := by
      have hOutline := (h.steady hBase hNames).preserved.outline
        (WriteStage.temporaryPlace s.site.working path n)
      rw [hUnderway.outline?_place] at hOutline
      exact Option.map_eq_none_iff.mp hOutline
    obtain ⟨data, hData, _⟩ := hUnderway.data
    refine .inr ⟨WriteStage.isSpare_temporaryPlace _ _ _, hAlone, data.mode, data.bytes, ?_⟩
    rw [node?_of_file hUnderway.file, hData]
    rfl

end Linearized

end ConfigGate
