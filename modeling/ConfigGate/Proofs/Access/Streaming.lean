import ConfigGate.Access.Client
import ConfigGate.Proofs.Access.Rereading

/-! How a file is streamed. A stream that is read to its end gives the file in full chunks, up to the
first read that fails, and the handle of the file is closed after the last read. What is read at once is
what a client gets that takes chunk after chunk. -/
namespace ConfigGate

open Act

namespace Stream

variable {s : Setting} {size : Nat} {bytes : Bytes}

/-! The chunks of a file -/

theorem lt_length_chunksOf (hSize : 0 < size) {n : Nat} :
    n < (chunksOf size bytes).length ↔ n * size < bytes.length := by
  rw [length_chunksOf, Nat.lt_iff_add_one_le, Nat.le_div_iff_mul_le hSize, Nat.add_mul]
  omega

/-- The first chunks put together are the beginning of the file. -/
theorem flatten_take_chunksOf (hSize : 0 < size) (bytes : Bytes) (count : Nat) :
    ((chunksOf size bytes).take count).flatten = bytes.take (count * size) := by
  induction count generalizing bytes with
  | zero => simp
  | succ count ih =>
      by_cases hEmpty : bytes = []
      · simp [hEmpty, chunksOf_nil hSize]
      · rw [chunksOf_eq_cons hSize hEmpty, List.take_succ_cons, List.flatten_cons, ih, Nat.succ_mul,
          Nat.add_comm, List.take_add]

theorem length_getElem_chunksOf {n : Nat} (h : n < (chunksOf size bytes).length) :
    (chunksOf size bytes)[n].length = min size (bytes.length - n * size) := by
  simp [chunksOf]

theorem ne_nil_of_mem_chunksOf (hSize : 0 < size) {chunk : Bytes} (h : chunk ∈ chunksOf size bytes) :
    chunk ≠ [] := by
  obtain ⟨n, hn, rfl⟩ := List.mem_iff_getElem.mp h
  have hLength := length_getElem_chunksOf hn
  rw [lt_length_chunksOf hSize] at hn
  rw [← List.length_pos_iff, hLength]
  omega

/-- What comes after the first chunks. -/
theorem take_drop_flatten_chunksOf (hSize : 0 < size) (bytes : Bytes) (count : Nat) :
    (bytes.drop ((chunksOf size bytes).take count).flatten.length).take size =
      ((chunksOf size bytes)[count]?).getD [] := by
  have hDrop : bytes.drop ((chunksOf size bytes).take count).flatten.length =
      bytes.drop (count * size) := by
    rw [flatten_take_chunksOf hSize, List.drop_eq_drop_iff]
    simp
  rw [hDrop]
  by_cases h : count < (chunksOf size bytes).length
  · rw [List.getElem?_eq_getElem h, Option.getD_some]
    simp [chunksOf]
  · rw [List.getElem?_eq_none (Nat.le_of_not_lt h), Option.getD_none]
    rw [lt_length_chunksOf hSize] at h
    rw [List.drop_eq_nil_of_le (Nat.le_of_not_lt h), List.take_nil]

/-! What is delivered -/

/-- What a stream delivers of a file, if reading fails where a fault is injected. The last chunk of the
file is the only one that need not be full, and after it the whole file has been delivered. -/
structure Delivers (s : Setting) (bytes : Bytes) (drained : Drained) : Prop where
  nonempty : ∀ chunk ∈ drained.chunks, chunk ≠ []
  full : ∀ n (h : n < drained.chunks.length), drained.chunks[n].length = chunkSize ∨
    drained.chunks[n].length < chunkSize ∧ n + 1 = drained.chunks.length ∧ drained.bytes = bytes
  begins : drained.bytes <+: bytes
  /-- The read after the last chunk finds the end of the file, and must not fail either. -/
  whole : (∀ n ≤ (bytes.length + chunkSize - 1) / chunkSize, s.fault ≠ some (.read n)) →
    drained.error = none ∧ drained.bytes = bytes ∧
      drained.chunks.length = (bytes.length + chunkSize - 1) / chunkSize
  broken : ∀ n ≤ (bytes.length + chunkSize - 1) / chunkSize, s.fault = some (.read n) →
    drained.error = some ⟨.inputOutput, []⟩ ∧ drained.chunks.length = n ∧
      drained.chunks = (chunksOf chunkSize bytes).take n

theorem delivers_drained (s : Setting) (stream : Stream) (tree : Tree) :
    Delivers s (stream.content tree) (stream.drained s tree) := by
  obtain ⟨count, hCount, hDrained, hBefore, hEnd⟩ := drained_eq s stream tree
  generalize stream.content tree = bytes at *
  rw [hDrained]
  have hBytes : (⟨(chunksOf chunkSize bytes).take count, s.faultAt? (.read count)⟩ : Drained).bytes =
      bytes.take (count * chunkSize) := flatten_take_chunksOf chunkSize_pos bytes count
  have hWhole (h : count = (chunksOf chunkSize bytes).length) : bytes.take (count * chunkSize) = bytes := by
    rw [← flatten_take_chunksOf chunkSize_pos, List.take_of_length_le (Nat.le_of_eq h.symm),
      flatten_chunksOf chunkSize_pos]
  constructor
  · intro chunk hChunk
    exact ne_nil_of_mem_chunksOf chunkSize_pos (List.mem_of_mem_take hChunk)
  · intro n hn
    rw [hBytes]
    dsimp only at hn ⊢
    have hTaken := hn
    rw [List.length_take, Nat.lt_min] at hTaken
    have hLast : n + 1 < (chunksOf chunkSize bytes).length ↔ _ := lt_length_chunksOf chunkSize_pos
    rw [List.getElem_take, length_getElem_chunksOf hTaken.2, List.length_take]
    by_cases hFull : chunkSize ≤ bytes.length - n * chunkSize
    · exact .inl (Nat.min_eq_left hFull)
    · rw [Nat.add_mul] at hLast
      exact .inr ⟨by omega, by omega, hWhole (by omega)⟩
  · rw [hBytes]
    exact List.take_prefix _ _
  · intro hNone
    rw [← length_chunksOf] at hNone ⊢
    have hError : s.faultAt? (.read count) = none := by simp [Setting.faultAt?, hNone count hCount]
    exact ⟨hError, hBytes.trans (hWhole (hEnd hError)), by simp [hEnd hError]⟩
  · intro n hn hFault
    rw [← length_chunksOf] at hn
    have hFails (k : Nat) : s.faultAt? (.read k) = if k = n then some ⟨.inputOutput, []⟩ else none := by
      simp [Setting.faultAt?, hFault, eq_comm]
    have hSame : count = n := by
      apply Decidable.byContradiction
      intro hNe
      have hNone : s.faultAt? (.read count) = none := by rw [hFails, if_neg hNe]
      have hBreaks := hBefore n (Nat.lt_of_le_of_ne (hEnd hNone ▸ hn) (Ne.symm hNe))
      rw [hFails, if_pos rfl] at hBreaks
      cases hBreaks
    subst hSame
    exact ⟨by rw [hFails, if_pos rfl], by simp [hn], rfl⟩

/-! The handle -/

/-- The handle of the stream is open. -/
def IsOpen (stream : Stream) (world : World) : Prop :=
  stream.id ∈ world.streams.map Prod.fst

/-- A stream that breaks off leaves a note in the log before it is closed. -/
def noted (stream : Stream) (error : Option SystemError) (world : World) : World :=
  match error with
  | some e => world.log (.readFailed stream.path.text e.message e.record)
  | none => world

/-- Closing is the last thing that is done with a stream. -/
theorem attempt_drain_eq (s : Setting) (stream : Stream) (world : World) :
    attempt (stream.drain s) world = (.ok (stream.drained s world.tree),
      (attempt stream.close (stream.noted (stream.drained s world.tree).error world)).2) := by
  unfold drain drained content
  rw [attempt_bind, attempt_get]
  dsimp only
  generalize readChunks s _ 0 _ [] = found
  obtain ⟨chunks, error⟩ := found
  cases error <;> rfl

/-- The chunk that a client gets after the first ones, if reading it does not fail. -/
theorem chunkAfter_taken {stream : Stream} {tree : Tree} {count : Nat}
    (hCount : count ≤ (chunksOf chunkSize (stream.content tree)).length)
    (hFault : s.faultAt? (.read count) = none) :
    stream.chunkAfter s ((chunksOf chunkSize (stream.content tree)).take count).reverse tree =
      .ok (((chunksOf chunkSize (stream.content tree))[count]?).getD []) := by
  have hLength : ((chunksOf chunkSize (stream.content tree)).take count).reverse.flatten.length =
      ((chunksOf chunkSize (stream.content tree)).take count).flatten.length := by
    simp [List.length_flatten, List.sum_reverse]
  unfold chunkAfter
  rw [List.length_reverse, List.length_take, Nat.min_eq_left hCount, hFault, hLength]
  exact congrArg Except.ok (take_drop_flatten_chunksOf chunkSize_pos _ _)

theorem chunkAfter_of_fault {stream : Stream} {tree : Tree} {found : List Bytes} {e : SystemError}
    (h : s.faultAt? (.read found.length) = some e) : stream.chunkAfter s found tree = .error e := by
  rw [chunkAfter, h]

end Stream

namespace Client

variable {s : Setting} {me : Nat} {stream : Stream} {world : World}

/-- How far a client comes in so many steps with nobody in between. -/
def after (s : Setting) (me : Nat) (client : Client) (world : World) : Nat → Client × World
  | 0 => (client, world)
  | n + 1 => (after s me client world n).1.step s me (after s me client world n).2

/-- A chunk with something in it is added to those that the client has. -/
theorem step_of_chunk {found : List Bytes} {chunk : Bytes} (h : stream.chunkAfter s found world.tree = .ok chunk)
    (hSome : chunk ≠ []) :
    (Client.receiving stream found).step s me world = (.receiving stream (chunk :: found), world) := by
  change receive s stream found world = _
  unfold receive
  rw [h]
  cases chunk with
  | nil => exact absurd rfl hSome
  | cons byte rest => rfl

/-- With every step up to the last chunk the client gets one chunk more, and nothing else changes. -/
theorem after_chunks {n : Nat} (h : n ≤ (stream.drained s world.tree).chunks.length) :
    after s me (.receiving stream []) world n =
      (.receiving stream ((stream.drained s world.tree).chunks.take n).reverse, world) := by
  obtain ⟨count, hCount, hDrained, hBefore, _⟩ := Stream.drained_eq s stream world.tree
  rw [hDrained] at h ⊢
  dsimp only at h ⊢
  rw [List.length_take, Nat.min_eq_left hCount] at h
  induction n with
  | zero => rfl
  | succ n ih =>
      have hNext : n < (Stream.chunksOf Stream.chunkSize (stream.content world.tree)).length := by omega
      have hChunk := Stream.chunkAfter_taken (Nat.le_of_lt hNext) (hBefore n h)
      rw [List.getElem?_eq_getElem hNext, Option.getD_some] at hChunk
      have hSome := Stream.ne_nil_of_mem_chunksOf Stream.chunkSize_pos (List.getElem_mem hNext)
      rw [List.take_take, Nat.min_eq_left h, List.take_succ_eq_append_getElem hNext, List.reverse_concat]
      rw [after, ih (by omega), List.take_take, Nat.min_eq_left (by omega)]
      exact step_of_chunk hChunk hSome

/-- The step after the last chunk closes the stream. -/
theorem step_last : (Client.receiving stream (stream.drained s world.tree).chunks.reverse).step s me world =
    (.served (.received stream.path (stream.drained s world.tree)), (attempt (stream.drain s) world).2) := by
  obtain ⟨count, hCount, hDrained, _, hEnd⟩ := Stream.drained_eq s stream world.tree
  rw [Stream.attempt_drain_eq, hDrained]
  change receive s stream _ world = _
  unfold receive
  cases hFault : s.faultAt? (.read count) with
  | some e =>
      rw [Stream.chunkAfter_of_fault (by simpa [Nat.min_eq_left hCount] using hFault)]
      dsimp only
      rw [List.reverse_reverse]
      rfl
  | none =>
      have hNil : (Stream.chunksOf Stream.chunkSize (stream.content world.tree))[count]? = none :=
        List.getElem?_eq_none (Nat.le_of_eq (hEnd hFault).symm)
      rw [Stream.chunkAfter_taken hCount hFault, hNil, Option.getD_none]
      dsimp only
      rw [List.reverse_reverse]
      rfl

/-- What a client gets with nobody in between is what the stream gives when it is read at once. -/
theorem after_eq (s : Setting) (me : Nat) (stream : Stream) (world : World) (n : Nat) :
    after s me (.receiving stream []) world n =
      if n ≤ (stream.drained s world.tree).chunks.length then
        (.receiving stream ((stream.drained s world.tree).chunks.take n).reverse, world)
      else (.served (.received stream.path (stream.drained s world.tree)), (attempt (stream.drain s) world).2) := by
  induction n with
  | zero => exact after_chunks (Nat.zero_le _)
  | succ n ih =>
      split
      · rename_i h
        exact after_chunks h
      · rename_i h
        rw [after, ih]
        split
        · rename_i hLast
          have hAll : n = (stream.drained s world.tree).chunks.length := by omega
          rw [hAll, List.take_length]
          exact step_last
        · rfl

end Client

namespace Stream

variable {s : Setting} {world : World} {p : Path} {mode : Nat} {bytes : Bytes}

/-- A file that may be read is delivered in full chunks, up to the first read that fails. A client that
takes one chunk after the other gets them with one step each, and the next step, whether the file has
ended or reading fails, closes the handle, which has been open until then. -/
theorem delivered (hNul : p.hasNul = false) (hFile : world.tree.Holds s.site.working p mode bytes)
    (hMay : Tree.mayRead mode) (hOpen : s.fault ≠ some .openFile) (me : Nat) :
    ∃ stream opened drained closed, attempt (ofPath s p) world = (.ok stream, opened) ∧
      attempt (stream.drain s) opened = (.ok drained, closed) ∧ Delivers s bytes drained ∧
      attempt (readAll s p) world =
        ((match drained.error with
          | none => .ok bytes
          | some e => .error (.system e)), closed) ∧
      (∀ n, Client.after s me (.receiving stream []) opened n =
        if n ≤ drained.chunks.length then (.receiving stream (drained.chunks.take n).reverse, opened)
        else (.served (.received p drained), closed)) ∧
      (∀ n, stream.IsOpen (Client.after s me (.receiving stream []) opened n).2 ↔
        n ≤ drained.chunks.length) ∧
      ∀ handle, handle.1 ≠ stream.id → (handle ∈ closed.streams ↔ handle ∈ world.streams) := by
  obtain ⟨number, modified, hData, hOpened⟩ := hFile.openForReading
  rw [hMay, if_pos rfl] at hOpened
  have hOpens : opened s p world.tree = .ok number :=
    opened_ok.mpr ⟨by simp [Setting.faultAt?, hOpen], hOpened⟩
  obtain ⟨stream, middle, hStart, rfl, rfl, hTree, hStreams⟩ : ∃ stream middle,
      attempt (ofPath s p) world = (.ok stream, middle) ∧ stream.file = number ∧ stream.path = p ∧
        middle.tree = world.tree ∧ middle.streams = (stream.id, stream.file) :: world.streams := by
    rw [attempt_ofPath hNul, hOpens]
    exact ⟨_, _, rfl, rfl, rfl, rfl, rfl⟩
  have hContent : stream.content middle.tree = bytes := by
    simp [content, hTree, hData]
  have hDrain := attempt_eq_of_result (attempt_drain (s := s) stream middle).1
  have hStreamsAfter := (attempt_drain (s := s) stream middle).2.streams
  have hDelivers := delivers_drained s stream middle.tree
  rw [hContent] at hDelivers
  refine ⟨stream, middle, stream.drained s middle.tree, _, hStart, hDrain, hDelivers, ?_, ?_, ?_, ?_⟩
  · unfold readAll
    rw [attempt_bind_of_ok hStart, attempt_bind_of_ok hDrain]
    cases hError : (stream.drained s middle.tree).error with
    | some e => rfl
    | none => rw [bytes_drained hError, hContent, attempt_pure]
  · exact Client.after_eq s me stream middle
  · intro n
    rw [Client.after_eq]
    split
    · rename_i h
      refine iff_of_true ?_ h
      rw [IsOpen, hStreams]
      exact List.mem_cons_self
    · rename_i h
      refine iff_of_false ?_ h
      dsimp only
      rw [IsOpen, hStreamsAfter]
      simp
  · intro handle hOther
    rw [hStreamsAfter, hStreams]
    simp only [List.mem_filter, List.mem_cons, bne_iff_ne, ne_eq, hOther, not_false_eq_true, and_true,
      or_iff_right_iff_imp]
    rintro rfl
    exact absurd rfl hOther

/-- A file of one byte more than a chunk, whose second chunk cannot be read. -/
theorem delivered_first_chunk :
    let s := { Access.plainSetting .atomic with fault := some (.read 1) }
    ∃ bytes stream opened drained closed, bytes.length = chunkSize + 1 ∧
      attempt (ofPath s (Path.ofLocation ["conf", "a"]))
          (World.initial (Access.singleTree "a" ⟨0o644, bytes, .recent⟩)) = (.ok stream, opened) ∧
      attempt (stream.drain s) opened = (.ok drained, closed) ∧
      drained = ⟨[bytes.take chunkSize], some ⟨.inputOutput, []⟩⟩ ∧
      stream.IsOpen opened ∧ closed.streams = [] := by
  intro s
  obtain ⟨bytes, hLength⟩ : ∃ bytes : Bytes, bytes.length = chunkSize + 1 :=
    ⟨List.replicate (chunkSize + 1) 0x61, List.length_replicate⟩
  have hFile : (Access.singleTree "a" ⟨0o644, bytes, .recent⟩).Holds [] (Path.ofLocation ["conf", "a"]) 0o644
      bytes := ⟨["conf", "a"], 0, .recent, by rfl, by rfl, rfl⟩
  obtain ⟨stream, opened, ⟨chunks, error⟩, closed, hStart, hDrain, hDelivers, _, hSteps, hHandle, hOthers⟩ :=
    @delivered s (World.initial _) _ _ _ (by decide) hFile (by decide) (by decide) 0
  have hReads : 1 ≤ (bytes.length + chunkSize - 1) / chunkSize := by
    rw [hLength]
    decide
  obtain ⟨hError, _, hChunks⟩ := hDelivers.broken 1 hReads rfl
  have hSome : bytes ≠ [] := by
    rintro rfl
    cases hLength
  rw [chunksOf_eq_cons chunkSize_pos hSome, List.take_succ_cons, List.take_zero] at hChunks
  cases hError
  cases hChunks
  refine ⟨bytes, stream, opened, _, closed, hLength, hStart, hDrain, rfl, (hHandle 0).mpr (Nat.zero_le _), ?_⟩
  have hClosed := mt (hHandle 2).mp (by simp)
  rw [hSteps, if_neg (by simp)] at hClosed
  refine List.eq_nil_iff_forall_not_mem.mpr fun handle hMem => ?_
  by_cases hOwn : handle.1 = stream.id
  · exact hClosed (List.mem_map.mpr ⟨handle, hMem, hOwn⟩)
  · cases (hOthers handle hOwn).mp hMem

end Stream

end ConfigGate
