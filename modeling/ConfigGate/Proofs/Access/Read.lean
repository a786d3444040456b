import ConfigGate.Proofs.Access.Act

/-! What a stream gives. The chunks of a file put together are the file, and a stream that does not
break off gives all of them. -/
namespace ConfigGate.Stream

open Act

variable {s : Setting}

/-- The chunks of at most `size` bytes that a file is read in. -/
def chunksOf (size : Nat) (bytes : Bytes) : List Bytes :=
  (List.range ((bytes.length + size - 1) / size)).map fun n => (bytes.drop (n * size)).take size

theorem chunkSize_pos : 0 < chunkSize := by decide

/-- One chunk less is needed for what follows the first chunk. -/
private theorem chunkCount_succ {length size : Nat} (hLength : 0 < length) (hSize : 0 < size) :
    (length + size - 1) / size = (length - size + size - 1) / size + 1 := by
  by_cases h : size ≤ length
  · rw [show length + size - 1 = length - size + size - 1 + size by omega,
      Nat.add_div_right _ hSize]
  · rw [show length + size - 1 = length - 1 + size by omega, Nat.add_div_right _ hSize,
      Nat.div_eq_of_lt (by omega), Nat.div_eq_of_lt (by omega)]

section

variable {size : Nat} (hSize : 0 < size)

include hSize

theorem chunksOf_nil : chunksOf size [] = [] := by
  simp [chunksOf, Nat.div_eq_of_lt (show size - 1 < size by omega)]

/-- The first chunk of a file that is not empty, and the chunks of the rest. -/
theorem chunksOf_eq_cons {bytes : Bytes} (h : bytes ≠ []) :
    chunksOf size bytes = bytes.take size :: chunksOf size (bytes.drop size) := by
  have hLength : 0 < bytes.length := List.length_pos_iff.mpr h
  unfold chunksOf
  rw [chunkCount_succ hLength hSize, ← List.length_drop, List.range_succ_eq_map, List.map_cons,
    List.map_map, Nat.zero_mul, List.drop_zero]
  refine congrArg (_ :: ·) (List.map_congr_left ?_)
  intro n _
  simp only [Function.comp, List.drop_drop, Nat.succ_mul, Nat.add_comm]

/-- The chunks put together are the file. -/
theorem flatten_chunksOf (bytes : Bytes) : (chunksOf size bytes).flatten = bytes := by
  induction hLength : bytes.length using Nat.strongRecOn generalizing bytes with
  | ind n ih =>
      by_cases h : bytes = []
      · rw [h, chunksOf_nil hSize]
        rfl
      · have hPos : 0 < bytes.length := List.length_pos_iff.mpr h
        have hShorter : (bytes.drop size).length < n := by
          rw [List.length_drop, ← hLength]
          exact Nat.sub_lt hPos hSize
        rw [chunksOf_eq_cons hSize h, List.flatten_cons, ih _ hShorter _ rfl,
          List.take_append_drop]

end

theorem length_chunksOf (size : Nat) (bytes : Bytes) :
    (chunksOf size bytes).length = (bytes.length + size - 1) / size := by
  simp [chunksOf]

/-- Chunks are read up to the first read that fails, or up to the end. After the last chunk there is one
more read, which finds the end of the file and may fail like the others. -/
theorem readChunks_eq {fuel index : Nat} {bytes : Bytes} {found : List Bytes}
    (hFuel : (chunksOf chunkSize bytes).length < fuel) :
    ∃ count ≤ (chunksOf chunkSize bytes).length,
      readChunks s fuel index bytes found =
        ⟨found.reverse ++ (chunksOf chunkSize bytes).take count, s.faultAt? (.read (index + count))⟩ ∧
      (∀ n < count, s.faultAt? (.read (index + n)) = none) ∧
      (s.faultAt? (.read (index + count)) = none → count = (chunksOf chunkSize bytes).length) := by
  induction fuel generalizing index bytes found with
  | zero => omega
  | succ fuel ih =>
      cases hFault : s.faultAt? (.read index) with
      | some e => exact ⟨0, Nat.zero_le _, by simp [readChunks, hFault], by simp, by simp [hFault]⟩
      | none =>
          by_cases hEmpty : bytes = []
          · subst hEmpty
            exact ⟨0, Nat.zero_le _, by simp [readChunks, hFault], by simp,
              by simp [chunksOf_nil chunkSize_pos]⟩
          · have hChunks := chunksOf_eq_cons chunkSize_pos hEmpty
            rw [hChunks, List.length_cons] at hFuel ⊢
            obtain ⟨count, hCount, hRead, hBefore, hEnd⟩ :=
              @ih (index + 1) (bytes.drop chunkSize) (bytes.take chunkSize :: found) (by omega)
            rw [Nat.add_assoc, Nat.add_comm 1] at hRead hEnd
            refine ⟨count + 1, by omega, ?_, ?_, fun hNone => by rw [hEnd hNone]⟩
            · have hTake : bytes.take chunkSize ≠ [] := by
                simp [hEmpty, Nat.ne_of_gt chunkSize_pos]
              rw [readChunks, hFault]
              dsimp only
              split
              · rename_i hNil
                exact absurd hNil hTake
              · rw [hRead, List.take_succ_cons, List.reverse_cons, List.append_assoc,
                  List.singleton_append]
            · intro n hn
              cases n with
              | zero => exact hFault
              | succ n =>
                  rw [Nat.add_comm n, ← Nat.add_assoc]
                  exact hBefore n (by omega)

/-- The bytes of the file that a stream reads. -/
def content (stream : Stream) (tree : Tree) : Bytes :=
  ((tree.data? stream.file).map (·.bytes)).getD []

/-- What a stream gives if nothing comes in between. -/
def drained (s : Setting) (stream : Stream) (tree : Tree) : Drained :=
  readChunks s ((stream.content tree).length / chunkSize + 2) 0 (stream.content tree) []

/-- A stream is read and closed. A failure is logged, and the tree stays as it is. -/
theorem attempt_drain (stream : Stream) (world : World) :
    (attempt (stream.drain s) world).1 = .ok (stream.drained s world.tree) ∧
      World.Quiet { world with streams := world.streams.filter (·.1 != stream.id) }
        (attempt (stream.drain s) world).2 := by
  unfold drain drained content
  rw [attempt_bind, attempt_get]
  dsimp only
  generalize readChunks s _ 0 _ [] = found
  obtain ⟨chunks, error⟩ := found
  cases error with
  | none => exact ⟨rfl, ⟨rfl, rfl, rfl, rfl, rfl, rfl⟩⟩
  | some e => exact ⟨rfl, ⟨rfl, rfl, rfl, rfl, rfl, rfl⟩⟩

/-- A stream gives the chunks of the file up to the first read that fails. -/
theorem drained_eq (s : Setting) (stream : Stream) (tree : Tree) :
    ∃ count ≤ (chunksOf chunkSize (stream.content tree)).length,
      stream.drained s tree =
        ⟨(chunksOf chunkSize (stream.content tree)).take count, s.faultAt? (.read count)⟩ ∧
      (∀ n < count, s.faultAt? (.read n) = none) ∧
      (s.faultAt? (.read count) = none →
        count = (chunksOf chunkSize (stream.content tree)).length) := by
  have hFuel : (chunksOf chunkSize (stream.content tree)).length <
      (stream.content tree).length / chunkSize + 2 := by
    have hCeil : ((stream.content tree).length + chunkSize - 1) / chunkSize ≤
        ((stream.content tree).length + chunkSize) / chunkSize :=
      Nat.div_le_div_right (Nat.sub_le _ _)
    rw [Nat.add_div_right _ chunkSize_pos] at hCeil
    rw [length_chunksOf]
    omega
  have hRead := @readChunks_eq s _ 0 _ [] hFuel
  simp only [Nat.zero_add] at hRead
  exact hRead

/-- Reading fails only where a fault is injected. -/
theorem error_drained {stream : Stream} {tree : Tree} (h : ∀ n, s.faultAt? (.read n) = none) :
    (stream.drained s tree).error = none := by
  obtain ⟨count, _, hDrained, _⟩ := drained_eq s stream tree
  rw [hDrained]
  exact h count

/-- A stream that does not break off gives the whole file. -/
theorem chunks_drained {stream : Stream} {tree : Tree}
    (h : (stream.drained s tree).error = none) :
    (stream.drained s tree).chunks = chunksOf chunkSize (stream.content tree) := by
  obtain ⟨count, _, hDrained, _, hEnd⟩ := drained_eq s stream tree
  rw [hDrained] at h ⊢
  exact List.take_of_length_le (Nat.le_of_eq (hEnd h).symm)

/-- The chunks of such a stream put together are the file. -/
theorem bytes_drained {stream : Stream} {tree : Tree} (h : (stream.drained s tree).error = none) :
    (stream.drained s tree).bytes = stream.content tree := by
  rw [Drained.bytes, chunks_drained h, flatten_chunksOf chunkSize_pos]

/-- Without a fault a stream gives the whole file. -/
theorem drained_of_data {stream : Stream} {tree : Tree} {data : FileData}
    (hFault : ∀ n, s.faultAt? (.read n) = none) (hData : tree.data? stream.file = some data) :
    stream.drained s tree = ⟨chunksOf chunkSize data.bytes, none⟩ := by
  have hContent : stream.content tree = data.bytes := by simp [content, hData]
  have hError : (stream.drained s tree).error = none := error_drained hFault
  have hChunks := chunks_drained hError
  rw [hContent] at hChunks
  rw [← hChunks, ← hError]

theorem attempt_ofPath {p : Path} (hNul : p.hasNul = false) (world : World) :
    attempt (ofPath s p) world = attempt (start p (opened s p world.tree)) world := by
  unfold ofPath
  rw [hNul]
  rfl

/-- A stream that has been opened reads the file that was found. -/
theorem attempt_ofPath_ok {p : Path} {stream : Stream} {world after : World}
    (h : attempt (ofPath s p) world = (.ok stream, after)) :
    opened s p world.tree = .ok stream.file ∧ stream.path = p ∧ after.tree = world.tree := by
  cases hNul : p.hasNul with
  | true =>
      unfold ofPath at h
      rw [hNul] at h
      cases h
  | false =>
      rw [attempt_ofPath hNul] at h
      cases hOpened : opened s p world.tree with
      | error e =>
          rw [hOpened] at h
          cases h
      | ok file =>
          rw [hOpened] at h
          cases h
          exact ⟨rfl, rfl, rfl⟩

theorem opened_ok {p : Path} {number : Nat} {tree : Tree} :
    opened s p tree = .ok number ↔
      s.faultAt? .openFile = none ∧ tree.openForReading s.site.working p = .ok number := by
  unfold opened
  cases s.faultAt? .openFile with
  | some e => simp
  | none =>
      cases tree.openForReading s.site.working p with
      | error errno =>
          change Except.error (Setting.refusal p errno) = .ok number ↔ _
          simp
      | ok found =>
          change Except.ok found = .ok number ↔ _
          simp

end ConfigGate.Stream
