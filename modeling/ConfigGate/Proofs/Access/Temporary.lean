import ConfigGate.Proofs.Access.Write
import ConfigGate.Proofs.Tree.Linkless
import Mathlib.Algebra.GroupWithZero.Nat

/-! The names of private files. They all begin with a dot, those of one target have one length, and the
name of the target can be read off them, so that the private files of two targets never meet. -/
namespace ConfigGate

open Path

namespace Text

theorem length_hexPadded {width n : Nat} (hWidth : 0 < width) (h : n < 16 ^ width) :
    (hexPadded width n).length = width := by
  have hDigits : (Nat.toDigits 16 n).length ≤ width :=
    (Nat.length_toDigits_le_iff (by decide) hWidth).mpr h
  simp only [hexPadded, List.length_append, List.length_replicate]
  omega

/-- What holds of the sixteen digits holds of every character of a number. -/
theorem forall_mem_hexPadded {P : Char → Prop} (h : ∀ d < 16, P (Nat.digitChar d)) (width n : Nat) :
    ∀ c ∈ hexPadded width n, P c := by
  have hDigits (n : Nat) : ∀ c ∈ Nat.toDigits 16 n, P c := by
    induction n using Nat.strongRecOn with
    | ind n ih =>
        intro c hMem
        rw [Nat.toDigits_eq_if (by decide)] at hMem
        split at hMem
        · rename_i hSmall
          rw [List.mem_singleton.mp hMem]
          exact h n hSmall
        · rename_i hLarge
          rcases List.mem_append.mp hMem with hMem | hMem
          · exact ih (n / 16) (Nat.div_lt_self (by omega) (by decide)) c hMem
          · rw [List.mem_singleton.mp hMem]
            exact h (n % 16) (Nat.mod_lt n (by decide))
  intro c hMem
  rcases List.mem_append.mp hMem with hMem | hMem
  · rw [List.eq_of_mem_replicate hMem]
    exact h 0 (by decide)
  · exact hDigits n c hMem

private theorem byteLength_ofList {chars : List Char} (h : ∀ c ∈ chars, c.utf8Size = 1) :
    byteLength (String.ofList chars) = chars.length := by
  induction chars with
  | nil => rfl
  | cons c rest ih =>
      rw [String.ofList_cons]
      have hRest := ih fun other hMem => h other (List.mem_cons_of_mem c hMem)
      unfold byteLength at hRest ⊢
      rw [String.utf8ByteSize_append, String.utf8ByteSize_singleton, hRest, h c (by simp),
        List.length_cons, Nat.add_comm]

theorem byteLength_hexPadded {width n : Nat} (hWidth : 0 < width) (h : n < 16 ^ width) :
    byteLength (String.ofList (hexPadded width n)) = width := by
  rw [byteLength_ofList (forall_mem_hexPadded (by decide) width n), length_hexPadded hWidth h]

end Text

namespace Path

variable {working : Location} {p : Path}

theorem anchor_lexical_ne (p : Path) (working : Location) :
    (p.lexical working).anchor ≠ .relative := by
  obtain ⟨anchor, parts⟩ := p
  cases anchor <;> simp [lexical, absolute, join, ofLocation]

/-- A path leads to the same place once its components have been resolved by their text. -/
theorem place_lexical (hWorking : IsPlain working) (p : Path) :
    (p.lexical working).place working = p.place working := by
  have hAnchor := anchor_lexical_ne p working
  have hPlain : IsPlain (p.lexical working).parts :=
    isPlain_foldl_descend (by simp [IsPlain]) _
  rw [place, start, if_neg hAnchor, foldl_descend_plain hPlain, List.nil_append,
    lexical_parts hWorking]

/-- The last component leads on from the place of the parent. -/
theorem place_eq_descend (p : Path) (working : Location) :
    p.place working = descend (p.parent.place working) p.name := by
  obtain ⟨anchor, parts⟩ := p
  rcases List.eq_nil_or_concat parts with rfl | ⟨init, last, rfl⟩
  · rfl
  · simp only [List.concat_eq_append, place, start, parent, name, List.dropLast_concat,
      List.foldl_append, List.getLast?_concat]
    rfl

end Path

namespace WriteStage

variable {working : Location} {target other : Path} {tree after : Tree}

/-- The name of a private file of some target. -/
def IsTemporaryName (name : String) : Prop := ∃ target n, name = temporaryName target n

theorem isDotName_temporaryName (target : Path) (n : Nat) :
    Guard.isDotName (temporaryName target n) = true := by
  simp [Guard.isDotName, temporaryName]

theorem isName_temporaryName (target : Path) (n : Nat) : IsName (temporaryName target n) := by
  have hLength : 4 < (temporaryName target n).toList.length := by
    simp [temporaryName]
    omega
  have hNe {text : String} (hShort : text.toList.length ≤ 4) : temporaryName target n ≠ text := by
    intro h
    rw [h] at hLength
    omega
  refine ⟨?_, hNe (by decide)⟩
  have hEmpty : temporaryName target n ≠ "" := hNe (by decide)
  have hDot : temporaryName target n ≠ "." := hNe (by decide)
  simp [isIdle, hEmpty, hDot]

/-- The names of the private files of one target have one length. -/
theorem byteLength_temporaryName (target : Path) (n m : Nat) :
    byteLength (temporaryName target n) = byteLength (temporaryName target m) := by
  have hHex (n : Nat) :
      byteLength (String.ofList (Text.hexPadded 8 (n % temporaryNames))) = 8 :=
    Text.byteLength_hexPadded (by decide) (Nat.mod_lt n (by decide))
  have hBoth := (hHex n).trans (hHex m).symm
  simp only [byteLength, temporaryName, String.utf8ByteSize_append] at hBoth ⊢
  omega

/-- The name of a private file tells the name of its target. -/
theorem name_of_temporaryName {n m : Nat} (h : temporaryName target n = temporaryName other m) :
    target.name = other.name := by
  have hHex (n : Nat) : (Text.hexPadded 8 (n % temporaryNames)).length = 8 :=
    Text.length_hexPadded (by decide) (Nat.mod_lt n (by decide))
  have hList := congrArg String.toList h
  simp only [temporaryName, String.toList_append, String.toList_ofList, List.append_assoc] at hList
  have hTail := List.append_cancel_left hList
  have hName := (List.append_inj' hTail (by simp [hHex])).1
  exact String.toList_inj.mp hName

/-! Making a private file -/

/-- The path of a private file. -/
def temporaryPath (working : Location) (target : Path) (n : Nat) : Path :=
  (target.parent.lexical working).child (temporaryName target n)

/-- The place of a private file, beside its target. -/
def temporaryPlace (working : Location) (target : Path) (n : Nat) : Location :=
  target.parent.place working ++ [temporaryName target n]

theorem place_temporaryPath (hWorking : IsPlain working) (target : Path) (n : Nat) :
    (temporaryPath working target n).place working = temporaryPlace working target n := by
  rw [temporaryPath, place_child, descend_name (isName_temporaryName target n),
    place_lexical hWorking]
  rfl

/-- Private files at one place have one target. -/
theorem place_of_temporaryPlace {n m : Nat}
    (h : temporaryPlace working target n = temporaryPlace working other m) :
    target.place working = other.place working := by
  obtain ⟨hParent, hName⟩ := List.append_inj' h rfl
  rw [place_eq_descend target, place_eq_descend other, hParent,
    name_of_temporaryName (List.cons.inj hName).1]

/-- A private file can be made under some name. -/
def CanCreate (working : Location) (target : Path) (tree : Tree) : Prop :=
  ∃ n directory, tree.find working .entry (temporaryPath working target n) =
      .ok (.absent directory (temporaryName target n)) ∧ tree.isOpenToChange directory

theorem canCreate_of_createTemporary (hTree : tree.IsLinkless) {tries n next : Nat} {p : Path}
    (h : createTemporary working target tries n tree = .ok (p, next, after)) :
    CanCreate working target tree := by
  obtain ⟨m, rfl, hCreate⟩ := createTemporary_ok h
  obtain ⟨directory, name, hFind, hOpen, _⟩ := Tree.createPrivate_ok.mp hCreate
  have hName : some (temporaryName target m) = some name := by
    have hLast := Tree.getLast?_of_absent hTree hFind
    simpa [Path.child] using hLast
  cases hName
  exact ⟨m, directory, hFind, hOpen⟩

/-- Names that are taken are passed over. -/
theorem createTemporary_succ (tries n : Nat) :
    createTemporary working target (tries + 1) n tree =
      match tree.createPrivate working (temporaryPath working target n) with
      | .ok tree => .ok (temporaryPath working target n, n + 1, tree)
      | .error .alreadyExists => createTemporary working target tries (n + 1) tree
      | .error errno => .error (Setting.refusal (temporaryPath working target n) errno) := rfl

theorem createTemporary_of_free {directory : Location} (hOpen : tree.isOpenToChange directory)
    (hFind : ∀ n, tree.find working .entry (temporaryPath working target n) =
      .ok (if (tree.entry? (directory ++ [temporaryName target n])).isSome
        then .present (directory ++ [temporaryName target n])
        else .absent directory (temporaryName target n)))
    (tries n : Nat)
    (h : ∃ i < tries, tree.entry? (directory ++ [temporaryName target (n + i)]) = none) :
    ∃ made, createTemporary working target tries n tree = .ok made := by
  induction tries generalizing n with
  | zero =>
      obtain ⟨i, hi, _⟩ := h
      exact absurd hi (Nat.not_lt_zero i)
  | succ tries ih =>
      rw [createTemporary_succ]
      have hHere := hFind n
      cases hEntry : tree.entry? (directory ++ [temporaryName target n]) with
      | none =>
          rw [hEntry, Option.isSome_none, if_neg Bool.false_ne_true] at hHere
          rw [Tree.createPrivate_ok.mpr ⟨directory, _, hHere, hOpen, rfl⟩]
          exact ⟨_, rfl⟩
      | some entry =>
          rw [hEntry, Option.isSome_some, if_pos rfl] at hHere
          rw [Tree.createPrivate_present hHere]
          apply ih
          obtain ⟨i, hi, hFree⟩ := h
          cases i with
          | zero =>
              rw [Nat.add_zero, hEntry] at hFree
              cases hFree
          | succ i => exact ⟨i, by omega, by rwa [Nat.add_right_comm]⟩

/-- Every number is reached from any other by counting up around the circle. -/
private theorem exists_add_mod (size n m : Nat) (h : 0 < size) :
    ∃ i < size, (n + i) % size = m % size := by
  refine ⟨(m + (size - n % size)) % size, Nat.mod_lt _ h, ?_⟩
  have hRest : n % size ≤ size := Nat.le_of_lt (Nat.mod_lt n h)
  rw [Nat.add_mod_mod, ← Nat.mod_add_mod,
    show n % size + (m + (size - n % size)) = m + size by omega, Nat.add_mod_right]

/-- Whether a private file can be made does not depend on where the search for a name starts. -/
theorem createTemporary_of_canCreate (hTree : tree.IsLinkless)
    (h : CanCreate working target tree) (n : Nat) :
    ∃ made, createTemporary working target temporaryNames n tree = .ok made := by
  obtain ⟨m, directory, hFree, hOpen⟩ := h
  rcases Tree.find_child hTree working (target.parent.lexical working)
    (byteLength (temporaryName target m)) with ⟨errno, hRefused⟩ | ⟨place, hFind⟩
  · have hError := hRefused _ (isName_temporaryName target m) rfl
    cases hFree.symm.trans hError
  · have hSame := hFree.symm.trans (hFind _ (isName_temporaryName target m) rfl)
    have hEntry : tree.entry? (place ++ [temporaryName target m]) = none := by
      cases hEntry : tree.entry? (place ++ [temporaryName target m]) with
      | none => rfl
      | some entry =>
          rw [hEntry, Option.isSome_some, if_pos rfl] at hSame
          cases hSame
    rw [hEntry, Option.isSome_none, if_neg Bool.false_ne_true] at hSame
    cases hSame
    obtain ⟨i, hi, hMod⟩ := exists_add_mod temporaryNames n m (by decide)
    have hName : temporaryName target (n + i) = temporaryName target m := by
      unfold temporaryName
      rw [hMod]
    exact createTemporary_of_free hOpen
      (fun k => hFind _ (isName_temporaryName target k) (byteLength_temporaryName target k m))
      temporaryNames n ⟨i, hi, by rw [hName]; exact hEntry⟩

end WriteStage

/-- A place that private files may take. -/
def Access.IsSpare (location : Location) : Prop :=
  ∃ name ∈ location.getLast?, WriteStage.IsTemporaryName name

end ConfigGate
