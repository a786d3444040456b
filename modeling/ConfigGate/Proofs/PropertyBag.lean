import ConfigGate.PropertyBag
import ConfigGate.Proofs.Json.Written
import ConfigGate.Proofs.Keyed
import ConfigGate.Proofs.Text.Utf8
import Mathlib.Data.List.Nodup
import Mathlib.Data.List.Perm.Basic
import Mathlib.Data.List.Perm.Subperm

/-! A property bag that has been stored is loaded again with the same entries in the same order. Every
bag that has been loaded has a stored form of its own, however it was written, and keeps it. -/
namespace ConfigGate.PropertyBag

variable {a b bag : PropertyBag}

theorem toJson_eq (bag : PropertyBag) : bag.toJson = .object (Json.ofTexts bag.entries) := rfl

theorem textMembers_ofTexts (entries : List (String × String)) :
    textMembers (Json.ofTexts entries) = .ok entries := by
  induction entries with
  | nil => rfl
  | cons entry rest ih =>
      rw [Json.ofTexts_cons, textMembers, ih]
      simp [textMember?]

theorem ofPairs_entries (bag : PropertyBag) : ofPairs bag.entries = bag := by
  obtain ⟨entries, distinct⟩ := bag
  exact mk.injEq .. ▸ Keyed.lastWins_of_nodup distinct

/-- A bag is stored in the characters of its entries. -/
theorem write_eq (bag : PropertyBag) : bag.write = String.ofList (Json.objectChars bag.entries) := by
  refine Option.get_of_eq_some _ ?_
  rw [Text.Wide.text?_eq_some_iff, toJson_eq, Json.render_ofTexts]

theorem read_write (bag : PropertyBag) : read bag.write = .ok bag := by
  have hRead := @Json.readChars_objectChars storedLimits (Nat.succ_pos 199) bag.entries
  rw [read, write_eq, Json.read, String.toList_ofList, hRead]
  dsimp only
  rw [textMembers_ofTexts]
  dsimp only
  rw [ofPairs_entries]

theorem readBytes_encode (text : String) : readBytes (Text.Utf8.encode text) = read text := by
  rw [readBytes, Text.Utf8.decode?_encode]

theorem nodup_entries (bag : PropertyBag) : bag.entries.Nodup :=
  List.Nodup.of_map Prod.fst bag.distinct

/-- Bags are equal exactly if they have the same entries in some order. -/
theorem beq_iff_perm : (a == b) = true ↔ a.entries.Perm b.entries := by
  have hSame : (a == b) = true ↔
      a.entries.length = b.entries.length ∧ ∀ entry ∈ a.entries, b.entries.lookup entry.1 = some entry.2 := by
    change same a b = true ↔ _
    simp [same, size, get?]
  rw [hSame]
  constructor
  · rintro ⟨hSize, hEntries⟩
    have hSubset : a.entries ⊆ b.entries := by
      intro entry hMem
      obtain ⟨before, after, hSplit, -⟩ := List.lookup_eq_some_iff.mp (hEntries entry hMem)
      rw [hSplit]
      exact List.mem_append_right before (List.mem_cons_self ..)
    exact (a.nodup_entries.subperm hSubset).perm_of_length_le (Nat.le_of_eq hSize.symm)
  · intro hPerm
    refine ⟨hPerm.length_eq, fun entry hMem => ?_⟩
    exact Keyed.lookup_of_mem b.distinct (hPerm.mem_iff.mp hMem)

theorem hash_eq_of_beq (h : (a == b) = true) : hash a = hash b := by
  have : LeftCommutative fun (entry : String × String) (sum : UInt64) => hash entry + sum :=
    ⟨fun first second sum => by rw [← UInt64.add_assoc, UInt64.add_comm (hash first), UInt64.add_assoc]⟩
  exact (beq_iff_perm.mp h).foldr_eq 0

/-- What is stored of a bag is loaded as an equal bag, with the entries in their order. Every stored form that is
accepted, as bytes or as text, is loaded as a bag that keeps its entries and its writing when it is stored. -/
theorem stored_and_loaded :
    (∀ bag : PropertyBag, ∃ again, readBytes (Text.Utf8.encode bag.write) = .ok again ∧
      again.entries = bag.entries ∧ (again == bag) = true ∧ hash again = hash bag) ∧
    (∀ (stored : Bytes) (bag : PropertyBag), readBytes stored = .ok bag →
      ∃ again, readBytes (Text.Utf8.encode bag.write) = .ok again ∧
        again.entries = bag.entries ∧ Text.Utf8.encode again.write = Text.Utf8.encode bag.write) ∧
    ∀ (stored : String) (bag : PropertyBag), read stored = .ok bag →
      ∃ again, readBytes (Text.Utf8.encode bag.write) = .ok again ∧
        again.entries = bag.entries ∧ Text.Utf8.encode again.write = Text.Utf8.encode bag.write := by
  have hRead (bag : PropertyBag) : readBytes (Text.Utf8.encode bag.write) = .ok bag := by
    rw [readBytes_encode, read_write]
  refine ⟨fun bag => ?_, fun _ bag _ => ?_, fun _ bag _ => ?_⟩
  · have hEqual : (bag == bag) = true := beq_iff_perm.mpr (List.Perm.refl _)
    exact ⟨bag, hRead bag, rfl, hEqual, hash_eq_of_beq hEqual⟩
  · exact ⟨bag, hRead bag, rfl, rfl⟩
  · exact ⟨bag, hRead bag, rfl, rfl⟩

/-- A stored form in which a key stands twice, with a surrogate pair, a control and a slash in escapes. -/
def storedTwice : String :=
  "\x7b\"k\":\"old\", \"\":\"\\u0000\\/\" , \"k\" : \"\\ud834\\udd1e\"\x7d"

theorem storedTwice_and_loaded :
    ∃ bag, readBytes (Text.Utf8.encode storedTwice) = .ok bag ∧ bag.entries = [("k", "𝄞"), ("", "\x00/")] ∧
      ∃ again, readBytes (Text.Utf8.encode bag.write) = .ok again ∧
        again.entries = bag.entries ∧ Text.Utf8.encode again.write = Text.Utf8.encode bag.write := by
  have hEntries : ((readBytes (Text.Utf8.encode storedTwice)).map entries).toOption =
      some [("k", "𝄞"), ("", "\x00/")] := by
    decide +kernel
  cases hLoaded : readBytes (Text.Utf8.encode storedTwice) with
  | error defect =>
      rw [hLoaded] at hEntries
      cases hEntries
  | ok bag =>
      rw [hLoaded] at hEntries
      exact ⟨bag, rfl, Option.some.inj hEntries, stored_and_loaded.2.1 _ bag hLoaded⟩

end ConfigGate.PropertyBag
