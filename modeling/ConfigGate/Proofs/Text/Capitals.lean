import ConfigGate.Proofs.Text.Utf8
import ConfigGate.Text.Blank
import ConfigGate.Text.Case
import Mathlib.Data.List.Basic

/-! Texts in capitals. No capital has another capital, and blanks and the signs of a path are the capitals of
themselves alone. Both are facts about the tables of letters. They are read off sets of code points that are
kept as the bits of a number each, so that a whole set is compared with another at once. -/
namespace ConfigGate.Text

/-! Sets of code points -/

/-- The number that has the code points as its bits. -/
def codeBits (codes : List Nat) : Nat :=
  codes.foldr (fun code bits => 2 ^ code ||| bits) 0

theorem testBit_codeBits {codes : List Nat} {n : Nat} : (codeBits codes).testBit n ↔ n ∈ codes := by
  induction codes with
  | nil => simp [codeBits]
  | cons code rest ih =>
      change (2 ^ code ||| codeBits rest).testBit n ↔ _
      rw [Nat.testBit_or, Bool.or_eq_true, ih, List.mem_cons, Nat.testBit_two_pow, decide_eq_true_eq, eq_comm]

theorem notMem_of_codeBits {codes others : List Nat} (h : codeBits codes &&& codeBits others = 0) {n : Nat}
    (hMem : n ∈ codes) : n ∉ others := by
  intro hOther
  have hBit : (codeBits codes &&& codeBits others).testBit n = true := by
    rw [Nat.testBit_and, testBit_codeBits.mpr hMem, testBit_codeBits.mpr hOther]
    rfl
  rw [h, Nat.zero_testBit] at hBit
  cases hBit

/-! The tables -/

/-- The small letters of a run. -/
def CapitalRun.codes (run : CapitalRun) : List Nat :=
  List.range' run.first ((run.last - run.first) / run.step + 1) run.step

theorem CapitalRun.mem_codes {run : CapitalRun} {n : Nat} (h : run.covers n) : n ∈ run.codes := by
  simp only [covers, Bool.and_eq_true, decide_eq_true_eq, beq_iff_eq] at h
  obtain ⟨⟨hFirst, hLast⟩, hStep⟩ := h
  have hSteps := Nat.div_add_mod (n - run.first) run.step
  rw [hStep, Nat.add_zero] at hSteps
  refine List.mem_range'.mpr ⟨(n - run.first) / run.step, ?_, by omega⟩
  exact Nat.lt_add_one_of_le (Nat.div_le_div_right (by omega))

/-- The code points that have a capital form of their own. -/
def smallCodes : List Nat :=
  capitalRuns.flatMap CapitalRun.codes ++ capitalExpansions.map Prod.fst

/-- The code points that capital forms are made of. Zero stands for those that are no characters. -/
def capitalCodes : List Nat :=
  0 :: ((capitalRuns.flatMap fun run => run.codes.map fun (n : Nat) => ((n : Int) + run.shift).toNat) ++
    capitalExpansions.flatMap Prod.snd)

/-- The code points of blanks, and of the dot and the two slashes. -/
def markCodes : List Nat :=
  [0x09, 0x0A, 0x0B, 0x0C, 0x0D, 0x1C, 0x1D, 0x1E, 0x1F, 0x20, 0x2E, 0x2F, 0x5C, 0x85, 0xA0, 0x1680, 0x2000, 0x2001,
    0x2002, 0x2003, 0x2004, 0x2005, 0x2006, 0x2007, 0x2008, 0x2009, 0x200A, 0x2028, 0x2029, 0x202F, 0x205F, 0x3000]

theorem capitalCodes_apart : codeBits capitalCodes &&& codeBits smallCodes = 0 := by
  decide +kernel

theorem markCodes_apart : codeBits markCodes &&& codeBits (capitalCodes ++ smallCodes) = 0 := by
  decide +kernel

theorem mem_smallCodes_of_covers {run : CapitalRun} {n : Nat} (hRun : run ∈ capitalRuns) (h : run.covers n) :
    n ∈ smallCodes :=
  List.mem_append_left _ (List.mem_flatMap.mpr ⟨run, hRun, run.mem_codes h⟩)

theorem mem_capitalCodes_of_covers {run : CapitalRun} {n : Nat} (hRun : run ∈ capitalRuns) (h : run.covers n) :
    ((n : Int) + run.shift).toNat ∈ capitalCodes :=
  List.mem_cons_of_mem _ (List.mem_append_left _
    (List.mem_flatMap.mpr ⟨run, hRun, List.mem_map.mpr ⟨n, run.mem_codes h, rfl⟩⟩))

theorem mem_capitalCodes_of_ofNat {n : Nat} (h : n ∈ capitalCodes) : (Char.ofNat n).toNat ∈ capitalCodes := by
  rcases Utf8.toNat_ofNat n with hSame | hNone
  · rwa [hSame]
  · rw [hNone]
    exact List.mem_cons_self

/-! Capital forms -/

/-- A character is its own capital form, or the tables have another one for it. -/
theorem capitals_cases (c : Char) : capitals c = [c] ∨
    c.toNat ∈ smallCodes ∧ capitals c ≠ [] ∧ ∀ d ∈ capitals c, d.toNat ∈ capitalCodes := by
  unfold capitals
  split
  · split
    · rename_i hSmall
      have hLow : 0x61 ≤ c.toNat := hSmall.1
      have hHigh : c.toNat ≤ 0x7A := hSmall.2
      have hRun : (⟨0x61, 0x7A, 1, -32⟩ : CapitalRun) ∈ capitalRuns := List.mem_cons_self
      have hCovers : CapitalRun.covers ⟨0x61, 0x7A, 1, -32⟩ c.toNat := by
        simp [CapitalRun.covers, hLow, hHigh, Nat.mod_one]
      refine .inr ⟨mem_smallCodes_of_covers hRun hCovers, List.cons_ne_nil _ _, fun d hMem => ?_⟩
      rw [List.mem_singleton.mp hMem, show c.toNat - 0x20 = ((c.toNat : Int) + -32).toNat by omega]
      exact mem_capitalCodes_of_ofNat (mem_capitalCodes_of_covers hRun hCovers)
    · exact .inl rfl
  · split
    · rename_i expansion hFound
      obtain ⟨before, after, hEntries, _⟩ := List.lookup_eq_some_iff.mp hFound
      have hMem : (c.toNat, expansion) ∈ capitalExpansions := by simp [hEntries]
      have hSome : ∀ entry ∈ capitalExpansions, entry.2 ≠ [] := by decide
      refine .inr ⟨List.mem_append_right _ (List.mem_map_of_mem hMem), by simpa using hSome _ hMem, fun d hd => ?_⟩
      obtain ⟨n, hn, rfl⟩ := List.mem_map.mp hd
      exact mem_capitalCodes_of_ofNat
        (List.mem_cons_of_mem _ (List.mem_append_right _ (List.mem_flatMap.mpr ⟨_, hMem, hn⟩)))
    · split
      · rename_i run hFound
        have hRun := List.mem_of_find?_eq_some hFound
        have hCovers := List.find?_some hFound
        refine .inr ⟨mem_smallCodes_of_covers hRun hCovers, List.cons_ne_nil _ _, fun d hMem => ?_⟩
        rw [List.mem_singleton.mp hMem]
        exact mem_capitalCodes_of_ofNat (mem_capitalCodes_of_covers hRun hCovers)
      · exact .inl rfl

theorem capitals_of_notMem {c : Char} (h : c.toNat ∉ smallCodes) : capitals c = [c] :=
  (capitals_cases c).resolve_right fun hCase => h hCase.1

theorem capitals_ne_nil (c : Char) : capitals c ≠ [] := by
  rcases capitals_cases c with h | h
  · rw [h]
    exact List.cons_ne_nil _ _
  · exact h.2.1

/-- A capital has no other capital. -/
theorem capitals_of_mem {c d : Char} (h : d ∈ capitals c) : capitals d = [d] := by
  rcases capitals_cases c with hSame | ⟨_, _, hCodes⟩
  · rw [hSame, List.mem_singleton] at h
    rwa [h]
  · exact capitals_of_notMem (notMem_of_codeBits capitalCodes_apart (hCodes d h))

/-- A mark is the capital of itself alone. -/
theorem mem_capitals_of_mark {mark : Char} (hMark : mark.toNat ∈ markCodes) {c : Char} :
    mark ∈ capitals c ↔ c = mark := by
  have hApart := notMem_of_codeBits markCodes_apart hMark
  rw [List.mem_append, not_or] at hApart
  constructor
  · intro h
    rcases capitals_cases c with hSame | ⟨_, _, hCodes⟩
    · rw [hSame, List.mem_singleton] at h
      exact h.symm
    · exact absurd (hCodes mark h) hApart.1
  · rintro rfl
    rw [capitals_of_notMem hApart.2]
    exact List.mem_singleton_self c

theorem mem_markCodes_of_isBlank {c : Char} (h : isBlank c) : c.toNat ∈ markCodes := by
  simp only [isBlank, Bool.or_eq_true, Bool.and_eq_true, decide_eq_true_eq, beq_iff_eq] at h
  simp only [markCodes, List.mem_cons, List.not_mem_nil, or_false]
  omega

/-- Capitals are blank only for blanks. -/
theorem isBlank_of_mem_capitals {c d : Char} (h : d ∈ capitals c) (hBlank : isBlank d) : isBlank c := by
  rwa [(mem_capitals_of_mark (mem_markCodes_of_isBlank hBlank)).mp h]

theorem slash_notMem_capitals {c : Char} (h : c ≠ '/') : '/' ∉ capitals c :=
  mt (mem_capitals_of_mark (by decide)).mp h

theorem backslash_notMem_capitals {c : Char} (h : c ≠ '\\') : '\\' ∉ capitals c :=
  mt (mem_capitals_of_mark (by decide)).mp h

/-! Texts -/

@[simp] theorem toList_upper (text : String) : (upper text).toList = text.toList.flatMap capitals :=
  String.toList_ofList

/-- A text in capitals stays as it is. -/
theorem upper_upper (text : String) : upper (upper text) = upper text := by
  refine String.toList_inj.mp ?_
  rw [toList_upper, toList_upper, List.flatMap_assoc]
  congr 1
  funext c
  have hSame : (capitals c).flatMap capitals = (capitals c).flatMap fun d => [d] :=
    List.flatMap_congr fun d hMem => capitals_of_mem hMem
  rw [hSame, List.flatMap_singleton']

theorem upper_eq_empty {text : String} : upper text = "" ↔ text = "" := by
  rw [← String.toList_inj, toList_upper, ← String.toList_inj]
  change _ = [] ↔ _ = []
  rw [List.flatMap_eq_nil_iff]
  constructor
  · intro h
    exact List.eq_nil_iff_forall_not_mem.mpr fun c hMem => capitals_ne_nil c (h c hMem)
  · rintro h
    simp [h]

/-- A dot alone is in capitals what it was before. -/
theorem upper_eq_dot {text : String} : upper text = "." ↔ text = "." := by
  refine ⟨fun h => ?_, fun h => by rw [h]; decide⟩
  have hChars : text.toList.flatMap capitals = ['.'] := by rw [← toList_upper, h]; rfl
  have hDot (c : Char) (hMem : c ∈ text.toList) : c = '.' := by
    obtain ⟨d, hd⟩ := List.exists_mem_of_ne_nil _ (capitals_ne_nil c)
    have hText : d ∈ text.toList.flatMap capitals := List.mem_flatMap.mpr ⟨c, hMem, hd⟩
    rw [hChars, List.mem_singleton] at hText
    exact (mem_capitals_of_mark (by decide)).mp (hText ▸ hd)
  have hDots : text.toList = List.replicate text.toList.length '.' := List.eq_replicate_of_mem hDot
  have hOne : text.toList.length = 1 := by
    rw [hDots, List.flatMap_replicate] at hChars
    simpa [show capitals '.' = ['.'] from rfl] using congrArg List.length hChars
  rw [hOne] at hDots
  exact String.toList_inj.mp hDots

end ConfigGate.Text
