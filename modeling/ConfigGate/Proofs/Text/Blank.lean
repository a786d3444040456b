import ConfigGate.Text.Blank
import Mathlib.Data.List.TakeWhile

/-! What is left of a text that is trimmed, and what stood around it. -/
namespace ConfigGate.Text

variable {drops : Char → Bool} {before kept after text : List Char}

/-- What is trimmed stands at the two ends. -/
theorem trimWhile_between (drops : Char → Bool) (text : List Char) :
    ∃ before after, text = before ++ trimWhile drops text ++ after ∧ ∀ c ∈ before ++ after, drops c := by
  have hKept : trimWhile drops text ++ ((text.dropWhile drops).reverse.takeWhile drops).reverse =
      text.dropWhile drops := by
    rw [trimWhile, ← List.reverse_append, List.takeWhile_append_dropWhile, List.reverse_reverse]
  refine ⟨text.takeWhile drops, ((text.dropWhile drops).reverse.takeWhile drops).reverse, ?_, fun c hMem => ?_⟩
  · rw [List.append_assoc, hKept, List.takeWhile_append_dropWhile]
  · rcases List.mem_append.mp hMem with hMem | hMem
    · exact List.mem_takeWhile_imp hMem
    · exact List.mem_takeWhile_imp (List.mem_reverse.mp hMem)

/-- What begins and ends with something that stays is left of a text with the rest around it. -/
theorem trimWhile_around (hEnds : ∀ c ∈ before ++ after, drops c) (hFirst : ∀ c ∈ kept.head?, drops c = false)
    (hLast : ∀ c ∈ kept.getLast?, drops c = false) : trimWhile drops (before ++ kept ++ after) = kept := by
  have hBefore : ∀ c ∈ before, drops c := fun c hMem => hEnds c (List.mem_append_left _ hMem)
  have hAfter : ∀ c ∈ after.reverse, drops c := fun c hMem =>
    hEnds c (List.mem_append_right _ (List.mem_reverse.mp hMem))
  rw [trimWhile, List.append_assoc, List.dropWhile_append_of_pos hBefore]
  cases kept with
  | nil =>
      rw [List.nil_append, List.dropWhile_eq_nil_iff.mpr fun c hMem => hAfter c (List.mem_reverse.mpr hMem)]
      rfl
  | cons first rest =>
      obtain ⟨last, more, hReverse⟩ :=
        List.exists_cons_of_ne_nil (List.reverse_ne_nil_iff.mpr (List.cons_ne_nil first rest))
      have hStays : drops last = false := hLast last (by rw [← List.head?_reverse, hReverse]; rfl)
      rw [List.cons_append, List.dropWhile_cons_of_neg (by simp [hFirst first rfl]), ← List.cons_append,
        List.reverse_append, List.dropWhile_append_of_pos hAfter, hReverse,
        List.dropWhile_cons_of_neg (by simp [hStays]), ← hReverse, List.reverse_reverse]

/-- A text that begins and ends with something that stays is left as it is. -/
theorem trimWhile_eq_self (hFirst : ∀ c ∈ text.head?, drops c = false)
    (hLast : ∀ c ∈ text.getLast?, drops c = false) : trimWhile drops text = text := by
  have hNone : ∀ c ∈ ([] ++ [] : List Char), drops c := by simp
  simpa using trimWhile_around hNone hFirst hLast

theorem trimWhile_infix (drops : Char → Bool) (text : List Char) : trimWhile drops text <:+: text := by
  obtain ⟨before, after, hText, -⟩ := trimWhile_between drops text
  exact ⟨before, after, hText.symm⟩

theorem trimWhile_of_none (h : ∀ c ∈ text, drops c = false) : trimWhile drops text = text := by
  exact trimWhile_eq_self (fun c hMem => h c (List.mem_of_mem_head? hMem))
    fun c hMem => h c (List.mem_of_mem_getLast? hMem)

/-! Texts -/

theorem toList_strip (text : String) : (strip text).toList = trimWhile isBlank text.toList :=
  String.toList_ofList

/-- Blanks around a text are trimmed with those that it brings. -/
theorem strip_between {before after : String} (hBefore : allBlank before) (hAfter : allBlank after) (text : String) :
    strip (before ++ text ++ after) = strip text := by
  obtain ⟨inner, outer, hText, hEnds⟩ := trimWhile_between isBlank text.toList
  have hAround : (before ++ text ++ after).toList =
      (before.toList ++ inner) ++ trimWhile isBlank text.toList ++ (outer ++ after.toList) := calc
    (before ++ text ++ after).toList = before.toList ++ text.toList ++ after.toList := by
      rw [String.toList_append, String.toList_append]
    _ = before.toList ++ (inner ++ trimWhile isBlank text.toList ++ outer) ++ after.toList := by
      rw [← hText]
    _ = (before.toList ++ inner) ++ trimWhile isBlank text.toList ++ (outer ++ after.toList) := by
      simp only [List.append_assoc]
  have hBlank : ∀ c ∈ (before.toList ++ inner) ++ (outer ++ after.toList), isBlank c := by
    rw [allBlank, List.all_eq_true] at hBefore hAfter
    simp only [List.forall_mem_append] at hEnds ⊢
    exact ⟨⟨hBefore, hEnds.1⟩, hEnds.2, hAfter⟩
  rw [strip, hAround, trimWhile_around hBlank (fun c => head_trimWhile) fun c => getLast_trimWhile, ← strip]

/-- Nothing is left of a text of blanks, and something of any other. -/
theorem strip_eq_empty {text : String} : strip text = "" ↔ allBlank text := by
  rw [allBlank, List.all_eq_true]
  constructor
  · intro h
    obtain ⟨before, after, hText, hEnds⟩ := trimWhile_between isBlank text.toList
    have hNone : trimWhile isBlank text.toList = [] := by
      rw [← toList_strip, h]
      rfl
    rwa [hText, hNone, List.append_nil]
  · intro h
    have hNone := strip_between (List.all_eq_true.mpr h) (rfl : allBlank "") ""
    rwa [String.append_empty, String.append_empty] at hNone

end ConfigGate.Text
