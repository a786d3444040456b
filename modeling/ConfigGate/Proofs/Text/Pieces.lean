/-! The pieces of a list between separators. -/
namespace ConfigGate.Text

open List

variable {α β : Type}

/-- Nothing before an element that stays is kept from being dropped by what comes after it. -/
theorem dropWhile_append_cons {drops : α → Bool} {a : α} (h : drops a = false) (front back : List α) :
    (front ++ a :: back).dropWhile drops = front.dropWhile drops ++ a :: back := by
  induction front with
  | nil => simp [h]
  | cons first rest ih =>
      by_cases hDrop : drops first
      · rw [cons_append, dropWhile_cons_of_pos hDrop, dropWhile_cons_of_pos hDrop, ih]
      · rw [cons_append, dropWhile_cons_of_neg hDrop, dropWhile_cons_of_neg hDrop, cons_append]

variable [BEq α] [LawfulBEq α] [BEq β] [LawfulBEq β] {sep : α} {piece text front : List α}

/-- A piece has nothing in it but what stands in the list, without separators. -/
theorem mem_of_mem_splitOn (h : piece ∈ text.splitOn sep) {a : α} (ha : a ∈ piece) :
    a ∈ text ∧ a ≠ sep := by
  induction text generalizing piece with
  | nil =>
      rw [splitOn_nil, mem_singleton] at h
      rw [h] at ha
      cases ha
  | cons first rest ih =>
      rw [splitOn_cons_eq_if_modifyHead] at h
      split at h
      · rcases mem_cons.mp h with rfl | h
        · cases ha
        · exact ⟨.tail _ (ih h ha).1, (ih h ha).2⟩
      · rename_i hFirst
        rcases hSplit : rest.splitOn sep with _ | ⟨head, more⟩
        · exact absurd hSplit (splitOn_ne_nil sep rest)
        · rw [hSplit, modifyHead_cons] at h
          rw [hSplit] at ih
          rcases mem_cons.mp h with rfl | h
          · rcases mem_cons.mp ha with rfl | ha
            · exact ⟨.head _, by simpa using hFirst⟩
            · exact ⟨.tail _ (ih (.head _) ha).1, (ih (.head _) ha).2⟩
          · exact ⟨.tail _ (ih (.tail _ h) ha).1, (ih (.tail _ h) ha).2⟩

/-- What has no separator goes to the first piece. -/
theorem splitOn_append_of_notMem (h : sep ∉ front) (back : List α) :
    (front ++ back).splitOn sep = (back.splitOn sep).modifyHead (front ++ ·) := by
  induction front with
  | nil =>
      rw [nil_append]
      cases back.splitOn sep <;> rfl
  | cons first rest ih =>
      rw [cons_append, splitOn_cons_eq_if_modifyHead,
        if_neg (by simpa using fun hFirst : first = sep => h (by simp [hFirst])),
        ih fun hMem => h (by simp [hMem])]
      cases back.splitOn sep <;> rfl

/-- Pieces are mapped one by one if nothing else becomes a separator. -/
theorem splitOn_map {f : α → β} (h : ∀ a ∈ text, f a = f sep → a = sep) :
    (text.map f).splitOn (f sep) = (text.splitOn sep).map (map f) := by
  induction text with
  | nil => simp
  | cons first rest ih =>
      have hFirst : (f first == f sep) = (first == sep) := by
        rw [Bool.eq_iff_iff, beq_iff_eq, beq_iff_eq]
        exact ⟨h first (.head _), congrArg f⟩
      rw [map_cons, splitOn_cons_eq_if_modifyHead, splitOn_cons_eq_if_modifyHead, hFirst,
        ih fun a ha => h a (.tail _ ha)]
      split
      · rfl
      · cases rest.splitOn sep <;> rfl

/-- What is dropped at the beginning is dropped from the first piece. -/
theorem splitOn_dropWhile {drops : α → Bool} (h : drops sep = false) (text : List α) :
    (text.dropWhile drops).splitOn sep = (text.splitOn sep).modifyHead (dropWhile drops) := by
  induction text with
  | nil => rfl
  | cons first rest ih =>
      by_cases hSep : first = sep
      · subst hSep
        rw [dropWhile_cons_of_neg (by simp [h]), splitOn_cons_eq_if_modifyHead, if_pos (by simp)]
        rfl
      · have hRest := splitOn_ne_nil sep rest
        rw [splitOn_cons_eq_if_modifyHead, if_neg (by simpa using hSep)]
        by_cases hDrop : drops first
        · rw [dropWhile_cons_of_pos hDrop, ih]
          cases rest.splitOn sep with
          | nil => rfl
          | cons head more => simp [dropWhile_cons_of_pos hDrop]
        · rw [dropWhile_cons_of_neg hDrop, splitOn_cons_eq_if_modifyHead,
            if_neg (by simpa using hSep)]
          cases rest.splitOn sep with
          | nil => rfl
          | cons head more => simp [dropWhile_cons_of_neg hDrop]

/-- One more element at the end belongs to the last piece, unless it is a separator. -/
theorem splitOn_concat {a : α} (ha : a ≠ sep) {pieces : List (List α)} {last : List α}
    (h : text.splitOn sep = pieces ++ [last]) :
    (text ++ [a]).splitOn sep = pieces ++ [last ++ [a]] := by
  induction text generalizing pieces last with
  | nil =>
      rw [splitOn_nil, eq_comm, append_eq_singleton_iff] at h
      obtain ⟨rfl, hLast⟩ | ⟨_, hNone⟩ := h
      · rw [singleton_inj] at hLast
        subst hLast
        exact splitOn_eq_singleton (by simpa using ha.symm)
      · cases hNone
  | cons first rest ih =>
      rw [splitOn_cons_eq_if_modifyHead] at h
      rw [cons_append, splitOn_cons_eq_if_modifyHead]
      split at h
      · rename_i hFirst
        rw [if_pos hFirst]
        cases pieces with
        | nil =>
            rw [nil_append, cons.injEq] at h
            exact absurd h.2 (splitOn_ne_nil sep rest)
        | cons head pieces =>
            rw [cons_append, cons.injEq] at h
            rw [ih h.2, ← h.1]
            rfl
      · rename_i hFirst
        rw [if_neg hFirst]
        rcases hRest : rest.splitOn sep with _ | ⟨head, more⟩
        · exact absurd hRest (splitOn_ne_nil sep rest)
        rw [hRest, modifyHead_cons] at h
        cases pieces with
        | nil =>
            rw [nil_append, cons.injEq] at h
            obtain ⟨rfl, rfl⟩ := h
            rw [@ih [] head hRest]
            rfl
        | cons piece pieces =>
            rw [cons_append, cons.injEq] at h
            obtain ⟨rfl, rfl⟩ := h
            rw [@ih (head :: pieces) last hRest]
            rfl

/-- Backwards the pieces come backwards. -/
theorem splitOn_reverse (text : List α) :
    text.reverse.splitOn sep = ((text.splitOn sep).map reverse).reverse := by
  induction text with
  | nil => rfl
  | cons first rest ih =>
      rw [reverse_cons, splitOn_cons_eq_if_modifyHead]
      by_cases hSep : first = sep
      · subst hSep
        rw [splitOn_append_cons_self, ih, if_pos (by simp)]
        simp
      · rw [if_neg (by simpa using hSep)]
        rcases hRest : rest.splitOn sep with _ | ⟨head, more⟩
        · exact absurd hRest (splitOn_ne_nil sep rest)
        · rw [hRest, map_cons, reverse_cons] at ih
          rw [splitOn_concat hSep ih]
          simp

end ConfigGate.Text
