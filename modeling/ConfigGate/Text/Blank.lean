namespace ConfigGate.Text

/-- The twenty-nine characters that are trimmed from the ends of names, headers and request bodies:
the controls from tab to carriage return, the four information separators, the space, the next-line
control, and the separators of Unicode. -/
def isBlank (c : Char) : Bool :=
  let n := c.toNat
  (0x09 ≤ n && n ≤ 0x0D) || (0x1C ≤ n && n ≤ 0x20) || n == 0x85 || n == 0xA0 || n == 0x1680 ||
    (0x2000 ≤ n && n ≤ 0x200A) || n == 0x2028 || n == 0x2029 || n == 0x202F || n == 0x205F ||
    n == 0x3000

/-- The characters with the Unicode property White_Space. They are the blanks without the four
information separators. -/
def isSpace (c : Char) : Bool :=
  isBlank c && !(0x1C ≤ c.toNat && c.toNat ≤ 0x1F)

/-- Drop from both ends of a text the characters of a class. -/
def trimWhile (drops : Char → Bool) (text : List Char) : List Char :=
  ((text.dropWhile drops).reverse.dropWhile drops).reverse

/-- A text without the blanks at its two ends. -/
def strip (text : String) : String :=
  String.ofList (trimWhile isBlank text.toList)

/-- The text has nothing but blanks in it. -/
def allBlank (text : String) : Bool :=
  text.toList.all isBlank

/-- The last character that is left after trimming is not in the class that was trimmed. -/
theorem getLast_trimWhile {drops : Char → Bool} {text : List Char} {c : Char}
    (h : (trimWhile drops text).getLast? = some c) : drops c = false := by
  simp only [trimWhile, List.getLast?_reverse] at h
  have := List.head?_dropWhile_not drops (text.dropWhile drops).reverse
  rw [h] at this
  simpa using this

/-- The first character that is left after trimming is not in the class that was trimmed. -/
theorem head_trimWhile {drops : Char → Bool} {text : List Char} {c : Char}
    (h : (trimWhile drops text).head? = some c) : drops c = false := by
  obtain ⟨rest, hTrimmed⟩ := List.head?_eq_some_iff.mp h
  have hSuffix := List.dropWhile_suffix drops (l := (text.dropWhile drops).reverse)
  obtain ⟨dropped, hText⟩ := List.reverse_prefix.mpr hSuffix
  rw [← trimWhile, hTrimmed, List.reverse_reverse] at hText
  have hFirst := List.head?_dropWhile_not drops text
  rw [← hText] at hFirst
  exact hFirst

/-- What has been trimmed stays as it is. -/
theorem trimWhile_trimWhile (drops : Char → Bool) (text : List Char) :
    trimWhile drops (trimWhile drops text) = trimWhile drops text := by
  have hSame (left : List Char) (h : ∀ c, left.head? = some c → drops c = false) :
      left.dropWhile drops = left := by
    cases left with
    | nil => rfl
    | cons c rest => exact List.dropWhile_cons_of_neg (by simp [h c rfl])
  have hLast := hSame (trimWhile drops text).reverse fun c h =>
    getLast_trimWhile (List.head?_reverse.symm.trans h)
  rw [trimWhile, hSame _ fun c => head_trimWhile, hLast, List.reverse_reverse]

theorem strip_strip (text : String) : strip (strip text) = strip text := by
  rw [strip, strip, String.toList_ofList, trimWhile_trimWhile]

end ConfigGate.Text
