/-! Texts in which a half of a surrogate pair may stand without the other half. Escapes can spell such halves.
No encoding has them, so that a text with one of them cannot be written to a file. -/
namespace ConfigGate.Text

/-- What stands at one place of a text: a character, or a lone half, counted from the first of all halves. -/
inductive Point where
  | char (c : Char)
  | half (n : Fin 0x800)
deriving DecidableEq, Repr

namespace Point

/-- What a number stands for. -/
def ofNat (n : Nat) : Point :=
  if h : 0xD800 ≤ n ∧ n < 0xE000 then .half ⟨n - 0xD800, by omega⟩ else .char (Char.ofNat n)

def isChar : Point → Bool
  | .char _ => true
  | .half _ => false

def half? : Point → Option (Fin 0x800)
  | .char _ => none
  | .half n => some n

/-- The points of a text that has characters alone. -/
def ofChars (chars : List Char) : List Point := chars.map .char

/-- The characters, if there is no lone half among the points. -/
def chars? : List Point → Option (List Char)
  | [] => some []
  | .char c :: rest => (chars? rest).map (c :: ·)
  | .half _ :: _ => none

@[simp] theorem isChar_char (c : Char) : (char c).isChar = true := rfl

@[simp] theorem ofChars_nil : ofChars [] = [] := rfl

@[simp] theorem ofChars_cons (c : Char) (chars : List Char) : ofChars (c :: chars) = .char c :: ofChars chars := rfl

@[simp] theorem ofChars_append (first second : List Char) :
    ofChars (first ++ second) = ofChars first ++ ofChars second :=
  List.map_append

@[simp] theorem all_isChar_ofChars (chars : List Char) : (ofChars chars).all isChar = true := by
  simp [ofChars]

theorem ofNat_of_not_half {n : Nat} (h : ¬ (0xD800 ≤ n ∧ n < 0xE000)) : ofNat n = .char (Char.ofNat n) := by
  simp [ofNat, h]

@[simp] theorem chars?_ofChars (chars : List Char) : chars? (ofChars chars) = some chars := by
  induction chars with
  | nil => rfl
  | cons c rest ih => simp [chars?, ih]

theorem isSome_chars? (points : List Point) : (chars? points).isSome = points.all isChar := by
  induction points with
  | nil => rfl
  | cons point rest ih => cases point <;> simp [chars?, isChar, ih]

/-- Nothing but its points makes a text of characters. -/
theorem ofChars_of_chars? {points : List Point} {chars : List Char} (h : chars? points = some chars) :
    ofChars chars = points := by
  induction points generalizing chars with
  | nil =>
      obtain rfl := Option.some.inj h
      rfl
  | cons point rest ih =>
      cases point with
      | half n => cases h
      | char c =>
          obtain ⟨chars, hRest, rfl⟩ := Option.map_eq_some_iff.mp h
          rw [ofChars_cons, ih hRest]

end Point

/-- A text that may have lone halves in it. -/
structure Wide where
  points : List Point
deriving DecidableEq, Repr

namespace Wide

def ofText (text : String) : Wide := ⟨Point.ofChars text.toList⟩

instance : Coe String Wide := ⟨ofText⟩

/-- The text as one of characters, unless a lone half is in it. -/
def text? (wide : Wide) : Option String := (Point.chars? wide.points).map String.ofList

/-- The text has characters alone. -/
def isWhole (wide : Wide) : Bool := wide.points.all Point.isChar

/-- The position of the first lone half, and all of them that stand in a row there. -/
def firstHalves (wide : Wide) : Nat × List (Fin 0x800) :=
  let (before, rest) := wide.points.span Point.isChar
  (before.length, (rest.takeWhile (!·.isChar)).filterMap Point.half?)

@[simp] theorem text?_ofText (text : String) : (ofText text).text? = some text := by
  simp [text?, ofText]

theorem ofText_ofList (chars : List Char) : ofText (String.ofList chars) = ⟨Point.ofChars chars⟩ := by
  rw [ofText, String.toList_ofList]

@[simp] theorem isWhole_ofText (text : String) : (ofText text).isWhole := by
  simp [isWhole, ofText]

theorem isSome_text? (wide : Wide) : wide.text?.isSome = wide.isWhole := by
  simp [text?, isWhole, Point.isSome_chars?]

theorem text?_eq_some_iff {wide : Wide} {text : String} : wide.text? = some text ↔ wide = ofText text := by
  constructor
  · intro h
    obtain ⟨chars, hChars, rfl⟩ := Option.map_eq_some_iff.mp h
    rw [ofText, String.toList_ofList, Point.ofChars_of_chars? hChars]
  · rintro rfl
    exact text?_ofText text

theorem ofText_injective : Function.Injective ofText := fun first second hSame => by
  rw [← Option.some_inj, ← text?_ofText first, hSame, text?_ofText]

@[simp] theorem ofText_inj {first second : String} : ofText first = ofText second ↔ first = second :=
  ofText_injective.eq_iff

end Wide

end ConfigGate.Text
