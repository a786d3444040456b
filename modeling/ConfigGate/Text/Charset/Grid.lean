import ConfigGate.Text.Charset.Basic

/-! Characters in rows and cells, and texts in which a character may take several bytes. -/
namespace ConfigGate.Text.Charset

/-- Characters that stand side by side in a row. -/
structure Run where
  row : Nat
  /-- The cell of the first of them. -/
  first : Nat
  characters : String
deriving DecidableEq, Repr

/-- Characters in rows and cells, of which some are empty. -/
abbrev Grid := List Run

/-- The character in a cell of a row. -/
def Grid.get? (grid : Grid) (row cell : Nat) : Option Char :=
  grid.findSome? fun run =>
    if run.row = row && run.first ≤ cell then run.characters.toList[cell - run.first]? else none

/-- The characters in the order of their rows and cells. -/
def Grid.characters (grid : Grid) : List Char := grid.flatMap (·.characters.toList)

/-- The characters between two code points, the second not included, that are not among those taken, in
their order. -/
def remaining (taken : List Char) (first bound : Nat) : List Char :=
  let isTaken := taken.foldl (fun isTaken c => isTaken.setIfInBounds c.toNat true)
    (Array.replicate bound false)
  let free := (List.range' first (bound - first)).filter fun code =>
    code.isValidChar && isTaken[code]? == some false
  free.map Char.ofNat

/-- What bytes begin with. -/
structure Step (σ : Type) where
  /-- The state in which the bytes that follow are read. -/
  state : σ
  characters : List Char
  /-- How many bytes this takes beyond the first. -/
  further : Nat

/-- Read characters from the first byte on, as long as there are bytes. `next` reads what a byte and those
after it begin with, and `found` holds the characters so far, latest first. -/
def readSteps {σ : Type} (next : σ → UInt8 → Bytes → Except Defect (Step σ)) (state : σ)
    (found : List Char) : Bytes → Except Defect (List Char)
  | [] => .ok found.reverse
  | b :: rest =>
    match next state b rest with
    | .error defect => .error defect
    | .ok step =>
      readSteps next step.state (step.characters.reverse ++ found) (rest.drop step.further)
termination_by bytes => bytes.length
decreasing_by
  simp only [List.length_drop, List.length_cons]
  omega

/-- Read characters one after another, in a charset in which they do not depend on those before them.
`next` tells what a byte and those after it begin with, and how many of the latter belong to it. -/
def readEach (next : UInt8 → Bytes → Option (List Char × Nat)) (bytes : Bytes) :
    Except Defect (List Char) :=
  readSteps (fun () b rest => match next b rest with
    | some (characters, further) => .ok ⟨(), characters, further⟩
    | none => .error .malformed) () [] bytes

/-- Read a byte of ASCII as itself and any other one together with the byte after it. -/
def readPair (pair : UInt8 → UInt8 → Option Char) (b : UInt8) (rest : Bytes) :
    Option (List Char × Nat) :=
  if b < 0x80 then some ([Char.ofNat b.toNat], 0)
  else match rest with
    | trail :: _ => (pair b trail).map fun c => ([c], 1)
    | [] => none

end ConfigGate.Text.Charset
