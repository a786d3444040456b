import ConfigGate.Proofs.Tree.Walk
import ConfigGate.Proofs.Tree.WellFormed

/-! What a walk sees of a tree: the kinds of the entries, but no contents. A walk in a tree with more
files finds what it found before, and perhaps a file where there was a free name. -/
namespace ConfigGate

/-- What a walk sees of an entry. -/
inductive Shape where
  | directory (mode : Nat)
  | file
  | link (target : String)
deriving DecidableEq, Repr

/-- What a walk sees of an entry. -/
def Entry.shape : Entry → Shape
  | .directory mode _ => .directory mode
  | .file _ => .file
  | .link target => .link target

namespace Tree

open Path

/-- What a walk sees at a location. -/
def shape? (tree : Tree) (location : Location) : Option Shape :=
  Option.map Entry.shape <| tree.entry? location

variable {tree other : Tree} {location : Location}

theorem shape?_eq_timeless (tree : Tree) (location : Location) :
    tree.shape? location = (tree.timeless? location).map Entry.shape := by
  unfold shape? timeless?
  rcases tree.entry? location with _ | (_ | _ | _) <;> rfl

theorem shape?_congr (h : other.timeless? location = tree.timeless? location) :
    other.shape? location = tree.shape? location := by
  rw [shape?_eq_timeless, shape?_eq_timeless, h]

theorem shape?_isSome : (tree.shape? location).isSome = (tree.entry? location).isSome := by
  simp [shape?]

theorem shape?_eq_none : tree.shape? location = none ↔ tree.entry? location = none := by
  simp [shape?]

theorem shape?_eq_file : tree.shape? location = some .file ↔ (tree.fileAt? location).isSome := by
  unfold shape? fileAt?
  rcases tree.entry? location with _ | (_ | _ | _) <;> simp [Entry.shape]

theorem shape?_eq_link {target : String} :
    tree.shape? location = some (.link target) ↔ tree.linkAt? location = some target := by
  unfold shape? linkAt?
  rcases tree.entry? location with _ | (_ | _ | _) <;> simp [Entry.shape]

theorem shape?_eq_directory {mode : Nat} :
    tree.shape? location = some (.directory mode) ↔ tree.directoryModeAt? location = some mode := by
  unfold shape? directoryModeAt?
  rcases tree.entry? location with _ | (_ | _ | _) <;> simp [Entry.shape]

/-! Trees of one shape -/

section

variable (h : ∀ location, other.shape? location = tree.shape? location)

include h

theorem directoryModeAt?_of_shape (location : Location) :
    other.directoryModeAt? location = tree.directoryModeAt? location := by
  ext mode
  rw [← shape?_eq_directory, h, shape?_eq_directory]

theorem stretch_of_shape (purpose : Purpose) (here : Location) (parts : List String) :
    stretch other purpose here parts = stretch tree purpose here parts := by
  induction parts generalizing here with
  | nil => rfl
  | cons part rest ih =>
      have hShape := h (here ++ [part])
      unfold shape? at hShape
      simp only [stretch, directoryModeAt?_of_shape h, ih]
      rcases hOther : other.entry? (here ++ [part]) with _ | (_ | _ | _) <;>
        rcases hEntry : tree.entry? (here ++ [part]) with _ | (_ | _ | _) <;>
        simp_all [Entry.shape]

theorem walk_of_shape (purpose : Purpose) (budget : Nat) (here : Location) (parts : List String) :
    walk other purpose budget here parts = walk tree purpose budget here parts := by
  induction budget generalizing here parts with
  | zero => rw [walk, walk, stretch_of_shape h]
  | succ budget ih =>
      rw [walk, walk, stretch_of_shape h]
      cases stretch tree purpose here parts with
      | arrived destination => rfl
      | failed errno => rfl
      | link directory target rest => exact ih _ _

/-- Paths lead to the same places in trees of one shape. -/
theorem find_of_shape (working : Location) (purpose : Purpose) (p : Path) :
    other.find working purpose p = tree.find working purpose p := by
  rw [find, find, walk_of_shape h]

end

/-- The other tree has all entries of the first, and files where the first has none. -/
def Extends (tree other : Tree) : Prop :=
  ∀ location, other.shape? location = tree.shape? location ∨
    tree.shape? location = none ∧ other.shape? location = some .file

namespace Extends

theorem refl (tree : Tree) : tree.Extends tree := fun _ => .inl rfl

theorem of_timeless (h : ∀ location, other.timeless? location = tree.timeless? location) :
    tree.Extends other :=
  fun location => .inl (shape?_congr (h location))

/-- What is there stays as it is. -/
theorem shape? (h : tree.Extends other) (hSome : (tree.shape? location).isSome) :
    other.shape? location = tree.shape? location := by
  rcases h location with hSame | ⟨hNone, _⟩
  · exact hSame
  · rw [hNone] at hSome
    cases hSome

theorem linkAt?_some (h : tree.Extends other) {target : String}
    (hLink : tree.linkAt? location = some target) : other.linkAt? location = some target := by
  rw [← shape?_eq_link] at hLink ⊢
  rw [h.shape? (by simp [hLink]), hLink]

theorem linkAt? (h : tree.Extends other) : other.linkAt? location = tree.linkAt? location := by
  cases hLink : tree.linkAt? location with
  | some target => exact h.linkAt?_some hLink
  | none =>
      cases hOther : other.linkAt? location with
      | none => rfl
      | some target =>
          rw [← shape?_eq_link] at hOther
          rcases h location with hSame | ⟨_, hFile⟩
          · rw [hSame, shape?_eq_link, hLink] at hOther
            cases hOther
          · rw [hFile] at hOther
            cases hOther

theorem directoryModeAt? (h : tree.Extends other) :
    other.directoryModeAt? location = tree.directoryModeAt? location := by
  cases hMode : tree.directoryModeAt? location with
  | some mode =>
      rw [← shape?_eq_directory] at hMode ⊢
      rw [h.shape? (by simp [hMode]), hMode]
  | none =>
      cases hOther : other.directoryModeAt? location with
      | none => rfl
      | some mode =>
          rw [← shape?_eq_directory] at hOther
          rcases h location with hSame | ⟨_, hFile⟩
          · rw [hSame, shape?_eq_directory, hMode] at hOther
            cases hOther
          · rw [hFile] at hOther
            cases hOther

theorem isDirectoryAt (h : tree.Extends other) :
    other.isDirectoryAt location = tree.isDirectoryAt location := by
  rw [Tree.isDirectoryAt, Tree.isDirectoryAt, h.directoryModeAt?]

theorem isSearchable (h : tree.Extends other) :
    other.isSearchable location = tree.isSearchable location := by
  rw [Tree.isSearchable, Tree.isSearchable, h.directoryModeAt?]

theorem isOpenToChange (h : tree.Extends other) :
    other.isOpenToChange location = tree.isOpenToChange location := by
  rw [Tree.isOpenToChange, Tree.isOpenToChange, h.directoryModeAt?]

theorem entry?_isSome (h : tree.Extends other) (hSome : (tree.entry? location).isSome) :
    (other.entry? location).isSome := by
  rw [← shape?_isSome] at hSome ⊢
  rw [h.shape? hSome]
  exact hSome

end Extends

/-- What stands in a tree where a walk has arrived in a smaller one. -/
def Destination.within (other : Tree) : Destination → Destination
  | .present location => .present location
  | .absent directory name =>
    if (other.entry? (directory ++ [name])).isSome then .present (directory ++ [name])
    else .absent directory name

/-- The same for the end of a stretch. -/
def Stretch.within (other : Tree) : Stretch → Stretch
  | .arrived destination => .arrived (destination.within other)
  | out => out

/-- A stretch in a larger tree goes the same way. -/
theorem Strides.grow (hTree : tree.Extends other) {purpose : Purpose} {here : Location}
    {parts : List String} {out : Stretch} (h : Strides tree purpose here parts out) :
    Strides other purpose here parts (out.within other) := by
  induction h with
  | done here => exact .done here
  | idle hDirectory hPart hSearch _ ih =>
      refine .idle (by rwa [hTree.isDirectoryAt]) hPart ?_ ih
      rwa [hTree.isSearchable]
  | up hSearch _ ih => exact .up (by rwa [hTree.isSearchable]) ih
  | enter hPart hSearch hLength hFile hSome hLink _ ih =>
      exact .enter hPart (by rwa [hTree.isSearchable]) hLength hFile (hTree.entry?_isSome hSome)
        (by rwa [hTree.linkAt?]) ih
  | stop hPart hSearch hLength hLink hEntry =>
      exact .stop hPart (by rwa [hTree.isSearchable]) hLength (hTree.linkAt?_some hLink) hEntry
  | link hPart hSearch hLength hFile hLink hFollow =>
      exact .link hPart (by rwa [hTree.isSearchable]) hLength hFile (hTree.linkAt?_some hLink)
        hFollow
  | @free here part hPart hSearch hLength hNone =>
      have hSearch' : other.isSearchable here := by rwa [hTree.isSearchable]
      unfold Stretch.within Destination.within
      dsimp only
      split
      · rename_i hSome
        refine .enter hPart hSearch' hLength (by simp) hSome ?_ (.done _)
        rw [hTree.linkAt?, Tree.linkAt?, hNone]
      · rename_i hNone'
        exact .free hPart hSearch' hLength (by simpa using hNone')

/-- A walk in a larger tree arrives at the same place. -/
theorem Walks.grow (hTree : tree.Extends other) {purpose : Purpose} {budget : Nat} {here : Location}
    {parts : List String} {destination : Destination}
    (h : Walks tree purpose destination budget here parts) :
    Walks other purpose (destination.within other) budget here parts := by
  induction h with
  | arrived hStrides => exact .arrived (hStrides.grow hTree)
  | follow hStrides _ ih => exact .follow (hStrides.grow hTree) ih

theorem find_grow (hTree : tree.Extends other) {working : Location} {purpose : Purpose} {p : Path}
    {destination : Destination} (h : tree.find working purpose p = .ok destination) :
    other.find working purpose p = .ok (destination.within other) := by
  obtain ⟨hShort, hWalk⟩ := find_ok.mp h
  exact find_ok.mpr ⟨hShort, hWalk.grow hTree⟩

end Tree

end ConfigGate
