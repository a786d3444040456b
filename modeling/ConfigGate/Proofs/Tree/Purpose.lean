import ConfigGate.Proofs.Tree.Walk

/-! Walks for different purposes. They differ at the end of the path only: whether a link there is
followed, and whether a slash after it is allowed. -/
namespace ConfigGate.Tree

open Path

variable {tree : Tree} {working : Location} {p : Path}

/-! Writing and reading -/

theorem Strides.of_creation {here : Location} {parts : List String} {out : Stretch}
    (h : Strides tree .creation here parts out) : Strides tree .target here parts out := by
  induction h with
  | done here => exact .done here
  | idle hDirectory hPart hSearch _ ih => exact .idle hDirectory hPart hSearch ih
  | up hSearch _ ih => exact .up hSearch ih
  | enter hPart hSearch hLength _ hSome hLink _ ih =>
      exact .enter hPart hSearch hLength (by simp) hSome hLink ih
  | stop _ _ _ _ hEntry => cases hEntry
  | link hPart hSearch hLength _ hLink _ =>
      exact .link hPart hSearch hLength (by simp) hLink (by simp)
  | free hPart hSearch hLength hNone => exact .free hPart hSearch hLength hNone

theorem Walks.of_creation {budget : Nat} {here : Location} {parts : List String}
    {destination : Destination} (h : Walks tree .creation destination budget here parts) :
    Walks tree .target destination budget here parts := by
  induction h with
  | arrived hStrides => exact .arrived hStrides.of_creation
  | follow hStrides _ ih => exact .follow hStrides.of_creation ih

/-- What may be written to is what would be read. -/
theorem find_target_of_creation {destination : Destination}
    (h : tree.find working .creation p = .ok destination) :
    tree.find working .target p = .ok destination := by
  obtain ⟨hShort, hWalk⟩ := find_ok.mp h
  exact find_ok.mpr ⟨hShort, hWalk.of_creation⟩

/-! More components -/

/-- Where a stretch is with more components behind its last one. -/
def Stretch.onward (tree : Tree) (second : List String) : Stretch → Stretch
  | .arrived (.present there) => stretch tree .entry there second
  | .arrived (.absent _ _) => .failed .noEntry
  | .failed errno => .failed errno
  | .link directory target rest => .link directory target (rest ++ second)

theorem Strides.stretch_onward {here : Location} {first second : List String} {out : Stretch}
    (h : Strides tree .target here first out) (hSecond : second ≠ []) :
    stretch tree .entry here (first ++ second) = out.onward tree second := by
  induction h with
  | done => rfl
  | idle hDirectory hPart hSearch _ ih =>
      exact (stretch_idle hDirectory hPart hSearch).trans ih
  | up hSearch _ ih => exact (stretch_up hSearch).trans ih
  | enter hPart hSearch hLength _ hSome hLink _ ih =>
      exact (stretch_enter hPart hSearch hLength (by simp) hSome hLink).trans ih
  | stop _ _ _ _ hEntry => cases hEntry
  | link hPart hSearch hLength _ hLink _ =>
      refine (stretch_lookup hPart hSearch hLength (by simp)).trans ?_
      rw [entry?_of_linkAt? hLink]
      simp [hSecond, Stretch.onward]
  | free hPart hSearch hLength hNone =>
      refine (stretch_lookup hPart hSearch hLength (by simp)).trans ?_
      rw [hNone]
      simp [hSecond, Stretch.onward]

theorem Stumbles.append {here : Location} {first : List String} {errno : Errno}
    (h : Stumbles tree .target here first errno) (second : List String) :
    Stumbles tree .entry here (first ++ second) errno := by
  induction h with
  | notDirectory hHere => exact .notDirectory hHere
  | permission hDirectory hSearch hPart => exact .permission hDirectory hSearch hPart
  | nameTooLong hPart hSearch hLength => exact .nameTooLong hPart hSearch hLength
  | slash _ _ _ hCreation => cases hCreation
  | missing hPart hSearch hLength _ hNone hRest =>
      exact .missing hPart hSearch hLength (by simp) hNone (by simp [hRest])
  | idle hDirectory hPart hSearch _ ih => exact .idle hDirectory hPart hSearch ih
  | up hSearch _ ih => exact .up hSearch ih
  | enter hPart hSearch hLength _ hSome hLink _ ih =>
      exact .enter hPart hSearch hLength (by simp) hSome hLink ih

/-- A link at the end of the first components is followed if more components come after it. -/
theorem stretch_append {here : Location} {first second : List String} (hSecond : second ≠ []) :
    stretch tree .entry here (first ++ second) =
      (stretch tree .target here first).onward tree second := by
  have hGoes := goes_stretch tree .target here first
  cases hOut : stretch tree .target here first with
  | failed errno =>
      rw [hOut] at hGoes
      exact stretch_failed_iff.mpr (Stumbles.append hGoes second)
  | arrived destination =>
      rw [hOut] at hGoes
      exact Strides.stretch_onward hGoes hSecond
  | link directory target rest =>
      rw [hOut] at hGoes
      exact Strides.stretch_onward hGoes hSecond

/-! A free name -/

private theorem getLast?_tail {part : String} {rest : List String}
    (h : (part :: rest).getLast? ≠ some "") : rest.getLast? ≠ some "" := by
  cases rest with
  | nil => simp
  | cons next rest => rwa [List.getLast?_cons_cons] at h

private theorem getLast?_cons_of_eq {part : String} {rest parts : List String} (hRest : rest ≠ [])
    (h : rest.getLast? = parts.getLast?) : rest.getLast? = (part :: parts).getLast? := by
  cases parts with
  | nil =>
      rw [List.getLast?_nil, List.getLast?_eq_none_iff] at h
      exact absurd h hRest
  | cons next parts => rw [List.getLast?_cons_cons, h]

/-- A way to a free name does not depend on its purpose. -/
theorem Strides.of_entry {here : Location} {parts : List String} {out : Stretch}
    (h : Strides tree .entry here parts out) (hParts : parts.getLast? ≠ some "")
    (hOut : ∀ location, out ≠ .arrived (.present location)) (purpose : Purpose) :
    Strides tree purpose here parts out := by
  induction h with
  | done here => exact absurd rfl (hOut here)
  | idle hDirectory hPart hSearch _ ih =>
      exact .idle hDirectory hPart hSearch (ih (getLast?_tail hParts) hOut)
  | up hSearch _ ih => exact .up hSearch (ih (getLast?_tail hParts) hOut)
  | enter hPart hSearch hLength _ hSome hLink _ ih =>
      refine .enter hPart hSearch hLength ?_ hSome hLink (ih (getLast?_tail hParts) hOut)
      rintro _ rfl
      simp at hParts
  | stop => exact absurd rfl (hOut _)
  | @link _ part target rest hPart hSearch hLength _ hLink hFollow =>
      refine .link hPart hSearch hLength ?_ hLink ?_
      · rintro _ rfl
        simp at hParts
      · rintro rfl
        exact absurd rfl (hFollow rfl)
  | free hPart hSearch hLength hNone => exact .free hPart hSearch hLength hNone

/-- A link is followed to the entry of a path only if more components come after it. -/
theorem Strides.rest_of_entry {here directory : Location} {parts rest : List String}
    {target : String} (h : Strides tree .entry here parts (.link directory target rest)) :
    rest ≠ [] ∧ rest.getLast? = parts.getLast? := by
  generalize hOut : Stretch.link directory target rest = out at h
  induction h with
  | done => cases hOut
  | stop => cases hOut
  | free => cases hOut
  | link _ _ _ _ _ hFollow =>
      cases hOut
      have hRest : rest ≠ [] := fun hNil => absurd rfl (hFollow hNil)
      exact ⟨hRest, getLast?_cons_of_eq hRest rfl⟩
  | idle _ _ _ _ ih =>
      obtain ⟨hRest, hLast⟩ := ih hOut
      exact ⟨hRest, getLast?_cons_of_eq hRest hLast⟩
  | up _ _ ih =>
      obtain ⟨hRest, hLast⟩ := ih hOut
      exact ⟨hRest, getLast?_cons_of_eq hRest hLast⟩
  | enter _ _ _ _ _ _ _ ih =>
      obtain ⟨hRest, hLast⟩ := ih hOut
      exact ⟨hRest, getLast?_cons_of_eq hRest hLast⟩

theorem Walks.of_absent {budget : Nat} {here directory : Location} {parts : List String}
    {name : String} (h : Walks tree .entry (.absent directory name) budget here parts)
    (hParts : parts.getLast? ≠ some "") (purpose : Purpose) :
    Walks tree purpose (.absent directory name) budget here parts := by
  induction h with
  | arrived hStrides => exact .arrived (hStrides.of_entry hParts (by simp) purpose)
  | follow hStrides _ ih =>
      obtain ⟨hRest, hLast⟩ := hStrides.rest_of_entry
      refine .follow (hStrides.of_entry hParts (by simp) purpose) (ih ?_)
      rw [List.getLast?_append, List.getLast?_eq_some_getLast hRest, Option.some_or,
        ← List.getLast?_eq_some_getLast hRest, hLast]
      exact hParts

/-- A name that is free to be made is free for every purpose. -/
theorem find_of_absent {directory : Location} {name : String}
    (h : tree.find working .entry p = .ok (.absent directory name))
    (hParts : p.parts.getLast? ≠ some "") (purpose : Purpose) :
    tree.find working purpose p = .ok (.absent directory name) := by
  obtain ⟨hShort, hWalk⟩ := find_ok.mp h
  exact find_ok.mpr ⟨hShort, hWalk.of_absent hParts purpose⟩

/-! The entry of a path -/

/-- A way that does not end at a link does not depend on whether the last link is followed. -/
theorem Strides.to_entry {here : Location} {parts : List String} {out : Stretch}
    (h : Strides tree .target here parts out) (hOut : ∀ directory target,
      out ≠ .link directory target []) : Strides tree .entry here parts out := by
  induction h with
  | done here => exact .done here
  | idle hDirectory hPart hSearch _ ih => exact .idle hDirectory hPart hSearch (ih hOut)
  | up hSearch _ ih => exact .up hSearch (ih hOut)
  | enter hPart hSearch hLength _ hSome hLink _ ih =>
      exact .enter hPart hSearch hLength (by simp) hSome hLink (ih hOut)
  | stop _ _ _ _ hEntry => cases hEntry
  | link hPart hSearch hLength _ hLink _ =>
      refine .link hPart hSearch hLength (by simp) hLink ?_
      rintro rfl
      exact absurd rfl (hOut _ _)
  | free hPart hSearch hLength hNone => exact .free hPart hSearch hLength hNone

/-- A way that ends at a link has this link as its entry. -/
theorem Strides.entry_of_link {here directory : Location} {parts : List String} {target : String}
    (h : Strides tree .target here parts (.link directory target [])) :
    ∃ name, Strides tree .entry here parts (.arrived (.present (directory ++ [name]))) ∧
      tree.linkAt? (directory ++ [name]) = some target := by
  generalize hOut : Stretch.link directory target [] = out at h
  induction h with
  | done => cases hOut
  | stop => cases hOut
  | free => cases hOut
  | idle hDirectory hPart hSearch _ ih =>
      obtain ⟨name, hStrides, hLink⟩ := ih hOut
      exact ⟨name, .idle hDirectory hPart hSearch hStrides, hLink⟩
  | up hSearch _ ih =>
      obtain ⟨name, hStrides, hLink⟩ := ih hOut
      exact ⟨name, .up hSearch hStrides, hLink⟩
  | enter hPart hSearch hLength _ hSome hNone _ ih =>
      obtain ⟨name, hStrides, hLink⟩ := ih hOut
      exact ⟨name, .enter hPart hSearch hLength (by simp) hSome hNone hStrides, hLink⟩
  | link hPart hSearch hLength _ hLink _ =>
      cases hOut
      exact ⟨_, .stop hPart hSearch hLength hLink rfl, hLink⟩

/-- The entry is the place that a walk arrives at, or a link from which the walk goes on to that place. -/
inductive Enters (tree : Tree) (there : Location) : Location → Prop where
  | itself : Enters tree there there
  | link {directory : Location} {name target : String} {budget : Nat}
      (hLink : tree.linkAt? (directory ++ [name]) = some target)
      (hWalk : walk tree .target budget (targetStart directory target) (targetParts target) = .ok (.present there)) :
      Enters tree there (directory ++ [name])

/-- The system finds the entry of a path that leads somewhere. -/
theorem Walks.enters {budget : Nat} {here there : Location} {parts : List String}
    (h : Walks tree .target (.present there) budget here parts) :
    ∃ entry, Walks tree .entry (.present entry) budget here parts ∧ tree.Enters there entry := by
  induction h with
  | arrived hStrides => exact ⟨there, .arrived (hStrides.to_entry (by simp)), .itself⟩
  | @follow _ _ directory _ rest _ hStrides hRest ih =>
      cases rest with
      | nil =>
          obtain ⟨name, hEntry, hLink⟩ := hStrides.entry_of_link
          rw [List.append_nil] at hRest
          exact ⟨directory ++ [name], .arrived hEntry, .link hLink (walk_ok.mpr hRest)⟩
      | cons next rest =>
          obtain ⟨entry, hWalk, hEnters⟩ := ih
          exact ⟨entry, .follow (hStrides.to_entry (by simp)) hWalk, hEnters⟩

theorem find_enters {there : Location} (h : tree.find working .target p = .ok (.present there)) :
    ∃ entry, tree.find working .entry p = .ok (.present entry) ∧ tree.Enters there entry := by
  obtain ⟨hShort, hWalk⟩ := find_ok.mp h
  obtain ⟨entry, hEntry, hEnters⟩ := hWalk.enters
  exact ⟨entry, find_ok.mpr ⟨hShort, hEntry⟩, hEnters⟩

/-- The entry of a path is the place that it leads to, or a link. -/
theorem find_entry_of_target {there : Location}
    (h : tree.find working .target p = .ok (.present there)) :
    ∃ entry, tree.find working .entry p = .ok (.present entry) ∧
      (entry = there ∨ (tree.linkAt? entry).isSome) := by
  obtain ⟨entry, hEntry, hEnters⟩ := find_enters h
  refine ⟨entry, hEntry, ?_⟩
  cases hEnters with
  | itself => exact .inl rfl
  | link hLink => exact .inr (by simp [hLink])

/-! A slash at the end -/

/-- An empty component at the end asks for a directory, or is left over behind a link. -/
theorem Strides.of_slash {purpose : Purpose} {here : Location} {parts : List String} {out : Stretch}
    (h : Strides tree purpose here parts out) (hParts : parts.getLast? = some "") :
    (∀ there, out = .arrived (.present there) → tree.isDirectoryAt there) ∧
      ∀ directory target rest, out = .link directory target rest → rest.getLast? = some "" := by
  have not_name {part : String} (h : [part].getLast? = some "") : ¬ IsName part := by
    cases h
    exact fun hPart => absurd hPart.1 (by decide)
  have tail {part : String} {rest : List String} (h : (part :: rest).getLast? = some "")
      (hRest : rest ≠ []) : rest.getLast? = some "" :=
    (getLast?_cons_of_eq hRest rfl).trans h
  induction h with
  | done => cases hParts
  | @idle here part rest out hDirectory hPart hSearch hRest ih =>
      cases rest with
      | cons next rest => exact ih (tail hParts (by simp))
      | nil =>
          cases hRest
          exact ⟨fun there hThere => by cases hThere; exact hDirectory, by simp⟩
  | @up here rest out hSearch hRest ih =>
      cases rest with
      | cons next rest => exact ih (tail hParts (by simp))
      | nil => simp at hParts
  | @enter here part rest out hPart hSearch hLength hFile hSome hLink hRest ih =>
      cases rest with
      | cons next rest => exact ih (tail hParts (by simp))
      | nil => exact absurd hPart (not_name hParts)
  | stop hPart => exact absurd hPart (not_name hParts)
  | @link here part target rest hPart hSearch hLength hFile hLink hFollow =>
      refine ⟨by simp, fun directory target' rest' hSame => ?_⟩
      cases hSame
      cases rest with
      | cons next rest => exact tail hParts (by simp)
      | nil => exact absurd hPart (not_name hParts)
  | free hPart => exact absurd hPart (not_name hParts)

theorem Strides.of_slash_alone {purpose : Purpose} {here : Location} {out : Stretch}
    (h : Strides tree purpose here [""] out) : out = .arrived (.present here) := by
  generalize hParts : [""] = parts at h
  cases h with
  | done => cases hParts
  | idle _ _ _ hRest =>
      cases hParts
      cases hRest
      rfl
  | up => simp at hParts
  | enter hPart => cases hParts; exact absurd hPart.1 (by decide)
  | stop hPart => cases hParts; exact absurd hPart.1 (by decide)
  | link hPart => cases hParts; exact absurd hPart.1 (by decide)
  | free hPart => cases hParts; exact absurd hPart.1 (by decide)

theorem Walks.of_slash {purpose : Purpose} {budget : Nat} {here there : Location}
    {parts : List String} (h : Walks tree purpose (.present there) budget here parts)
    (hParts : parts.getLast? = some "") : tree.isDirectoryAt there := by
  induction h with
  | arrived hStrides => exact (hStrides.of_slash hParts).1 there rfl
  | follow hStrides _ ih =>
      apply ih
      rw [List.getLast?_append, (hStrides.of_slash hParts).2 _ _ _ rfl]
      rfl

/-- Up to a link or to an entry that is no directory, a file could be written to on the same way. -/
theorem Strides.to_creation {here : Location} {parts : List String} {out : Stretch}
    (h : Strides tree .target here parts out)
    (hEnd : ∀ there, out = .arrived (.present there) → tree.isDirectoryAt there = false)
    (hRest : ∀ directory target, out ≠ .link directory target [""]) :
    Strides tree .creation here parts out := by
  induction h with
  | done here => exact .done here
  | idle hDirectory hPart hSearch _ ih => exact .idle hDirectory hPart hSearch (ih hEnd hRest)
  | up hSearch _ ih => exact .up hSearch (ih hEnd hRest)
  | @enter here part rest out hPart hSearch hLength _ hSome hLink hOn ih =>
      refine .enter hPart hSearch hLength ?_ hSome hLink (ih hEnd hRest)
      rintro - rfl
      obtain rfl := hOn.of_slash_alone
      exact Bool.noConfusion (((hOn.of_slash rfl).1 _ rfl).symm.trans (hEnd _ rfl))
  | stop _ _ _ _ hEntry => cases hEntry
  | link hPart hSearch hLength _ hLink _ =>
      refine .link hPart hSearch hLength ?_ hLink (by simp)
      rintro - rfl
      exact absurd rfl (hRest _ _)
  | free hPart hSearch hLength hNone => exact .free hPart hSearch hLength hNone

theorem Walks.to_creation {budget : Nat} {here there : Location} {parts : List String}
    (h : Walks tree .target (.present there) budget here parts)
    (hThere : tree.isDirectoryAt there = false) :
    Walks tree .creation (.present there) budget here parts := by
  induction h with
  | arrived hStrides =>
      refine .arrived (hStrides.to_creation (fun other hSame => ?_) (by simp))
      cases hSame
      exact hThere
  | follow hStrides hOn ih =>
      refine .follow (hStrides.to_creation (by simp) ?_) ih
      rintro directory target hSame
      cases hSame
      rw [hOn.of_slash (by simp)] at hThere
      cases hThere

/-- A file that would be read is one that may be written to. -/
theorem find_creation_of_target {there : Location}
    (h : tree.find working .target p = .ok (.present there))
    (hThere : tree.isDirectoryAt there = false) :
    tree.find working .creation p = .ok (.present there) := by
  obtain ⟨hShort, hWalk⟩ := find_ok.mp h
  exact find_ok.mpr ⟨hShort, hWalk.to_creation hThere⟩

end ConfigGate.Tree
