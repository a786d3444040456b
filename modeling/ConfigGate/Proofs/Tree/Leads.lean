import ConfigGate.Proofs.Tree.Entries
import ConfigGate.Tree.Canonical

/-! The way of a walk under the names that it passes. A walk knows where it stands; the name of that
place is the path that leads to it without a link. The relation `Leads` follows a walk by names, so
that it can be compared with the resolution of paths, which knows nothing but names. -/
namespace ConfigGate

namespace Path

/-- A component that names an entry of a directory. -/
def IsName (part : String) : Prop := isIdle part = false ∧ part ≠ ".."

/-- All components of the location are names. -/
def IsPlain (location : Location) : Prop := ∀ part ∈ location, IsName part

instance (part : String) : Decidable (IsName part) := inferInstanceAs (Decidable (_ ∧ _))

instance (location : Location) : Decidable (IsPlain location) :=
  inferInstanceAs (Decidable (∀ part ∈ location, IsName part))

/-- Where a path starts. -/
def start (p : Path) (working : Location) : Location :=
  if p.anchor = .relative then working else []

/-- The place that a path without links leads to. -/
def place (p : Path) (working : Location) : Location :=
  p.parts.foldl descend (p.start working)

/-- The path has no empty components, and it leads upward only at its beginning, if at all. -/
structure IsResolved (p : Path) : Prop where
  idle : ∀ part ∈ p.parts, isIdle part = false
  up : p.anchor ≠ .relative → ".." ∉ p.parts

variable {p : Path} {part : String} {location working : Location}

theorem descend_idle (h : isIdle part) : descend location part = location := by
  simp [descend, h]

@[simp] theorem descend_up : descend location ".." = location.dropLast := rfl

theorem descend_name (h : IsName part) : descend location part = location ++ [part] := by
  simp [descend, h.1, h.2]

theorem foldl_descend_plain (h : IsPlain location) (base : Location) :
    location.foldl descend base = base ++ location := by
  induction location generalizing base with
  | nil => simp
  | cons part rest ih =>
      rw [List.foldl_cons, descend_name (h part (by simp)),
        ih (fun other hOther => h other (List.mem_cons_of_mem _ hOther)), List.append_assoc]
      rfl

/-- No component of a place leads anywhere else. -/
theorem isPlain_foldl_descend {here : Location} (h : IsPlain here) (parts : List String) :
    IsPlain (parts.foldl descend here) := by
  induction parts generalizing here with
  | nil => exact h
  | cons part rest ih =>
      apply ih
      unfold descend
      split
      · exact h
      · split
        · exact fun other hOther => h other (List.dropLast_subset _ hOther)
        · rename_i hIdle hUp
          intro other hOther
          rcases List.mem_append.mp hOther with hOther | hOther
          · exact h other hOther
          · rw [List.mem_singleton.mp hOther]
            exact ⟨by simpa using hIdle, hUp⟩

theorem isPlain_place (hWorking : IsPlain working) : IsPlain (p.place working) := by
  refine isPlain_foldl_descend ?_ p.parts
  unfold start
  split
  · exact hWorking
  · simp [IsPlain]

/-- The place of a path is the location that its text alone gives. -/
theorem lexical_parts (hWorking : IsPlain working) : (p.lexical working).parts = p.place working := by
  obtain ⟨anchor, parts⟩ := p
  cases anchor with
  | relative =>
      change List.foldl descend [] (working ++ parts) = List.foldl descend working parts
      rw [List.foldl_append, foldl_descend_plain hWorking, List.nil_append]
  | root => rfl
  | doubleRoot => rfl

@[simp] theorem place_ofLocation_nil : (Path.mk .root []).place working = [] := rfl

@[simp] theorem start_child : (p.child part).start working = p.start working := rfl

theorem place_child (part : String) :
    (p.child part).place working = descend (p.place working) part := by
  change (p.parts ++ [part]).foldl descend (p.start working) = _
  rw [List.foldl_append]
  rfl

theorem IsResolved.child (h : p.IsResolved) (hPart : IsName part) : (p.child part).IsResolved where
  idle other hOther := by
    rcases List.mem_append.mp hOther with hOther | hOther
    · exact h.idle other hOther
    · rw [List.mem_singleton.mp hOther]
      exact hPart.1
  up hAnchor hUp := by
    rcases List.mem_append.mp hUp with hUp | hUp
    · exact h.up hAnchor hUp
    · exact hPart.2 (List.mem_singleton.mp hUp).symm

end Path

namespace Tree

open Path

variable {tree : Tree} {working : Location}

/-- Names may be looked up in the directory at a location. -/
def isSearchable (tree : Tree) (location : Location) : Bool :=
  (tree.directoryModeAt? location).any maySearch

theorem isResolved_ascend {here : Path} (h : here.IsResolved) : (ascend here).IsResolved := by
  unfold ascend
  split
  · rename_i hUp
    have hAnchor : here.anchor = .relative := by
      simp only [Bool.and_eq_true, decide_eq_true_eq] at hUp
      exact hUp.1
    refine ⟨?_, fun hNe => absurd hAnchor hNe⟩
    intro part hPart
    rcases List.mem_append.mp hPart with hPart | hPart
    · exact h.idle part hPart
    · rw [List.mem_singleton.mp hPart]
      rfl
  · exact ⟨fun part hPart => h.idle part (List.dropLast_subset _ hPart),
      fun hAnchor hUp => h.up hAnchor (List.dropLast_subset _ hUp)⟩

/-- Going up leads to the directory above. -/
theorem place_ascend {here : Path} (h : here.IsResolved) :
    (ascend here).place working = (here.place working).dropLast := by
  obtain ⟨anchor, parts⟩ := here
  unfold ascend
  split
  · exact place_child ".."
  · rename_i hUp
    rcases List.eq_nil_or_concat parts with rfl | ⟨init, last, rfl⟩
    · cases anchor with
      | relative => simp at hUp
      | root => rfl
      | doubleRoot => rfl
    · simp only [List.concat_eq_append] at h hUp ⊢
      have hLast : IsName last := by
        refine ⟨h.idle last (by simp), ?_⟩
        rintro rfl
        by_cases hAnchor : anchor = .relative
        · simp [hAnchor] at hUp
        · exact h.up hAnchor (by simp)
      have hPlace : ((Path.mk anchor init).child last).place working = _ := place_child last
      rw [descend_name hLast] at hPlace
      change (Path.mk anchor (init ++ [last]).dropLast).place working = _
      rw [List.dropLast_concat]
      change _ = (((Path.mk anchor init).child last).place working).dropLast
      rw [hPlace, List.dropLast_concat]

theorem isResolved_targetBase {here : Path} (h : here.IsResolved) (target : String) :
    (targetBase here target).IsResolved := by
  unfold targetBase
  split
  · exact h
  · exact ⟨by simp, by simp⟩

theorem place_targetBase (here : Path) (target : String) :
    (targetBase here target).place working = targetStart (here.place working) target := by
  unfold targetBase targetStart
  split <;> rfl

/-- The components lead from one place to another, both given by their names. The links that are
followed are listed by the names under which they are met. -/
inductive Leads (tree : Tree) (working : Location) :
    Path → List String → List Path → Path → Prop where
  | done (here : Path) : Leads tree working here [] [] here
  | idle {here there : Path} {part : String} {rest : List String} {links : List Path}
      (hPart : isIdle part) (hRest : Leads tree working here rest links there) :
      Leads tree working here (part :: rest) links there
  | up {here there : Path} {rest : List String} {links : List Path}
      (hSearch : tree.isSearchable (here.place working))
      (hRest : Leads tree working (ascend here) rest links there) :
      Leads tree working here (".." :: rest) links there
  | enter {here there : Path} {part : String} {rest : List String} {links : List Path}
      (hPart : IsName part) (hSearch : tree.isSearchable (here.place working))
      (hLength : byteLength part ≤ nameLimit)
      (hSome : (tree.entry? (here.place working ++ [part])).isSome)
      (hLink : tree.linkAt? (here.place working ++ [part]) = none)
      (hRest : Leads tree working (here.child part) rest links there) :
      Leads tree working here (part :: rest) links there
  | follow {here middle there : Path} {part target : String} {rest : List String}
      {inner outer : List Path}
      (hPart : IsName part) (hSearch : tree.isSearchable (here.place working))
      (hLength : byteLength part ≤ nameLimit)
      (hLink : tree.linkAt? (here.place working ++ [part]) = some target)
      (hTarget : Leads tree working (targetBase here target) (pieces target) inner middle)
      (hRest : Leads tree working middle rest outer there) :
      Leads tree working here (part :: rest) (here.child part :: (inner ++ outer)) there

namespace Leads

/-- The components lead to one place, over the same links. -/
theorem deterministic {here there other : Path} {parts : List String} {links links' : List Path}
    (h : Leads tree working here parts links there)
    (h' : Leads tree working here parts links' other) : links = links' ∧ there = other := by
  induction h generalizing other links' with
  | done => cases h'; exact ⟨rfl, rfl⟩
  | idle hPart _ ih =>
      cases h' with
      | idle _ hRest => exact ih hRest
      | up => simp [isIdle] at hPart
      | enter hName => rw [hName.1] at hPart; cases hPart
      | follow hName => rw [hName.1] at hPart; cases hPart
  | up _ _ ih =>
      cases h' with
      | idle hPart => simp [isIdle] at hPart
      | up _ hRest => exact ih hRest
      | enter hName => exact absurd rfl hName.2
      | follow hName => exact absurd rfl hName.2
  | enter hName _ _ _ hLink _ ih =>
      cases h' with
      | idle hPart => rw [hName.1] at hPart; cases hPart
      | up => exact absurd rfl hName.2
      | enter _ _ _ _ _ hRest => exact ih hRest
      | follow _ _ _ hLink' => rw [hLink] at hLink'; cases hLink'
  | follow hName _ _ hLink _ _ ihTarget ihRest =>
      cases h' with
      | idle hPart => rw [hName.1] at hPart; cases hPart
      | up => exact absurd rfl hName.2
      | enter _ _ _ _ hLink' => rw [hLink] at hLink'; cases hLink'
      | follow _ _ _ hLink' hTarget hRest =>
          rw [hLink] at hLink'
          cases hLink'
          obtain ⟨rfl, rfl⟩ := ihTarget hTarget
          obtain ⟨rfl, rfl⟩ := ihRest hRest
          exact ⟨rfl, rfl⟩

theorem append {here middle there : Path} {first second : List String} {links links' : List Path}
    (h : Leads tree working here first links middle)
    (h' : Leads tree working middle second links' there) :
    Leads tree working here (first ++ second) (links ++ links') there := by
  induction h with
  | done => exact h'
  | idle hPart _ ih => exact .idle hPart (ih h')
  | up hSearch _ ih => exact .up hSearch (ih h')
  | enter hPart hSearch hLength hSome hLink _ ih =>
      exact .enter hPart hSearch hLength hSome hLink (ih h')
  | follow hPart hSearch hLength hLink hTarget _ _ ih =>
      have hWhole := follow hPart hSearch hLength hLink hTarget (ih h')
      simpa [List.append_assoc] using hWhole

theorem split {here there : Path} {first second : List String} {links : List Path}
    (h : Leads tree working here (first ++ second) links there) :
    ∃ middle inner outer, links = inner ++ outer ∧ Leads tree working here first inner middle ∧
      Leads tree working middle second outer there := by
  induction first generalizing here links with
  | nil => exact ⟨here, [], links, rfl, .done here, h⟩
  | cons part first ih =>
      cases h with
      | idle hPart hRest =>
          obtain ⟨middle, inner, outer, hLinks, hFirst, hSecond⟩ := ih hRest
          exact ⟨middle, inner, outer, hLinks, .idle hPart hFirst, hSecond⟩
      | up hSearch hRest =>
          obtain ⟨middle, inner, outer, hLinks, hFirst, hSecond⟩ := ih hRest
          exact ⟨middle, inner, outer, hLinks, .up hSearch hFirst, hSecond⟩
      | enter hPart hSearch hLength hSome hLink hRest =>
          obtain ⟨middle, inner, outer, hLinks, hFirst, hSecond⟩ := ih hRest
          exact ⟨middle, inner, outer, hLinks,
            .enter hPart hSearch hLength hSome hLink hFirst, hSecond⟩
      | @follow _ turn _ _ target _ before after hPart hSearch hLength hLink hTarget hRest =>
          obtain ⟨middle, inner, outer, hLinks, hFirst, hSecond⟩ := ih hRest
          refine ⟨middle, here.child part :: (before ++ inner), outer, ?_,
            .follow hPart hSearch hLength hLink hTarget hFirst, hSecond⟩
          simp [hLinks]

/-- Components that say nothing may be left out or put in. -/
theorem of_filter {here there : Path} {parts : List String} {links : List Path}
    (h : Leads tree working here (parts.filter (· ≠ "")) links there) :
    Leads tree working here parts links there := by
  induction parts generalizing here links with
  | nil => exact h
  | cons part rest ih =>
      by_cases hPart : part = ""
      · subst hPart
        exact .idle rfl (ih (by simpa using h))
      · rw [List.filter_cons_of_pos (by simpa using hPart)] at h
        cases h with
        | idle hIdle hRest => exact .idle hIdle (ih hRest)
        | up hSearch hRest => exact .up hSearch (ih hRest)
        | enter hName hSearch hLength hSome hLink hRest =>
            exact .enter hName hSearch hLength hSome hLink (ih hRest)
        | follow hName hSearch hLength hLink hTarget hRest =>
            exact .follow hName hSearch hLength hLink hTarget (ih hRest)

/-- A slash at the end of a target changes nothing for a walk that arrives. -/
theorem of_targetParts {here there : Path} {target : String} {links : List Path}
    (h : Leads tree working here (targetParts target) links there) :
    Leads tree working here (pieces target) links there := by
  unfold targetParts at h
  dsimp only at h
  split at h
  · obtain ⟨middle, inner, outer, rfl, hFirst, hSecond⟩ := h.split
    generalize hPart : "" = part at hSecond
    cases hSecond with
    | idle _ hRest =>
        cases hRest
        simpa using hFirst.of_filter
    | up => exact absurd hPart (by decide)
    | enter hName => exact absurd (hPart ▸ hName.1) (by decide)
    | follow hName => exact absurd (hPart ▸ hName.1) (by decide)
  · exact h.of_filter

theorem isResolved {here there : Path} {parts : List String} {links : List Path}
    (h : Leads tree working here parts links there) (hHere : here.IsResolved) :
    there.IsResolved := by
  induction h with
  | done => exact hHere
  | idle _ _ ih => exact ih hHere
  | up _ _ ih => exact ih (isResolved_ascend hHere)
  | enter hPart _ _ _ _ _ ih => exact ih (hHere.child hPart)
  | follow _ _ _ _ _ _ ihTarget ihRest =>
      exact ihRest (ihTarget (isResolved_targetBase hHere _))

end Leads

end Tree

end ConfigGate
