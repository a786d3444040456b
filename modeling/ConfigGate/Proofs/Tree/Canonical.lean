import ConfigGate.Proofs.Tree.Walk

/-! Where a walk of the system arrives, the canonical location is the same place. Resolution looks
links up by name, and the system refuses names that are too long; the agreement therefore holds for
every walk whose links have names that fit. -/
namespace ConfigGate

/-- The path from which the components of a path are followed. -/
def Path.beginning (p : Path) : Path :=
  ⟨if p.anchor = .relative then .relative else .root, []⟩

theorem Path.child_inj {p q : Path} {part other : String} (h : p.child part = q.child other) :
    p = q ∧ part = other := by
  obtain ⟨anchor, parts⟩ := p
  obtain ⟨anchor', parts'⟩ := q
  simp only [Path.child, Path.mk.injEq, List.append_singleton_inj] at h
  obtain ⟨rfl, rfl, rfl⟩ := h
  exact ⟨rfl, rfl⟩

namespace Tree

open Path

variable {tree : Tree} {working : Location}

namespace Strides

/-- A stretch without links may be put before another one. -/
theorem append {purpose : Purpose} {here there : Location} {first second : List String}
    {out : Stretch} (h : Strides tree .target here first (.arrived (.present there)))
    (h' : Strides tree purpose there second out) (hEmpty : "" ∉ first) (hSlash : second ≠ [""]) :
    Strides tree purpose here (first ++ second) out := by
  generalize hFirst : Stretch.arrived (.present there) = end' at h
  induction h with
  | done => cases hFirst; exact h'
  | idle hDirectory hPart hSearch _ ih =>
      exact .idle hDirectory hPart hSearch (ih (fun h => hEmpty (.tail _ h)) hFirst)
  | up hSearch _ ih => exact .up hSearch (ih (fun h => hEmpty (.tail _ h)) hFirst)
  | @enter here part rest _ hPart hSearch hLength _ hSome hLink _ ih =>
      have hRest : "" ∉ rest := fun h => hEmpty (.tail _ h)
      refine .enter hPart hSearch hLength (fun _ hEnd => ?_) hSome hLink (ih hRest hFirst)
      change rest ++ second = [""] at hEnd
      cases rest with
      | nil => exact hSlash hEnd
      | cons next rest =>
          simp only [List.cons_append, List.cons.injEq] at hEnd
          exact hRest (by simp [hEnd.1])
  | stop _ _ _ _ hEntry => cases hEntry
  | link => cases hFirst
  | free => cases hFirst

/-- A stretch without links can be cut in two. -/
theorem split {here there : Location} {first second parts : List String}
    (h : Strides tree .target here parts (.arrived (.present there)))
    (hParts : first ++ second = parts) :
    ∃ middle, Strides tree .target here first (.arrived (.present middle)) ∧
      Strides tree .target middle second (.arrived (.present there)) := by
  generalize hOut : Stretch.arrived (.present there) = out at h ⊢
  induction h generalizing first with
  | done here =>
      rw [List.append_eq_nil_iff] at hParts
      rw [hParts.1, hParts.2]
      exact ⟨here, .done here, .done here⟩
  | @idle here part rest _ hDirectory hPart hSearch hRest ih =>
      rcases List.append_eq_cons_iff.mp hParts with ⟨rfl, rfl⟩ | ⟨first', rfl, hEq⟩
      · exact ⟨here, .done here, .idle hDirectory hPart hSearch hRest⟩
      · obtain ⟨middle, hFirst, hSecond⟩ := ih hEq.symm hOut
        exact ⟨middle, .idle hDirectory hPart hSearch hFirst, hSecond⟩
  | @up here rest _ hSearch hRest ih =>
      rcases List.append_eq_cons_iff.mp hParts with ⟨rfl, rfl⟩ | ⟨first', rfl, hEq⟩
      · exact ⟨here, .done here, .up hSearch hRest⟩
      · obtain ⟨middle, hFirst, hSecond⟩ := ih hEq.symm hOut
        exact ⟨middle, .up hSearch hFirst, hSecond⟩
  | @enter here part rest _ hPart hSearch hLength hFile hSome hLink hRest ih =>
      rcases List.append_eq_cons_iff.mp hParts with ⟨rfl, rfl⟩ | ⟨first', rfl, hEq⟩
      · exact ⟨here, .done here, .enter hPart hSearch hLength hFile hSome hLink hRest⟩
      · obtain ⟨middle, hFirst, hSecond⟩ := ih hEq.symm hOut
        exact ⟨middle, .enter hPart hSearch hLength (by simp) hSome hLink hFirst, hSecond⟩
  | stop _ _ _ _ hEntry => cases hEntry
  | link => cases hOut
  | free => cases hOut

end Strides

/-- The path leads to its place without a link. -/
def IsClear (tree : Tree) (working : Location) (here : Path) : Prop :=
  Strides tree .target (here.start working) here.parts (.arrived (.present (here.place working)))

theorem isClear_beginning (p : Path) : IsClear tree working p.beginning :=
  .done _

theorem IsResolved.empty_notMem {here : Path} (h : here.IsResolved) : "" ∉ here.parts :=
  fun hMem => absurd (h.idle "" hMem) (by decide)

theorem IsClear.targetBase {here : Path} (h : IsClear tree working here) (target : String) :
    IsClear tree working (targetBase here target) := by
  unfold Tree.targetBase
  split
  · exact h
  · exact .done _

theorem IsClear.child {here : Path} {part : String} (h : IsClear tree working here)
    (hHere : here.IsResolved) (hPart : IsName part)
    (hSearch : tree.isSearchable (here.place working)) (hLength : byteLength part ≤ nameLimit)
    (hSome : (tree.entry? (here.place working ++ [part])).isSome)
    (hLink : tree.linkAt? (here.place working ++ [part]) = none) :
    IsClear tree working (here.child part) := by
  unfold IsClear
  rw [place_child, descend_name hPart]
  exact h.append (.enter hPart hSearch hLength (by simp) hSome hLink (.done _))
    (IsResolved.empty_notMem hHere) (by simpa using (show part ≠ "" from fun h' => by
      subst h'
      exact absurd hPart.1 (by decide)))

theorem IsClear.ascend {here : Path} (h : IsClear tree working here) (hHere : here.IsResolved)
    (hSearch : tree.isSearchable (here.place working)) :
    IsClear tree working (Tree.ascend here) := by
  unfold Tree.ascend
  split
  · unfold IsClear
    rw [place_child]
    exact h.append (.up hSearch (.done _)) (IsResolved.empty_notMem hHere) (by decide)
  · obtain ⟨anchor, parts⟩ := here
    rcases List.eq_nil_or_concat parts with rfl | ⟨init, last, rfl⟩
    · exact h
    · rw [List.concat_eq_append] at h ⊢
      obtain ⟨middle, hInit, _⟩ := Strides.split h rfl
      have hPlace : middle = (Path.mk anchor init).place working := hInit.entry_eq
      subst hPlace
      unfold IsClear Path.parent
      simpa [start] using hInit

theorem Leads.isClear {here there : Path} {parts : List String} {links : List Path}
    (h : Leads tree working here parts links there) (hHere : here.IsResolved)
    (hClear : IsClear tree working here) : IsClear tree working there := by
  induction h with
  | done => exact hClear
  | idle _ _ ih => exact ih hHere hClear
  | up hSearch _ ih => exact ih (isResolved_ascend hHere) (hClear.ascend hHere hSearch)
  | enter hPart hSearch hLength hSome hLink _ ih =>
      exact ih (hHere.child hPart) (hClear.child hHere hPart hSearch hLength hSome hLink)
  | @follow here _ _ _ target _ _ _ _ _ _ _ hTarget _ ihTarget ihRest =>
      have hBase := isResolved_targetBase hHere target
      exact ihRest (hTarget.isResolved hBase) (ihTarget hBase (hClear.targetBase target))

theorem linkNamed?_of_short {p : Path} (hShort : ¬ pathLimit ≤ byteLength p.text) :
    tree.linkNamed? working p =
      match walk tree .entry linkLimit (p.start working) p.parts with
      | .ok (.present location) => tree.linkAt? location
      | _ => none := by
  unfold linkNamed? find
  rw [if_neg hShort]
  rfl

/-- The entry that a name leads to, if its path is clear and not too long. -/
theorem linkNamed?_child {here : Path} {part : String} (hClear : IsClear tree working here)
    (hHere : here.IsResolved) (hPart : IsName part)
    (hSearch : tree.isSearchable (here.place working)) (hLength : byteLength part ≤ nameLimit) :
    tree.linkNamed? working (here.child part) =
      if pathLimit ≤ byteLength (here.child part).text then none
      else tree.linkAt? (here.place working ++ [part]) := by
  have hEmpty := IsResolved.empty_notMem hHere
  have hSlash : [part] ≠ [""] := by
    rintro h
    cases h
    exact absurd hPart.1 (by decide)
  have walk_child {destination : Destination}
      (h : Strides tree .entry (here.place working) [part] (.arrived destination)) :
      walk tree .entry linkLimit ((here.child part).start working) (here.child part).parts =
        .ok destination :=
    walk_ok.mpr (.arrived (hClear.append h hEmpty hSlash))
  by_cases hLong : pathLimit ≤ byteLength (here.child part).text
  · unfold linkNamed? find
    simp only [hLong, if_true]
  · rw [linkNamed?_of_short hLong, if_neg hLong]
    cases hEntry : tree.entry? (here.place working ++ [part]) with
    | none =>
        rw [walk_child (.free hPart hSearch hLength hEntry)]
        simp [linkAt?, hEntry]
    | some entry =>
        cases hLink : tree.linkAt? (here.place working ++ [part]) with
        | none =>
            rw [walk_child (.enter hPart hSearch hLength (by simp) (by simp [hEntry]) hLink
              (.done _))]
            exact hLink
        | some target =>
            rw [walk_child (.stop hPart hSearch hLength hLink rfl)]
            exact hLink

/-! Resolution -/

theorem resolveTasks_congr {budget : Nat} {known known' : KnownLinks} {here here' : Path}
    {tasks tasks' : List Task}
    (h : advance tree working known here tasks = advance tree working known' here' tasks') :
    resolveTasks tree working budget known here tasks =
      resolveTasks tree working budget known' here' tasks' := by
  rw [resolveTasks, h, ← resolveTasks]

section Steps

/-! One step of resolution, by the first of the tasks. -/

variable {budget : Nat} {known : KnownLinks} {here : Path} {part : String} {tasks : List Task}

theorem resolveTasks_idle (hPart : isIdle part) :
    resolveTasks tree working budget known here (.component part :: tasks) =
      resolveTasks tree working budget known here tasks := by
  apply resolveTasks_congr
  rw [advance, if_pos hPart]

theorem resolveTasks_up :
    resolveTasks tree working budget known here (.component ".." :: tasks) =
      resolveTasks tree working budget known (ascend here) tasks := by
  apply resolveTasks_congr
  rw [advance, if_neg (by decide), if_pos rfl]

theorem resolveTasks_settle (link : Path) :
    resolveTasks tree working budget known here (.settle link :: tasks) =
      resolveTasks tree working budget (Keyed.assign link (some here) known) here tasks :=
  resolveTasks_congr rfl

theorem resolveTasks_name (hPart : IsName part)
    (hNamed : tree.linkNamed? working (here.child part) = none) :
    resolveTasks tree working budget known here (.component part :: tasks) =
      resolveTasks tree working budget known (here.child part) tasks := by
  apply resolveTasks_congr
  simp [advance, hPart.1, hPart.2, hNamed]

theorem resolveTasks_known {target : String} {noted : Path} (hPart : IsName part)
    (hNamed : tree.linkNamed? working (here.child part) = some target)
    (hKnown : known.lookup (here.child part) = some (some noted)) :
    resolveTasks tree working budget known here (.component part :: tasks) =
      resolveTasks tree working budget known noted tasks := by
  apply resolveTasks_congr
  simp [advance, hPart.1, hPart.2, hNamed, hKnown]

theorem resolveTasks_fresh {target : String} (hPart : IsName part)
    (hNamed : tree.linkNamed? working (here.child part) = some target)
    (hFresh : known.lookup (here.child part) = none) :
    resolveTasks tree working (budget + 1) known here (.component part :: tasks) =
      resolveTasks tree working budget (Keyed.assign (here.child part) none known)
        (targetBase here target)
        ((pieces target).map .component ++ .settle (here.child part) :: tasks) := by
  rw [resolveTasks]
  simp [advance, hPart.1, hPart.2, hNamed, hFresh]

end Steps

/-! How far links are nested -/

theorem openLinks_of_fresh {known known' : KnownLinks} {here link directory : Path} {target : String}
    {tasks rest : List Task}
    (h : advance tree working known here tasks = .fresh link directory target rest known') :
    openLinks rest ≤ openLinks tasks := by
  induction tasks generalizing known here with
  | nil => cases h
  | cons task tasks ih =>
      have hLess : openLinks tasks ≤ openLinks (task :: tasks) := (List.sublist_cons_self task tasks).countP_le
      cases task with
      | settle settled => exact Nat.le_trans (ih h) hLess
      | component part =>
          unfold advance at h
          split at h
          · exact Nat.le_trans (ih h) hLess
          split at h
          · exact Nat.le_trans (ih h) hLess
          split at h
          · exact Nat.le_trans (ih h) hLess
          · split at h
            · exact Nat.le_trans (ih h) hLess
            · cases h
            · cases h
              exact hLess

theorem openLinks_inner (target : String) (link : Path) (rest : List Task) :
    openLinks ((pieces target).map .component ++ .settle link :: rest) = openLinks rest + 1 := by
  simp [openLinks, Function.comp_def]

/-- Resolution that comes to an end does so with a larger budget too. Every link that is opened on the way
takes one of the budget. -/
theorem resolveTasks_of_canonical {budget : Nat} {known : KnownLinks} {here : Path} {tasks : List Task}
    {location : Location}
    (h : resolveTasks tree working budget known here tasks = .canonical location) (extra : Nat) :
    resolveTasks tree working (budget + extra) known here tasks = .canonical location ∧
      nestingOf tree working (budget + extra) known here tasks ≤ openLinks tasks + budget := by
  induction budget generalizing known here tasks with
  | zero =>
      rw [resolveTasks] at h
      rw [resolveTasks, nestingOf]
      cases hAdvance : advance tree working known here tasks with
      | finished path =>
          rw [hAdvance] at h
          exact ⟨h, Nat.zero_le _⟩
      | circular link rest =>
          rw [hAdvance] at h
          cases h
      | fresh link directory target rest known' =>
          rw [hAdvance] at h
          cases h
  | succ budget ih =>
      rw [resolveTasks] at h
      rw [Nat.add_right_comm, resolveTasks, nestingOf]
      cases hAdvance : advance tree working known here tasks with
      | finished path =>
          rw [hAdvance] at h
          exact ⟨h, Nat.zero_le _⟩
      | circular link rest =>
          rw [hAdvance] at h
          cases h
      | fresh link directory target rest known' =>
          rw [hAdvance] at h
          obtain ⟨hResolve, hNesting⟩ := ih h
          have hRest := openLinks_of_fresh hAdvance
          rw [openLinks_inner] at hNesting
          refine ⟨hResolve, ?_⟩
          dsimp only
          rw [openLinks_inner]
          omega

theorem linkLimit_le_linkNames : linkLimit ≤ tree.linkNames working :=
  Nat.le_add_left _ _

section Asking

/-! Resolution asks the tree for the targets of links, and for nothing else. -/

variable {other : Tree} (hLink : ∀ p, other.linkNamed? working p = tree.linkNamed? working p)
include hLink

theorem advance_of_linkNamed? (known : KnownLinks) (here : Path) (tasks : List Task) :
    advance other working known here tasks = advance tree working known here tasks := by
  induction tasks generalizing known here with
  | nil => rfl
  | cons task rest ih =>
      cases task with
      | settle link => rw [advance, advance, ih]
      | component part => simp only [advance, hLink, ih]

theorem resolveTasks_of_linkNamed? (budget : Nat) (known : KnownLinks) (here : Path)
    (tasks : List Task) :
    resolveTasks other working budget known here tasks =
      resolveTasks tree working budget known here tasks := by
  induction budget generalizing known here tasks with
  | zero => rw [resolveTasks, resolveTasks, advance_of_linkNamed? hLink]
  | succ budget ih =>
      rw [resolveTasks, resolveTasks, advance_of_linkNamed? hLink]
      cases advance tree working known here tasks with
      | finished path => rfl
      | circular link rest => rfl
      | fresh link directory target rest known => exact ih _ _ _

theorem nestingOf_of_linkNamed? (budget : Nat) (known : KnownLinks) (here : Path)
    (tasks : List Task) :
    nestingOf other working budget known here tasks =
      nestingOf tree working budget known here tasks := by
  induction budget generalizing known here tasks with
  | zero => rw [nestingOf, nestingOf, advance_of_linkNamed? hLink]
  | succ budget ih =>
      rw [nestingOf, nestingOf, advance_of_linkNamed? hLink]
      cases advance tree working known here tasks with
      | finished path => rfl
      | circular link rest => rfl
      | fresh link directory target rest known => exact congrArg (max _) (ih _ _ _)

/-- Where the same names are those of as many links, links are nested alike. -/
theorem nesting_of_linkNamed? (hCount : other.linkCount = tree.linkCount) (p : Path) :
    other.nesting working p = tree.nesting working p := by
  rw [nesting, nesting, linkNames, linkNames, hCount, nestingOf_of_linkNamed? hLink]

/-- Trees in which the same names are those of links, and the same paths run into loops, have the same
canonical locations. -/
theorem canonical_of_linkNamed? (hCount : other.linkCount = tree.linkCount)
    (hLoop : ∀ p, other.find working .target p = .error .tooManyLinks ↔
      tree.find working .target p = .error .tooManyLinks) (p : Path) :
    other.canonical working p = tree.canonical working p := by
  have hNames : other.linkNames working = tree.linkNames working := by
    rw [linkNames, linkNames, hCount]
  unfold canonical
  dsimp only
  rw [hNames, resolveTasks_of_linkNamed? hLink]
  cases tree.resolveTasks working (tree.linkNames working) []
      ⟨if p.anchor = .relative then .relative else .root, []⟩ (p.parts.map .component) with
  | canonical location => rfl
  | stuck location =>
      dsimp only
      by_cases hRound : tree.find working .target (ofLocation location) = .error .tooManyLinks
      · rw [hRound, (hLoop _).mpr hRound]
      · have hOther := mt (hLoop _).mp hRound
        split
        · rename_i hAgain
          exact absurd hAgain hOther
        · rfl

end Asking

/-- What has been noted of a link is where its target leads, over links whose names fit. -/
def IsSound (tree : Tree) (working : Location) (known : KnownLinks) : Prop :=
  ∀ ⦃directory middle noted : Path⦄ ⦃part target : String⦄ ⦃links : List Path⦄,
    known.lookup (directory.child part) = some (some noted) →
    tree.linkAt? (directory.place working ++ [part]) = some target →
    Leads tree working (targetBase directory target) (Path.pieces target) links middle →
    noted = middle ∧ ∀ link ∈ links, byteLength link.text < pathLimit

/-- A link that is being resolved leads over at least so many links. A walk over fewer links cannot
meet it again. -/
def IsBounded (tree : Tree) (working : Location) (known : KnownLinks) (count : Nat) : Prop :=
  ∀ ⦃directory middle : Path⦄ ⦃part target : String⦄ ⦃links : List Path⦄,
    known.lookup (directory.child part) = some none →
    tree.linkAt? (directory.place working ++ [part]) = some target →
    Leads tree working (targetBase directory target) (Path.pieces target) links middle →
    count ≤ links.length

theorem isSound_nil : IsSound tree working [] := by
  intro directory middle noted part target links hNoted
  cases hNoted

theorem isBounded_nil (count : Nat) : IsBounded tree working [] count := by
  intro directory middle part target links hOpen
  cases hOpen

theorem IsBounded.mono {known : KnownLinks} {count fewer : Nat}
    (h : IsBounded tree working known count) (hLe : fewer ≤ count) :
    IsBounded tree working known fewer :=
  fun _ _ _ _ _ hLookup hLink hLeads => Nat.le_trans hLe (h hLookup hLink hLeads)

theorem IsSound.assign_none {known : KnownLinks} (h : IsSound tree working known) (link : Path) :
    IsSound tree working (Keyed.assign link none known) := by
  intro directory middle noted part target links hNoted hLink hLeads
  rw [Keyed.lookup_assign] at hNoted
  split at hNoted
  · cases hNoted
  · exact h hNoted hLink hLeads

theorem IsSound.assign_some {known : KnownLinks} {here middle : Path} {part target : String}
    {links : List Path} (h : IsSound tree working known)
    (hLink : tree.linkAt? (here.place working ++ [part]) = some target)
    (hTarget : Leads tree working (targetBase here target) (pieces target) links middle)
    (hFit : ∀ link ∈ links, byteLength link.text < pathLimit) :
    IsSound tree working (Keyed.assign (here.child part) (some middle) known) := by
  intro directory middle' noted part' target' links' hNoted hLink' hLeads
  rw [Keyed.lookup_assign] at hNoted
  split at hNoted
  · rename_i hSame
    obtain ⟨rfl, rfl⟩ := child_inj hSame
    rw [hLink] at hLink'
    cases hLink'
    cases hNoted
    obtain ⟨rfl, rfl⟩ := hTarget.deterministic hLeads
    exact ⟨rfl, hFit⟩
  · exact h hNoted hLink' hLeads

/-- While the target of a link is being resolved, fewer links are left than the link leads over. -/
theorem IsBounded.assign_none {known : KnownLinks} {here middle : Path} {part target : String}
    {links : List Path} {count : Nat} (h : IsBounded tree working known count)
    (hLe : links.length ≤ count)
    (hLink : tree.linkAt? (here.place working ++ [part]) = some target)
    (hTarget : Leads tree working (targetBase here target) (pieces target) links middle) :
    IsBounded tree working (Keyed.assign (here.child part) none known) links.length := by
  intro directory middle' part' target' links' hOpen hLink' hLeads
  rw [Keyed.lookup_assign] at hOpen
  split at hOpen
  · rename_i hSame
    obtain ⟨rfl, rfl⟩ := child_inj hSame
    rw [hLink] at hLink'
    cases hLink'
    exact Nat.le_of_eq (congrArg List.length (hTarget.deterministic hLeads).1)
  · exact Nat.le_trans hLe (h hOpen hLink' hLeads)

/-- A bound holds for all links that are still being resolved. -/
theorem IsBounded.of_open {known known' : KnownLinks} {count : Nat}
    (h : IsBounded tree working known count)
    (hOpen : ∀ link, known'.lookup link = some none → known.lookup link = some none) :
    IsBounded tree working known' count :=
  fun _ _ _ _ _ hLookup hLink hLeads => h (hOpen _ hLookup) hLink hLeads

/-- Resolution of the components goes to a place over so many links, and settles every link that it
begins with. It does so from whatever is soundly known, and before whatever else there is to do. -/
def Resolves (tree : Tree) (working : Location) (count : Nat) (here there : Path)
    (parts : List String) : Prop :=
  ∀ ⦃known : KnownLinks⦄, IsSound tree working known → IsBounded tree working known count →
    ∀ (budget : Nat) (tasks : List Task), ∃ known' budget', budget ≤ budget' ∧
      IsSound tree working known' ∧
      (∀ link, known'.lookup link = some none → known.lookup link = some none) ∧
      resolveTasks tree working (budget + count) known here (parts.map .component ++ tasks) =
        resolveTasks tree working budget' known' there tasks

namespace Resolves

variable {here middle there : Path} {part : String} {parts rest : List String}

theorem nil (here : Path) : Resolves tree working 0 here here [] :=
  fun known hSound _ budget _ => ⟨known, budget, Nat.le_refl _, hSound, fun _ h => h, rfl⟩

/-- A component that takes one step and needs no link. -/
theorem cons {count : Nat}
    (hStep : ∀ (budget : Nat) (known : KnownLinks) (tasks : List Task),
      resolveTasks tree working budget known here (.component part :: tasks) =
        resolveTasks tree working budget known middle tasks)
    (h : Resolves tree working count middle there rest) :
    Resolves tree working count here there (part :: rest) := by
  intro known hSound hBounded budget tasks
  rw [List.map_cons, List.cons_append, hStep]
  exact h hSound hBounded budget tasks

/-- What the first part leaves of the budget is enough for the second. -/
theorem append {count count' : Nat} (h : Resolves tree working count here middle parts)
    (h' : Resolves tree working count' middle there rest) :
    Resolves tree working (count + count') here there (parts ++ rest) := by
  intro known hSound hBounded budget tasks
  obtain ⟨known₁, budget₁, hBudget₁, hSound₁, hOpen₁, hResolve₁⟩ :=
    h hSound (hBounded.mono (by omega)) (budget + count') (rest.map .component ++ tasks)
  obtain ⟨known₂, budget₂, hBudget₂, hSound₂, hOpen₂, hResolve₂⟩ :=
    h' hSound₁ ((hBounded.of_open hOpen₁).mono (by omega)) (budget₁ - count') tasks
  refine ⟨known₂, budget₂, by omega, hSound₂, fun link h => hOpen₁ link (hOpen₂ link h), ?_⟩
  calc resolveTasks tree working (budget + (count + count')) known here
        ((parts ++ rest).map .component ++ tasks)
      = resolveTasks tree working (budget + count' + count) known here
          (parts.map .component ++ (rest.map .component ++ tasks)) := by
        rw [List.map_append, List.append_assoc, show budget + (count + count') =
          budget + count' + count by omega]
    _ = resolveTasks tree working (budget₁ - count' + count') known₁ middle
          (rest.map .component ++ tasks) := by
        rw [hResolve₁, show budget₁ - count' + count' = budget₁ by omega]
    _ = resolveTasks tree working budget₂ known₂ there tasks := hResolve₂

/-- A link is taken from the notes, or its target is resolved and noted. -/
theorem link {target : String} {inner : List Path} (hPart : IsName part)
    (hNamed : tree.linkNamed? working (here.child part) = some target)
    (hLink : tree.linkAt? (here.place working ++ [part]) = some target)
    (hTarget : Leads tree working (targetBase here target) (pieces target) inner middle)
    (hFit : ∀ link ∈ inner, byteLength link.text < pathLimit)
    (h : Resolves tree working inner.length (targetBase here target) middle (pieces target)) :
    Resolves tree working (inner.length + 1) here middle [part] := by
  intro known hSound hBounded budget tasks
  change ∃ known' budget', _ ∧ _ ∧ _ ∧
    resolveTasks tree working (budget + inner.length + 1) known here (.component part :: tasks) = _
  rcases hLookup : known.lookup (here.child part) with _ | _ | noted
  · obtain ⟨known', budget', hBudget, hSound', hOpen, hResolve⟩ :=
      h (hSound.assign_none (here.child part)) (hBounded.assign_none (by omega) hLink hTarget) budget
        (.settle (here.child part) :: tasks)
    refine ⟨Keyed.assign (here.child part) (some middle) known', budget', hBudget,
      hSound'.assign_some hLink hTarget hFit, ?_, ?_⟩
    · intro link hLookup'
      rw [Keyed.lookup_assign] at hLookup'
      split at hLookup'
      · cases hLookup'
      · rename_i hOther
        have hBefore := hOpen link hLookup'
        rwa [Keyed.lookup_assign, if_neg hOther] at hBefore
    · rw [resolveTasks_fresh hPart hNamed hLookup, hResolve, resolveTasks_settle]
  · -- The link cannot be met again before it is settled.
    have hShort := hBounded hLookup hLink hTarget
    omega
  · obtain rfl : noted = middle := (hSound hLookup hLink hTarget).1
    refine ⟨known, budget + inner.length + 1, by omega, hSound, fun _ h => h, ?_⟩
    exact resolveTasks_known hPart hNamed hLookup

end Resolves

/-- Resolution goes where a walk leads, if the names of the links on its way fit. -/
theorem Leads.resolves {here there : Path} {parts : List String} {links : List Path}
    (h : Leads tree working here parts links there) (hHere : here.IsResolved)
    (hClear : IsClear tree working here)
    (hFit : ∀ link ∈ links, byteLength link.text < pathLimit) :
    Resolves tree working links.length here there parts := by
  induction h with
  | done here => exact .nil here
  | idle hPart _ ih => exact .cons (fun _ _ _ => resolveTasks_idle hPart) (ih hHere hClear hFit)
  | up hSearch _ ih =>
      exact .cons (fun _ _ _ => resolveTasks_up)
        (ih (isResolved_ascend hHere) (hClear.ascend hHere hSearch) hFit)
  | @enter here _ part _ _ hPart hSearch hLength hSome hLink _ ih =>
      have hNamed : tree.linkNamed? working (here.child part) = none := by
        rw [linkNamed?_child hClear hHere hPart hSearch hLength, hLink, ite_self]
      exact .cons (fun _ _ _ => resolveTasks_name hPart hNamed)
        (ih (hHere.child hPart) (hClear.child hHere hPart hSearch hLength hSome hLink) hFit)
  | @follow here _ _ part target _ inner outer hPart hSearch hLength hLink hTarget _ ihTarget
      ihRest =>
      have hBase := isResolved_targetBase hHere target
      have hBaseClear := hClear.targetBase target
      have hInnerFit : ∀ link ∈ inner, byteLength link.text < pathLimit :=
        fun link hMem => hFit link (by simp [hMem])
      have hOuterFit : ∀ link ∈ outer, byteLength link.text < pathLimit :=
        fun link hMem => hFit link (by simp [hMem])
      have hNamed : tree.linkNamed? working (here.child part) = some target := by
        have hShort := hFit (here.child part) (by simp)
        rw [linkNamed?_child hClear hHere hPart hSearch hLength, if_neg (Nat.not_le.mpr hShort),
          hLink]
      have hFirst := Resolves.link hPart hNamed hLink hTarget hInnerFit
        (ihTarget hBase hBaseClear hInnerFit)
      have hSecond := ihRest (hTarget.isResolved hBase) (hTarget.isClear hBase hBaseClear) hOuterFit
      have hCount : (here.child part :: (inner ++ outer)).length =
          inner.length + 1 + outer.length := by
        simp only [List.length_cons, List.length_append]
        omega
      rw [hCount]
      exact hFirst.append hSecond

/-! Agreement -/

/-- Every link that the path leads over is met under a name that is not too long for the system. -/
def LinkNamesFit (tree : Tree) (working : Location) (p : Path) : Prop :=
  ∀ ⦃links : List Path⦄ ⦃there : Path⦄, Leads tree working p.beginning p.parts links there →
    ∀ link ∈ links, byteLength link.text < pathLimit

theorem isResolved_beginning (p : Path) : p.beginning.IsResolved :=
  ⟨by simp [beginning], by simp [beginning]⟩

theorem leads_of_find {purpose : Purpose} (hPurpose : purpose ≠ .entry) {p : Path}
    {location : Location} (h : tree.find working purpose p = .ok (.present location)) :
    ∃ links there, Leads tree working p.beginning p.parts links there ∧
      there.place working = location ∧ links.length ≤ linkLimit := by
  have hPlace : p.beginning.place working = p.start working := by
    obtain ⟨anchor, parts⟩ := p
    cases anchor <;> rfl
  obtain ⟨-, hWalk⟩ := find_ok.mp h
  exact hWalk.leads hPurpose (isResolved_beginning p) hPlace

/-- The path has a canonical location, and no more than so many links are resolved within each other on the
way to it. -/
structure Settles (tree : Tree) (working : Location) (count : Nat) (p : Path) (location : Location) : Prop where
  canonical : tree.canonical working p = .ok location
  nesting : tree.nesting working p ≤ count

/-- Without a loop, the canonical location is where resolution ends. A budget that it does not use up bounds
how far links are nested. -/
theorem settles_of_resolveTasks {p : Path} {location : Location} {count : Nat}
    (hCount : count ≤ tree.linkNames working)
    (h : tree.resolveTasks working count [] p.beginning (p.parts.map .component) =
      .canonical location) : tree.Settles working count p location := by
  obtain ⟨extra, hExtra⟩ := Nat.exists_eq_add_of_le hCount
  obtain ⟨hResolve, hNesting⟩ := resolveTasks_of_canonical h extra
  rw [← hExtra] at hResolve hNesting
  unfold beginning at hResolve hNesting
  constructor
  · unfold canonical
    dsimp only
    rw [hResolve]
  · have hOpen : openLinks (p.parts.map .component) = 0 := by simp [openLinks]
    rwa [hOpen, Nat.zero_add] at hNesting

/-- Whatever the system finds at a path stands at its canonical location. -/
theorem settles_of_find (hWorking : IsPlain working) {purpose : Purpose}
    (hPurpose : purpose ≠ .entry) {p : Path} (hFit : LinkNamesFit tree working p)
    {location : Location} (h : tree.find working purpose p = .ok (.present location)) :
    tree.Settles working linkLimit p location := by
  obtain ⟨links, there, hLeads, hPlace, hCount⟩ := leads_of_find hPurpose h
  obtain ⟨known, budget, _, _, _, hResolve⟩ :=
    hLeads.resolves (isResolved_beginning p) (isClear_beginning p) (hFit hLeads)
      isSound_nil (isBounded_nil _) (linkLimit - links.length) []
  rw [Nat.sub_add_cancel hCount, List.append_nil] at hResolve
  have hEnd : tree.resolveTasks working budget known there [] = .canonical location := by
    rw [resolveTasks, advance]
    change Resolved.canonical (there.lexical working).parts = _
    rw [lexical_parts hWorking, hPlace]
  exact settles_of_resolveTasks linkLimit_le_linkNames (hResolve.trans hEnd)

/-- On an absolute path every link is met under the name of its location. -/
theorem Leads.links_located {here there : Path} {parts : List String} {links : List Path}
    (h : Leads tree working here parts links there) (hHere : here.IsResolved)
    (hAnchor : here.anchor = .root) :
    there.anchor = .root ∧
      ∀ link ∈ links, ∃ location, link = ofLocation location ∧ (tree.linkAt? location).isSome := by
  induction h with
  | done => exact ⟨hAnchor, by simp⟩
  | idle _ _ ih => exact ih hHere hAnchor
  | up _ _ ih =>
      refine ih (isResolved_ascend hHere) ?_
      unfold ascend
      rw [if_neg (by simp [hAnchor])]
      exact hAnchor
  | enter hPart _ _ _ _ _ ih => exact ih (hHere.child hPart) hAnchor
  | @follow here _ _ part target _ _ _ hPart _ _ hLink hTarget _ ihTarget ihRest =>
      have hBaseAnchor : (targetBase here target).anchor = .root := by
        unfold targetBase
        split
        · exact hAnchor
        · rfl
      have hBase := isResolved_targetBase hHere target
      obtain ⟨hMiddle, hInner⟩ := ihTarget hBase hBaseAnchor
      obtain ⟨hThere, hOuter⟩ := ihRest (hTarget.isResolved hBase) hMiddle
      refine ⟨hThere, ?_⟩
      intro link hMem
      rcases List.mem_cons.mp hMem with rfl | hMem
      · refine ⟨here.place working ++ [part], ?_, by simp [hLink]⟩
        have hPlain : IsPlain here.parts := fun other hOther =>
          ⟨hHere.idle other hOther, fun hUp => hHere.up (by simp [hAnchor]) (hUp ▸ hOther)⟩
        have hPlace : here.place working = here.parts := by
          simp [place, start, hAnchor, foldl_descend_plain hPlain]
        rw [hPlace]
        simp [Path.child, ofLocation, hAnchor]
      · rcases List.mem_append.mp hMem with hMem | hMem
        · exact hInner link hMem
        · exact hOuter link hMem

/-- The place that an absolute path leads to is reached under its own name, without a link. -/
theorem way_of_find {purpose : Purpose} (hPurpose : purpose ≠ .entry) {p : Path}
    (hAnchor : p.anchor ≠ .relative) {location : Location}
    (h : tree.find working purpose p = .ok (.present location)) :
    IsPlain location ∧ Strides tree .target [] location (.arrived (.present location)) := by
  obtain ⟨links, there, hLeads, rfl, _⟩ := leads_of_find hPurpose h
  have hBeginning := isResolved_beginning p
  have hRoot : p.beginning.anchor = .root := if_neg hAnchor
  obtain ⟨hThere, _⟩ := hLeads.links_located hBeginning hRoot
  have hResolved := hLeads.isResolved hBeginning
  have hClear := hLeads.isClear hBeginning (isClear_beginning p)
  obtain ⟨anchor, parts⟩ := there
  subst hThere
  have hPlain : IsPlain parts := fun part hMem =>
    ⟨hResolved.idle part hMem, fun hUp => hResolved.up (by simp) (hUp ▸ hMem)⟩
  have hPlace : (Path.mk .root parts).place working = parts :=
    (foldl_descend_plain hPlain []).trans (List.nil_append parts)
  rw [IsClear, hPlace] at hClear
  rw [hPlace]
  exact ⟨hPlain, hClear⟩

/-- The names of links fit on every absolute path if no link stands too deep in the tree. -/
theorem linkNamesFit_of_absolute {p : Path} (hAnchor : p.anchor ≠ .relative)
    (h : ∀ location, (tree.linkAt? location).isSome →
      byteLength (ofLocation location).text < pathLimit) : LinkNamesFit tree working p := by
  intro links there hLeads link hMem
  obtain ⟨location, rfl, hLink⟩ := (hLeads.links_located (isResolved_beginning p)
    (by simp [beginning, hAnchor])).2 link hMem
  exact h location hLink

/-- The names of links fit on every absolute path if no entry of the tree has a name that is too
long. -/
theorem linkNamesFit_of_entries {p : Path} (hAnchor : p.anchor ≠ .relative)
    (h : ∀ entry ∈ tree.entries, byteLength (ofLocation entry.1).text < pathLimit) :
    LinkNamesFit tree working p := by
  apply linkNamesFit_of_absolute hAnchor
  intro location hLink
  obtain ⟨target, hLink⟩ := Option.isSome_iff_exists.mp hLink
  exact h _ (mem_entries_of_linkAt? hLink)

end Tree

end ConfigGate
