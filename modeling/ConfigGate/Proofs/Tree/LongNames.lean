import ConfigGate.Proofs.Tree.Canonical
import ConfigGate.Proofs.Tree.Operations
import Mathlib.Algebra.GroupWithZero.Nat

/-! Links whose names are too long. The system looks a link up under the name that resolution has for
it, and refuses a name that is too long, so that resolution takes the link for an ordinary name. A walk
never sees such a name and follows the link. -/
namespace ConfigGate

namespace Path

/-- The length of a text of one character. -/
theorem byteLength_replicate (n : Nat) (c : Char) :
    byteLength (String.ofList (List.replicate n c)) = n * c.utf8Size := by
  induction n with
  | zero => simp [byteLength]
  | succ n ih =>
      have hCons : String.ofList (List.replicate (n + 1) c) =
          String.singleton c ++ String.ofList (List.replicate n c) := by
        rw [List.replicate_succ, String.ofList_cons]
      rw [byteLength] at ih ⊢
      rw [hCons, String.utf8ByteSize_append, ih, String.utf8ByteSize_singleton, Nat.succ_mul,
        Nat.add_comm]

/-- The name of an entry is at least as long as that of its directory. -/
theorem pathLimit_le_child {p : Path} (h : Tree.pathLimit ≤ byteLength p.text) (part : String) :
    Tree.pathLimit ≤ byteLength (p.child part).text := by
  obtain ⟨anchor, parts⟩ := p
  have hParts : parts ≠ [] := by
    rintro rfl
    revert h
    cases anchor <;> decide
  have hSame : (Path.mk anchor parts).text = anchor.text ++ String.intercalate "/" parts := by
    simp [text, hParts]
  have hChild : ((Path.mk anchor parts).child part).text =
      anchor.text ++ (String.intercalate "/" parts ++ "/" ++ part) := by
    simp [text, child, String.intercalate_append_of_ne_nil hParts]
  rw [hSame] at h
  rw [hChild]
  simp only [byteLength, String.utf8ByteSize_append] at h ⊢
  omega

/-- A path name is at least as long as its components together. -/
theorem sum_le_byteLength_text (p : Path) :
    (p.parts.map byteLength).sum ≤ byteLength p.text := by
  obtain ⟨anchor, parts⟩ := p
  have hText : byteLength (String.intercalate "/" parts) ≤ byteLength (Path.mk anchor parts).text := by
    unfold text
    split
    · rename_i h
      simp only [Bool.and_eq_true, List.isEmpty_iff] at h
      simp [h.2, byteLength]
    · simp [byteLength]
  refine Nat.le_trans ?_ hText
  clear hText
  induction parts with
  | nil => simp
  | cons part rest ih =>
      cases rest with
      | nil => simp
      | cons next rest =>
          rw [String.intercalate_cons_of_ne_nil (by simp), List.map_cons, List.sum_cons]
          simp only [byteLength, String.utf8ByteSize_append] at ih ⊢
          omega

end Path

/-- The target of a link. -/
def Entry.target? : Entry → Option String
  | .link target => some target
  | _ => none

namespace Tree

open Path

variable {tree : Tree} {working : Location}

theorem place_names {p : Path} {names : List String} (h : IsPlain names) :
    (Path.mk p.anchor (p.parts ++ names)).place working = p.place working ++ names := by
  unfold place
  rw [List.foldl_append, foldl_descend_plain h]
  rfl

theorem linkNamed?_of_long {p : Path} (h : pathLimit ≤ byteLength p.text) :
    tree.linkNamed? working p = none := by
  simp [linkNamed?, find, h]

/-- Below a name that is too long every component stands for itself. -/
theorem advance_of_long (tree : Tree) (working : Location) (known : KnownLinks) {here : Path}
    {tasks : List Task}
    (hLong : pathLimit ≤ byteLength here.text) (hTasks : Task.component ".." ∉ tasks) :
    ∃ names, IsPlain names ∧
      advance tree working known here tasks = .finished ⟨here.anchor, here.parts ++ names⟩ := by
  induction tasks generalizing known here with
  | nil => exact ⟨[], by simp [IsPlain], by simp [advance]⟩
  | cons task rest ih =>
      have hRest : Task.component ".." ∉ rest := fun hMem => hTasks (List.mem_cons_of_mem _ hMem)
      cases task with
      | settle link => exact ih _ hLong hRest
      | component part =>
          by_cases hIdle : isIdle part = true
          · rw [advance, if_pos hIdle]
            exact ih known hLong hRest
          · have hUp : part ≠ ".." := by
              rintro rfl
              exact hTasks (by simp)
            have hChild := pathLimit_le_child hLong part
            obtain ⟨names, hNames, hAdvance⟩ := ih known hChild hRest
            refine ⟨part :: names, ?_, ?_⟩
            · intro name hName
              rcases List.mem_cons.mp hName with rfl | hName
              · exact ⟨by simpa using hIdle, hUp⟩
              · exact hNames name hName
            · rw [advance, if_neg hIdle, if_neg hUp, linkNamed?_of_long hChild]
              simpa [child] using hAdvance

/-- No link of the tree leads upward. -/
def LinksDescend (tree : Tree) : Prop :=
  ∀ ⦃location target⦄, tree.linkAt? location = some target → ".." ∉ pieces target

theorem linksDescend_of_entries
    (h : ∀ entry ∈ tree.entries, ∀ target ∈ entry.2.target?, ".." ∉ pieces target) :
    tree.LinksDescend :=
  fun _ target hLink => h _ (mem_entries_of_linkAt? hLink) target rfl

/-- Resolution of the components ends below one of the links, at a link whose name is too long. It does
so with any budget for as many links, if nothing leads up again. -/
def Strays (tree : Tree) (working : Location) (count : Nat) (links : List Path) (here : Path)
    (parts : List String) : Prop :=
  ∀ ⦃known : KnownLinks⦄, IsSound tree working known → IsBounded tree working known count →
    ∀ (budget : Nat) ⦃tasks : List Task⦄, Task.component ".." ∉ tasks →
      ∃ link ∈ links, pathLimit ≤ byteLength link.text ∧
        (tree.linkAt? (link.place working)).isSome ∧ ∃ names, IsPlain names ∧
        resolveTasks tree working (budget + count) known here (parts.map .component ++ tasks) =
          .canonical (link.place working ++ names)

namespace Strays

variable {here middle : Path} {part : String} {parts rest : List String} {count : Nat}
  {links : List Path}

theorem mono {count' : Nat} {links' : List Path} (h : Strays tree working count links here parts)
    (hCount : count ≤ count') (hLinks : links ⊆ links') :
    Strays tree working count' links' here parts := by
  intro known hSound hBounded budget tasks hTasks
  obtain ⟨link, hMem, hStrays⟩ :=
    h hSound (hBounded.mono hCount) (budget + (count' - count)) hTasks
  rw [show budget + (count' - count) + count = budget + count' by omega] at hStrays
  exact ⟨link, hLinks hMem, hStrays⟩

/-- A component that takes one step and needs no link. -/
theorem cons
    (hStep : ∀ (budget : Nat) (known : KnownLinks) (tasks : List Task),
      resolveTasks tree working budget known here (.component part :: tasks) =
        resolveTasks tree working budget known middle tasks)
    (h : Strays tree working count links middle rest) :
    Strays tree working count links here (part :: rest) := by
  intro known hSound hBounded budget tasks hTasks
  rw [List.map_cons, List.cons_append, hStep]
  exact h hSound hBounded budget hTasks

/-- Resolution passes the first part and ends within the second. -/
theorem append {count' : Nat} (h : Resolves tree working count' here middle parts)
    (h' : Strays tree working count links middle rest) :
    Strays tree working (count' + count) links here (parts ++ rest) := by
  intro known hSound hBounded budget tasks hTasks
  obtain ⟨known', budget', hBudget, hSound', hOpen, hResolve⟩ :=
    h hSound (hBounded.mono (by omega)) (budget + count) (rest.map .component ++ tasks)
  obtain ⟨link, hMem, hLong, hSome, names, hNames, hStrays⟩ :=
    h' hSound' ((hBounded.of_open hOpen).mono (by omega)) (budget' - count) hTasks
  refine ⟨link, hMem, hLong, hSome, names, hNames, ?_⟩
  rw [List.map_append, List.append_assoc,
    show budget + (count' + count) = budget + count + count' by omega, hResolve, ← hStrays,
    show budget' - count + count = budget' by omega]

/-- The link has a name that is too long itself. It is taken for an ordinary name. -/
theorem here_of_long (hWorking : IsPlain working) (hPart : IsName part)
    (hSome : (tree.linkAt? (here.place working ++ [part])).isSome)
    (hLong : pathLimit ≤ byteLength (here.child part).text) (hRest : ".." ∉ rest) :
    Strays tree working 0 [here.child part] here (part :: rest) := by
  intro known _ _ budget tasks hTasks
  obtain ⟨names, hNames, hAdvance⟩ := advance_of_long tree working known hLong
    (show Task.component ".." ∉ rest.map Task.component ++ tasks by simpa [hTasks] using hRest)
  refine ⟨here.child part, by simp, hLong, ?_, names, hNames, ?_⟩
  · rwa [place_child, descend_name hPart]
  · rw [List.map_cons, List.cons_append, resolveTasks_name hPart (linkNamed?_of_long hLong),
      resolveTasks, hAdvance]
    change Resolved.canonical _ = _
    rw [lexical_parts hWorking, place_names hNames]

/-- The target of the link leads over a link with such a name. It has not been noted, for only targets
over links whose names fit are. -/
theorem within_target {target : String} {inner : List Path} (hPart : IsName part)
    (hNamed : tree.linkNamed? working (here.child part) = some target)
    (hLink : tree.linkAt? (here.place working ++ [part]) = some target)
    (hTarget : Leads tree working (targetBase here target) (pieces target) inner middle)
    (hLong : ∃ link ∈ inner, pathLimit ≤ byteLength link.text) (hRest : ".." ∉ rest)
    (h : Strays tree working inner.length inner (targetBase here target) (pieces target)) :
    Strays tree working (inner.length + 1) inner here (part :: rest) := by
  intro known hSound hBounded budget tasks hTasks
  have hUnknown : known.lookup (here.child part) = none := by
    rcases hLookup : known.lookup (here.child part) with _ | _ | noted
    · rfl
    · have hShort := hBounded hLookup hLink hTarget
      omega
    · obtain ⟨link, hMem, hLongLink⟩ := hLong
      have hShort := (hSound hLookup hLink hTarget).2 link hMem
      omega
  obtain ⟨link, hMem, hLongLink, hSome, names, hNames, hStrays⟩ :=
    h (hSound.assign_none (here.child part)) (hBounded.assign_none (by omega) hLink hTarget) budget
      (show Task.component ".." ∉
        .settle (here.child part) :: (rest.map .component ++ tasks) by simpa [hTasks] using hRest)
  refine ⟨link, hMem, hLongLink, hSome, names, hNames, ?_⟩
  rw [List.map_cons, List.cons_append, ← Nat.add_assoc, resolveTasks_fresh hPart hNamed hUnknown]
  exact hStrays

end Strays

/-- Resolution ends below the first link whose name is too long, if nothing leads up again. -/
theorem Leads.strays (hWorking : IsPlain working) (hTree : tree.LinksDescend) {here there : Path}
    {parts : List String} {links : List Path} (h : Leads tree working here parts links there)
    (hHere : here.IsResolved) (hClear : IsClear tree working here) (hUp : ".." ∉ parts)
    (hLong : ∃ link ∈ links, pathLimit ≤ byteLength link.text) :
    Strays tree working links.length links here parts := by
  induction h with
  | done => simp at hLong
  | idle hPart _ ih =>
      exact .cons (fun _ _ _ => resolveTasks_idle hPart)
        (ih hHere hClear (fun hMem => hUp (.tail _ hMem)) hLong)
  | up => simp at hUp
  | @enter here _ part _ _ hPart hSearch hLength hSome hNone _ ih =>
      have hNamed : tree.linkNamed? working (here.child part) = none := by
        rw [linkNamed?_child hClear hHere hPart hSearch hLength, hNone, ite_self]
      exact .cons (fun _ _ _ => resolveTasks_name hPart hNamed)
        (ih (hHere.child hPart) (hClear.child hHere hPart hSearch hLength hSome hNone)
          (fun hMem => hUp (.tail _ hMem)) hLong)
  | @follow here _ _ part target _ inner outer hPart hSearch hLength hLink hTarget _ ihTarget
      ihRest =>
      have hBase := isResolved_targetBase hHere target
      have hBaseClear := hClear.targetBase target
      have hRestUp := fun hMem => hUp (.tail _ hMem)
      have hCount : (here.child part :: (inner ++ outer)).length =
          inner.length + 1 + outer.length := by
        simp only [List.length_cons, List.length_append]
        omega
      rw [hCount]
      -- The first name that is too long is that of the link, or one on the way to its target, or one
      -- after it.
      by_cases hThis : pathLimit ≤ byteLength (here.child part).text
      · exact (Strays.here_of_long hWorking hPart (by simp [hLink]) hThis hRestUp).mono
          (Nat.zero_le _) (by simp)
      have hNamed : tree.linkNamed? working (here.child part) = some target := by
        rw [linkNamed?_child hClear hHere hPart hSearch hLength, if_neg hThis, hLink]
      by_cases hInner : ∃ link ∈ inner, pathLimit ≤ byteLength link.text
      · have hWithin := ihTarget hBase hBaseClear (hTree hLink) hInner
        exact (Strays.within_target hPart hNamed hLink hTarget hInner hRestUp hWithin).mono
          (Nat.le_add_right _ _) (by simp)
      have hFit : ∀ link ∈ inner, byteLength link.text < pathLimit :=
        fun link hMem => Nat.not_le.mp fun hLongLink => hInner ⟨link, hMem, hLongLink⟩
      have hOuter : ∃ link ∈ outer, pathLimit ≤ byteLength link.text := by
        obtain ⟨link, hMem, hLongLink⟩ := hLong
        rcases List.mem_cons.mp hMem with rfl | hMem
        · exact absurd hLongLink hThis
        · rcases List.mem_append.mp hMem with hMem | hMem
          · exact absurd ⟨link, hMem, hLongLink⟩ hInner
          · exact ⟨link, hMem, hLongLink⟩
      have hFirst := Resolves.link hPart hNamed hLink hTarget hFit
        (hTarget.resolves hBase hBaseClear hFit)
      have hAfter := ihRest (hTarget.isResolved hBase) (hTarget.isClear hBase hBaseClear) hRestUp
        hOuter
      exact (Strays.append hFirst hAfter).mono (Nat.le_refl _) (by simp)

/-- A path over a link whose name is too long is judged as if the link were a directory. -/
theorem settles_of_long (hWorking : IsPlain working) (hTree : tree.LinksDescend) {p there : Path}
    {links : List Path} (hUp : ".." ∉ p.parts)
    (h : Leads tree working p.beginning p.parts links there) (hCount : links.length ≤ linkLimit)
    (hLong : ∃ link ∈ links, pathLimit ≤ byteLength link.text) :
    ∃ link ∈ links, pathLimit ≤ byteLength link.text ∧
      (tree.linkAt? (link.place working)).isSome ∧
      ∃ names, tree.Settles working linkLimit p (link.place working ++ names) := by
  obtain ⟨link, hMem, hLink, hSome, names, _, hResolve⟩ :=
    h.strays hWorking hTree (isResolved_beginning p) (isClear_beginning p) hUp hLong isSound_nil
      (isBounded_nil _) (linkLimit - links.length) List.not_mem_nil
  rw [Nat.sub_add_cancel hCount, List.append_nil] at hResolve
  exact ⟨link, hMem, hLink, hSome, names, settles_of_resolveTasks linkLimit_le_linkNames hResolve⟩

/-- An entry stands at the location, and it is no link. -/
def IsSolid (tree : Tree) (location : Location) : Prop :=
  (tree.timeless? location).isSome ∧ tree.linkAt? location = none

theorem isSolid_of_directory {location : Location} (h : tree.isDirectoryAt location) :
    tree.IsSolid location := by
  obtain ⟨mode, hMode⟩ := Option.isSome_iff_exists.mp h
  refine ⟨timeless?_isSome_of_directory h, ?_⟩
  rw [linkAt?_eq, timeless?_of_directory tree hMode]

/-- A walk that begins at an entry that is no link ends at one. -/
theorem Leads.isSolid (wf : tree.WellFormed) {here there : Path} {parts : List String}
    {links : List Path} (h : Leads tree working here parts links there) (hHere : here.IsResolved)
    (hSolid : tree.IsSolid (here.place working)) : tree.IsSolid (there.place working) := by
  induction h with
  | done => exact hSolid
  | idle _ _ ih => exact ih hHere hSolid
  | @up here _ _ _ hSearch _ ih =>
      apply ih (isResolved_ascend hHere)
      rw [place_ascend hHere]
      apply isSolid_of_directory
      by_cases hRoot : here.place working = []
      · rw [hRoot]
        rfl
      · have hDirectory := isDirectoryAt_of_searchable hSearch
        exact wf.parents _ ((mem_locations_iff hRoot).mpr (timeless?_isSome_of_directory hDirectory))
  | enter hPart _ _ hSome hLink _ ih =>
      apply ih (hHere.child hPart)
      rw [place_child, descend_name hPart]
      exact ⟨by simpa [timeless?] using hSome, hLink⟩
  | @follow here _ _ _ target _ _ _ _ hSearch _ _ hTarget _ ihTarget ihRest =>
      have hBase := isResolved_targetBase hHere target
      apply ihRest (hTarget.isResolved hBase)
      apply ihTarget hBase
      rw [place_targetBase]
      unfold targetStart
      split
      · exact isSolid_of_directory (isDirectoryAt_of_searchable hSearch)
      · exact isSolid_of_directory rfl

/-- In a tree whose links lead nowhere upward, a path that leads to its canonical location leads over
links whose names fit. -/
theorem linkNamesFit_of_canonical (wf : tree.WellFormed) (hWorking : IsPlain working)
    (hHome : tree.isDirectoryAt working) (hTree : tree.LinksDescend) {p : Path}
    (hUp : ".." ∉ p.parts) {location : Location}
    (hFind : tree.find working .target p = .ok (.present location))
    (hCanonical : tree.canonical working p = .ok location) : LinkNamesFit tree working p := by
  obtain ⟨links, there, hLeads, rfl, hCount⟩ := leads_of_find (by decide) hFind
  intro links' there' hLeads' long hMem
  obtain ⟨rfl, rfl⟩ := hLeads.deterministic hLeads'
  apply Nat.not_le.mp
  intro hLong
  obtain ⟨link, _, _, hLink, names, hJudged⟩ :=
    settles_of_long hWorking hTree hUp hLeads hCount ⟨long, hMem, hLong⟩
  replace hJudged := hJudged.canonical
  rw [hCanonical, Except.ok.injEq] at hJudged
  have hStart : tree.isDirectoryAt (p.beginning.place working) := by
    obtain ⟨anchor, parts⟩ := p
    cases anchor with
    | relative => exact hHome
    | root => rfl
    | doubleRoot => rfl
  obtain ⟨hSome, hNone⟩ := hLeads.isSolid wf (isResolved_beginning p) (isSolid_of_directory hStart)
  by_cases hEnd : link.place working = there.place working
  · rw [hEnd, hNone] at hLink
    cases hLink
  · have hPrefix : link.place working <+: there.place working := ⟨names, hJudged.symm⟩
    have hDirectory := isSolid_of_directory (wf.isDirectoryAt_of_prefix hSome hPrefix hEnd)
    rw [hDirectory.2] at hLink
    cases hLink

/-! A short way that leads deep down -/

/-- A name of two hundred bytes. -/
def deepName : String := String.ofList (List.replicate 200 'd')

/-- So many directories with long names, one inside the other. -/
def deep (n : Nat) : Location := "conf" :: List.replicate n deepName

/-- The way down fifteen directories. -/
def down : String := relativeText (List.replicate 15 deepName)

/-- A short way down thirty directories with long names, and a link at its end that leads elsewhere. -/
def deepTree : Tree where
  entries := [
    (["outside"], .directory 0o755 .recent),
    (["outside", "secret"], .file 0),
    (deep 0 ++ ["a"], .link down),
    (deep 15 ++ ["b"], .link down),
    (deep 30 ++ ["z"], .link "/outside")] ++
    (List.range 31).map fun n => (deep n, .directory 0o755 .recent)
  files := [(0, ⟨0o644, [0x73], .recent⟩)]
  nextFile := 1

theorem byteLength_deepName : byteLength deepName = 200 := by
  have hSize : ('d').utf8Size = 1 := by decide
  unfold deepName
  rw [byteLength_replicate, hSize]

theorem deepName_ne {name : String} (h : byteLength name ≠ 200) : deepName ≠ name := by
  rintro rfl
  exact h byteLength_deepName

theorem isName_deepName : IsName deepName := by
  refine ⟨?_, deepName_ne (by decide)⟩
  have hEmpty : deepName ≠ "" := deepName_ne (by decide)
  have hDot : deepName ≠ "." := deepName_ne (by decide)
  simp [isIdle, hEmpty, hDot]

theorem slash_notMem_deepName : '/' ∉ deepName.toList := by
  unfold deepName
  rw [String.toList_ofList]
  exact fun hMem => absurd (List.eq_of_mem_replicate hMem) (by decide)

theorem down_eq : down = String.intercalate "/" (List.replicate 15 deepName) := by
  simp [down, relativeText, text, Anchor.text]

theorem pieces_down : pieces down = List.replicate 15 deepName := by
  unfold pieces
  rw [down_eq, String.toList_intercalate, List.map_replicate, show "/".toList = ['/'] from rfl,
    List.splitOn_intercalate]
  · rw [List.map_replicate, String.ofList_toList]
  · intro part hPart
    rw [List.eq_of_mem_replicate hPart]
    exact slash_notMem_deepName
  · simp

/-- A link has a name of its own. -/
theorem deep_ne_concat {n m : Nat} {name : String} (h : byteLength name = 1) :
    deep m ≠ deep n ++ [name] := by
  intro hEq
  have hMem : name ∈ deep m := by simp [hEq]
  rcases List.mem_cons.mp hMem with rfl | hMem
  · exact absurd h (by decide)
  · rw [List.eq_of_mem_replicate hMem, byteLength_deepName] at h
    cases h

theorem entry?_deep {n : Nat} (h : n ≤ 30) :
    deepTree.entry? (deep n) = some (.directory 0o755 .recent) := by
  have hFound : ((List.range 31).map fun n =>
      (deep n, Entry.directory 0o755 .recent)).lookup (deep n) =
        some (.directory 0o755 .recent) := by
    have hMem : deep n ∈ ((List.range 31).map fun n =>
        (deep n, Entry.directory 0o755 .recent)).map Prod.fst := by
      rw [List.map_map, List.mem_map]
      exact ⟨n, List.mem_range.mpr (by omega), rfl⟩
    obtain ⟨entry, hEntry⟩ := Option.isSome_iff_exists.mp
      ((Keyed.mem_keys_iff_lookup_isSome _ _).mp hMem)
    obtain ⟨before, after, hEntries, _⟩ := List.lookup_eq_some_iff.mp hEntry
    have hIn : (deep n, entry) ∈ (List.range 31).map fun n =>
        (deep n, Entry.directory 0o755 .recent) := by simp [hEntries]
    obtain ⟨_, _, hSame⟩ := List.mem_map.mp hIn
    rw [hEntry, ← (Prod.mk.inj hSame).2]
  have hA : (deep n == deep 0 ++ ["a"]) = false :=
    beq_eq_false_iff_ne.mpr (deep_ne_concat (by decide))
  have hB : (deep n == deep 15 ++ ["b"]) = false :=
    beq_eq_false_iff_ne.mpr (deep_ne_concat (by decide))
  have hZ : (deep n == deep 30 ++ ["z"]) = false :=
    beq_eq_false_iff_ne.mpr (deep_ne_concat (by decide))
  have hOutside : (deep n == ["outside"]) = false := by simp [deep]
  have hSecret : (deep n == ["outside", "secret"]) = false := by simp [deep]
  rw [entry?_of_ne _ (by simp [deep])]
  simp only [deepTree, List.cons_append, List.nil_append, List.lookup_cons, hA, hB, hZ, hOutside,
    hSecret, hFound]

theorem entry?_a : deepTree.entry? (deep 0 ++ ["a"]) =
    some (.link down) := by
  rw [entry?_of_ne _ (by simp)]
  simp [deepTree, List.lookup_cons, deep]

theorem entry?_b : deepTree.entry? (deep 15 ++ ["b"]) =
    some (.link down) := by
  rw [entry?_of_ne _ (by simp)]
  have hA : (deep 15 ++ ["b"] == deep 0 ++ ["a"]) = false := by
    simp
  have hOutside : (deep 15 ++ ["b"] == ["outside"]) = false := by simp [deep]
  have hSecret : (deep 15 ++ ["b"] == ["outside", "secret"]) = false := by simp [deep]
  simp only [deepTree, List.cons_append, List.nil_append, List.lookup_cons, hA, hOutside, hSecret,
    beq_self_eq_true]

theorem entry?_z : deepTree.entry? (deep 30 ++ ["z"]) = some (.link "/outside") := by
  rw [entry?_of_ne _ (by simp)]
  have hA : (deep 30 ++ ["z"] == deep 0 ++ ["a"]) = false := by simp
  have hB : (deep 30 ++ ["z"] == deep 15 ++ ["b"]) = false := by simp
  have hOutside : (deep 30 ++ ["z"] == ["outside"]) = false := by simp [deep]
  have hSecret : (deep 30 ++ ["z"] == ["outside", "secret"]) = false := by simp [deep]
  simp only [deepTree, List.cons_append, List.nil_append, List.lookup_cons, hA, hB, hOutside,
    hSecret, beq_self_eq_true]

theorem isPlain_deep (n : Nat) : IsPlain (deep n) := by
  intro part hPart
  rcases List.mem_cons.mp hPart with rfl | hPart
  · decide
  · rw [List.eq_of_mem_replicate hPart]
    exact isName_deepName

theorem place_deep (working : Location) (n : Nat) : (ofLocation (deep n)).place working = deep n := by
  unfold place
  rw [show (ofLocation (deep n)).parts = deep n from rfl, foldl_descend_plain (isPlain_deep n)]
  rfl

theorem deep_succ (n : Nat) : deep n ++ [deepName] = deep (n + 1) := by
  rw [deep, deep, List.cons_append, List.replicate_succ']

theorem isSearchable_deep {n : Nat} (h : n ≤ 30) : deepTree.isSearchable (deep n) := by
  rw [isSearchable, directoryModeAt?, entry?_deep h]
  rfl

theorem linkAt?_deep {n : Nat} (h : n ≤ 30) : deepTree.linkAt? (deep n) = none := by
  rw [linkAt?, entry?_deep h]

/-- The system walks down. -/
theorem strides_deep {purpose : Purpose} {n k : Nat} {rest : List String} {out : Stretch}
    (h : n + k ≤ 30) (hPurpose : purpose ≠ .creation)
    (hRest : Strides deepTree purpose (deep (n + k)) rest out) :
    Strides deepTree purpose (deep n) (List.replicate k deepName ++ rest) out := by
  induction k generalizing n with
  | zero => exact hRest
  | succ k ih =>
      rw [List.replicate_succ, List.cons_append]
      refine .enter isName_deepName (isSearchable_deep (by omega))
        (by rw [byteLength_deepName]; decide) (fun h => absurd h hPurpose) ?_ ?_ ?_
      · rw [deep_succ, entry?_deep (by omega)]
        rfl
      · rw [deep_succ, linkAt?_deep (by omega)]
      · rw [deep_succ]
        exact ih (by omega) (by rwa [Nat.add_right_comm])

theorem leads_deep (working : Location) {n k : Nat} (h : n + k ≤ 30) :
    Leads deepTree working (ofLocation (deep n)) (List.replicate k deepName) []
      (ofLocation (deep (n + k))) := by
  induction k generalizing n with
  | zero => exact .done _
  | succ k ih =>
      rw [List.replicate_succ]
      refine .enter isName_deepName ?_ (by rw [byteLength_deepName]; decide) ?_ ?_ ?_
      · rw [place_deep]
        exact isSearchable_deep (by omega)
      · rw [place_deep, deep_succ, entry?_deep (by omega)]
        rfl
      · rw [place_deep, deep_succ, linkAt?_deep (by omega)]
      · have hNext : (ofLocation (deep n)).child deepName = ofLocation (deep (n + 1)) :=
          congrArg (Path.mk .root) (deep_succ n)
        rw [hNext, show n + (k + 1) = n + 1 + k by omega]
        exact ih (by omega)

theorem targetParts_down : targetParts down = List.replicate 15 deepName := by
  have hEmpty : deepName ≠ "" := deepName_ne (by decide)
  unfold targetParts
  rw [pieces_down]
  simp [hEmpty]

theorem anchorOf_down : anchorOf down = .relative := by
  have hName : deepName.toList = 'd' :: List.replicate 199 'd' := by
    unfold deepName
    rw [String.toList_ofList, List.replicate_succ]
  have hText : down = deepName ++ "/" ++ String.intercalate "/" (List.replicate 14 deepName) := by
    rw [down_eq, List.replicate_succ, String.intercalate_cons_of_ne_nil (by simp)]
  unfold anchorOf
  rw [hText, String.toList_append, String.toList_append, hName]
  rfl

/-- The request, seen from the root. -/
def shortcut : Path := ofLocation ["conf", "a", "b", "z", "secret"]

theorem strides_down {n : Nat} {part target : String} {rest : List String} (h : n ≤ 15)
    (hPart : IsName part) (hLength : byteLength part ≤ nameLimit)
    (hLink : deepTree.entry? (deep (n + 15) ++ [part]) = some (.link target)) :
    Strides deepTree .target (targetStart (deep n) down) (targetParts down ++ part :: rest)
      (.link (deep (n + 15)) target rest) := by
  rw [targetParts_down, targetStart, anchorOf_down, if_pos rfl]
  refine strides_deep (by omega) (by decide) ?_
  refine .link hPart (isSearchable_deep (by omega)) hLength (by simp) ?_ (by simp)
  rw [linkAt?, hLink]

theorem find_shortcut : deepTree.find [] .target shortcut = .ok (.present ["outside", "secret"]) := by
  have hShort : byteLength shortcut.text < pathLimit := by decide
  have hFirst : Strides deepTree .target [] ["conf", "a", "b", "z", "secret"]
      (.link (deep 0) down ["b", "z", "secret"]) := by
    refine .enter (by decide) (by decide) (by decide) (by simp) ?_ ?_ ?_
    · rw [show [] ++ ["conf"] = deep 0 from rfl, entry?_deep (by decide)]
      rfl
    · exact linkAt?_deep (show 0 ≤ 30 by decide)
    · change Strides deepTree .target (deep 0) ["a", "b", "z", "secret"] _
      refine .link (by decide) (isSearchable_deep (by decide)) (by decide) (by simp) ?_
        (by simp)
      rw [linkAt?, entry?_a]
  have hLast : Strides deepTree .target (targetStart (deep 30) "/outside")
      (targetParts "/outside" ++ ["secret"]) (.arrived (.present ["outside", "secret"])) := by
    rw [show targetParts "/outside" = ["outside"] by decide,
      show targetStart (deep 30) "/outside" = [] from if_neg (by decide)]
    refine .enter (by decide) (by decide) (by decide) (by simp) (by decide) (by decide) ?_
    exact .enter (by decide) (by decide) (by decide) (by simp) (by decide) (by decide)
      (.done _)
  have hWalk : Walks deepTree .target (.present ["outside", "secret"]) 40 []
      ["conf", "a", "b", "z", "secret"] :=
    .follow hFirst (.follow (strides_down (by decide) (by decide) (by decide) entry?_b)
      (.follow (strides_down (by decide) (by decide) (by decide) entry?_z) (.arrived hLast)))
  exact find_ok.mpr ⟨hShort, hWalk⟩

theorem leads_link {n : Nat} {part target : String} {rest : List String} {outer : List Path}
    {middle there : Path} (h : n ≤ 30) (hPart : IsName part) (hLength : byteLength part ≤ nameLimit)
    (hLink : deepTree.entry? (deep n ++ [part]) = some (.link target))
    (hTarget : Leads deepTree [] (targetBase (ofLocation (deep n)) target) (pieces target) [] middle)
    (hRest : Leads deepTree [] middle rest outer there) :
    Leads deepTree [] (ofLocation (deep n)) (part :: rest)
      (ofLocation (deep n ++ [part]) :: outer) there := by
  refine .follow hPart ?_ hLength ?_ hTarget hRest
  · rw [place_deep]
    exact isSearchable_deep h
  · rw [place_deep, linkAt?, hLink]

theorem leads_down {n : Nat} (h : n + 15 ≤ 30) :
    Leads deepTree [] (targetBase (ofLocation (deep n)) down) (pieces down) []
      (ofLocation (deep (n + 15))) := by
  rw [pieces_down, targetBase, anchorOf_down, if_pos rfl]
  exact leads_deep [] h

theorem leads_shortcut : Leads deepTree [] shortcut.beginning shortcut.parts
    [ofLocation (deep 0 ++ ["a"]), ofLocation (deep 15 ++ ["b"]), ofLocation (deep 30 ++ ["z"])]
    (ofLocation ["outside", "secret"]) := by
  have hOutside : Leads deepTree [] (targetBase (ofLocation (deep 30)) "/outside")
      (pieces "/outside") [] (ofLocation ["outside"]) := by
    rw [show pieces "/outside" = ["", "outside"] by decide,
      show targetBase (ofLocation (deep 30)) "/outside" = ofLocation [] from
        if_neg (by decide)]
    exact .idle rfl (.enter (by decide) (by decide) (by decide) (by decide) (by decide)
      (.done _))
  have hSecret : Leads deepTree [] (ofLocation ["outside"]) ["secret"] []
      (ofLocation ["outside", "secret"]) :=
    .enter (by decide) (by decide) (by decide) (by decide) (by decide) (.done _)
  have hZ := leads_link (by decide) (by decide) (by decide) entry?_z hOutside hSecret
  have hB := leads_link (by decide) (by decide) (by decide) entry?_b
    (leads_down (by decide)) hZ
  have hA := leads_link (by decide) (by decide) (by decide) entry?_a
    (leads_down (by decide)) hB
  exact .enter (by decide) (by decide) (by decide)
    (Option.isSome_of_mem (entry?_deep (show 0 ≤ 30 by decide)))
    (linkAt?_deep (show 0 ≤ 30 by decide)) hA

theorem linksDescend_deepTree : deepTree.LinksDescend := by
  intro location target hLink
  have hMem := mem_entries_of_linkAt? hLink
  have hTarget : target = down ∨ target = "/outside" := by
    simp only [deepTree, List.mem_append, List.mem_cons, List.mem_map, Prod.mk.injEq, reduceCtorEq,
      and_false, exists_false, or_false, false_or, List.not_mem_nil, Entry.link.injEq] at hMem
    rcases hMem with ⟨_, h⟩ | ⟨_, h⟩ | ⟨_, h⟩
    · exact .inl h
    · exact .inl h
    · exact .inr h
  rcases hTarget with rfl | rfl
  · rw [pieces_down]
    exact fun hUp => isName_deepName.2 (List.eq_of_mem_replicate hUp).symm
  · decide

/-- Resolution stops at the last link, which stands below a name that is too long. -/
theorem settles_shortcut :
    ∃ below, deepTree.Settles [] linkLimit shortcut ("conf" :: below) ∧
      "conf" :: below ≠ ["outside", "secret"] := by
  have hLong : ∃ link ∈ [ofLocation (deep 0 ++ ["a"]), ofLocation (deep 15 ++ ["b"]),
      ofLocation (deep 30 ++ ["z"])], pathLimit ≤ byteLength link.text := by
    refine ⟨ofLocation (deep 30 ++ ["z"]), by simp, Nat.le_trans ?_ (sum_le_byteLength_text _)⟩
    simp only [ofLocation, deep, List.map_append, List.map_cons, List.map_replicate,
      byteLength_deepName, List.sum_append, List.sum_cons, List.sum_replicate_nat]
    unfold pathLimit
    omega
  obtain ⟨link, hMem, _, _, names, hSettles⟩ :=
    settles_of_long (by decide) linksDescend_deepTree (by decide) leads_shortcut (by decide) hLong
  have hPlace (n : Nat) {name : String} (hName : IsName name) :
      (ofLocation (deep n ++ [name])).place [] = deep n ++ [name] := by
    change ((ofLocation (deep n)).child name).place [] = _
    rw [place_child, place_deep, descend_name hName]
  have hBelow : ∃ below, link.place [] = "conf" :: below := by
    simp only [List.mem_cons, List.not_mem_nil, or_false] at hMem
    rcases hMem with rfl | rfl | rfl
    · exact ⟨_, hPlace 0 (by decide)⟩
    · exact ⟨_, hPlace 15 (by decide)⟩
    · exact ⟨_, hPlace 30 (by decide)⟩
  obtain ⟨below, hBelow⟩ := hBelow
  rw [hBelow] at hSettles
  exact ⟨below ++ names, hSettles, by simp⟩

end Tree

end ConfigGate
