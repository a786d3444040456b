import ConfigGate.Proofs.Access.Guard
import ConfigGate.Proofs.NormalNames

/-! Whether the guard rejects a request as hidden, for all spellings of one path. The guard looks up the
request as it is spelled and the canonical location of the path. The second is the same for all
spellings, but no list of hidden names has all spellings of a path, so that the verdicts agree exactly
if the location is hidden whenever one of the spellings is. -/
namespace ConfigGate

open Act

variable {s : Setting} {root path : Path} {requested : String} {world : World}

namespace Path

/-- A slash ends a component. -/
theorem pieces_slash (front back : String) :
    pieces (front ++ "/" ++ back) = pieces front ++ pieces back := by
  unfold pieces
  rw [String.toList_append, String.toList_append, show "/".toList = ['/'] from rfl, List.append_assoc,
    List.singleton_append, List.splitOn_append_cons_self, List.map_append]

/-- Slashes count for the anchor only up to the first other character. -/
theorem anchorOf_append {front : String} (h : ∃ c ∈ front.toList, c ≠ '/') (back : String) :
    anchorOf (front ++ back) = anchorOf front := by
  have hTake : (front ++ back).toList.takeWhile (· == '/') = front.toList.takeWhile (· == '/') := by
    rw [String.toList_append]
    obtain ⟨c, hMem, hOther⟩ := h
    generalize front.toList = first at hMem
    induction first with
    | nil => cases hMem
    | cons d rest ih =>
        by_cases hSlash : d = '/'
        · subst hSlash
          have hRest : c ∈ rest := (List.mem_cons.mp hMem).resolve_left hOther
          simp [ih hRest]
        · simp [hSlash]
  unfold anchorOf
  rw [hTake]

/-- A dot at the end of a path that does not end in a slash changes nothing. -/
theorem parse_dot {text : String} (h : ∃ c ∈ text.toList, c ≠ '/') :
    parse (text ++ "/" ++ ".") = parse text := by
  unfold parse
  rw [pieces_slash, List.filter_append, String.append_assoc, anchorOf_append h]
  simp [show pieces "." = ["."] from rfl, isIdle]

/-- Slashes alone lead nowhere, and neither does a dot after them. -/
theorem parse_slashes_dot {text : String} (h : ∀ c ∈ text.toList, c = '/') :
    parse (text ++ ".") = parse text := by
  have hText : text.toList = List.replicate text.toList.length '/' := List.eq_replicate_of_mem h
  have hPieces (n : Nat) : (List.replicate n '/').splitOn '/' = List.replicate (n + 1) [] ∧
      (List.replicate n '/' ++ ['.']).splitOn '/' = List.replicate n [] ++ [['.']] := by
    induction n with
    | zero => exact ⟨rfl, rfl⟩
    | succ n ih =>
        simp only [List.replicate_succ, List.cons_append, List.splitOn_cons_eq_if_modifyHead, beq_self_eq_true,
          if_true, ih]
        exact ⟨trivial, trivial⟩
  have hTake (n : Nat) : (List.replicate n '/' ++ ['.']).takeWhile (· == '/') =
      (List.replicate n '/').takeWhile (· == '/') := by
    induction n with
    | zero => rfl
    | succ n ih => simp [List.replicate_succ, ih]
  unfold parse anchorOf pieces
  rw [String.toList_append, show ".".toList = ['.'] from rfl, hText, hTake, (hPieces _).1,
    (hPieces _).2]
  simp [isIdle]

end Path

namespace Guard

/-- Two dots in a row do not stand across a slash. -/
theorem hasTraversal_slash (front back : List Char) :
    hasTraversal (front ++ '/' :: back) = (hasTraversal front || hasTraversal back) := by
  induction front using hasTraversal.induct with
  | case1 rest => rfl
  | case2 c rest hOther ih =>
      rw [List.cons_append, hasTraversal.eq_2 c rest hOther, hasTraversal.eq_2 c _ ?_, ih]
      rintro more rfl hMore
      cases rest with
      | nil => cases hMore
      | cons d rest =>
          cases hMore
          exact hOther rest rfl rfl
  | case3 => rfl

/-- The direction of slashes does not matter for dots. -/
theorem hasTraversal_withForwardSlashes (requested : String) :
    hasTraversal (withForwardSlashes requested).toList = hasTraversal requested.toList := by
  have hDot (c : Char) : forwardSlash c = '.' ↔ c = '.' := by
    unfold forwardSlash
    split
    · rename_i h
      simp [h]
    · rfl
  unfold withForwardSlashes
  rw [String.toList_ofList]
  induction requested.toList using hasTraversal.induct with
  | case1 rest => rfl
  | case2 c rest hOther ih =>
      rw [List.map_cons, hasTraversal.eq_2 c rest hOther, hasTraversal.eq_2 _ _ ?_, ih]
      intro more hFirst hMore
      cases rest with
      | nil => cases hMore
      | cons d rest =>
          rw [List.map_cons, List.cons.injEq] at hMore
          exact hOther rest ((hDot c).mp hFirst) (by rw [(hDot d).mp hMore.1])
  | case3 => rfl

theorem hasNul_withForwardSlashes (requested : String) :
    hasNul (withForwardSlashes requested) = hasNul requested := by
  have hNul (c : Char) : forwardSlash c = '\x00' ↔ c = '\x00' := by
    unfold forwardSlash
    split
    · rename_i h
      simp [h]
    · rfl
  rw [Bool.eq_iff_iff]
  simp [hasNul, withForwardSlashes, hNul]

/-- A path that cannot be resolved is no rejection. -/
theorem canonicalRelative_ne_rejected (s : Setting) (path root : Path) (tree : Tree)
    (reason : Rejection) (file : String) :
    canonicalRelative s path root tree ≠ .error (.rejected reason file) := by
  have hCanonical (p : Path) : s.canonical p tree ≠ .error (.rejected reason file) := by
    rcases Setting.canonical_cases s p tree with ⟨_, h, _⟩ | ⟨_, h, hLoss, _⟩ | ⟨_, h, _⟩ <;> rw [h]
    · simp
    · cases hLoss <;> simp
    · simp
  unfold canonicalRelative
  intro h
  split at h
  · cases h
  · rename_i hPath
    cases h
    exact hCanonical path hPath
  · split at h
    · cases h
    · rename_i hRoot
      cases h
      exact hCanonical root hRoot
    · cases h

/-- The request spells the path, without anything that is forbidden in itself. -/
structure Spells (root path : Path) (requested : String) : Prop where
  untraversed : hasTraversal requested.toList = false
  untorn : hasNul requested = false
  joined : root.join (Path.parse (withForwardSlashes requested)) = path

/-- The guard rejects the request as hidden. -/
def RejectsHidden (s : Setting) (root : Path) (requested : String) (world : World) : Prop :=
  (attempt (check s root requested) world).1 =
    .error (.rejected .hidden (withForwardSlashes requested))

/-- The path has a canonical location below the root, which is hidden. -/
def LeadsToHidden (s : Setting) (root path : Path) (tree : Tree) : Prop :=
  ∃ parts, canonicalRelative s path root tree = .ok (some parts) ∧
    s.service.hidden.hides (Path.relativeText parts)

/-- A request is rejected as hidden for its spelling, or for the place that it leads to. -/
theorem rejectsHidden_iff (h : Spells root path requested) : RejectsHidden s root requested world ↔
    s.service.hidden.hides requested ∨ LeadsToHidden s root path world.tree := by
  unfold RejectsHidden LeadsToHidden
  rw [(attempt_check root requested world).1, ← HiddenNames.hides_congr (nameKey_withForwardSlashes requested)]
  unfold verdict
  simp only [hasTraversal_withForwardSlashes, h.untraversed, hasNul_withForwardSlashes, h.untorn, h.joined,
    Bool.false_eq_true, if_false]
  cases hLiteral : s.service.hidden.hides (withForwardSlashes requested) with
  | true => simp
  | false =>
      rcases hRelative : canonicalRelative s path root world.tree with failure | _ | parts
      · have hNe := canonicalRelative_ne_rejected s path root world.tree .hidden
          (withForwardSlashes requested)
        rw [hRelative] at hNe
        simpa using hNe
      · simp
      · cases hVisible : s.service.hidden.hides (Path.relativeText parts) <;> simp [hVisible]

namespace Spells

/-- Slashes in one direction spell the same path. -/
theorem withForwardSlashes (h : Spells root path requested) :
    Spells root path (withForwardSlashes requested) where
  untraversed := (hasTraversal_withForwardSlashes requested).trans h.untraversed
  untorn := (hasNul_withForwardSlashes requested).trans h.untorn
  joined := by
    rw [withForwardSlashes_withForwardSlashes]
    exact h.joined

/-- A longer spelling, with one more component that leads nowhere. -/
theorem dot (h : Spells root path requested) (hSome : ∃ c ∈ requested.toList, c ≠ '/' ∧ c ≠ '\\') :
    Spells root path (requested ++ "/" ++ ".") where
  untraversed := by
    rw [String.toList_append, String.toList_append, List.append_assoc]
    exact (hasTraversal_slash _ _).trans (by rw [h.untraversed]; rfl)
  untorn := by
    have hNul := h.untorn
    simp only [hasNul, List.contains_eq_mem, decide_eq_false_iff_not] at hNul ⊢
    simp [hNul]
  joined := by
    obtain ⟨c, hMem, hSlash, hBackslash⟩ := hSome
    rw [withForwardSlashes_append, withForwardSlashes_append]
    refine (congrArg root.join (Path.parse_dot ⟨c, ?_, hSlash⟩)).trans h.joined
    rw [ConfigGate.withForwardSlashes, String.toList_ofList]
    exact List.mem_map.mpr ⟨c, hMem, by simp [forwardSlash, hBackslash]⟩

/-- Some spelling has something in it besides slashes. -/
theorem exists_mem (h : Spells root path requested) :
    ∃ other, Spells root path other ∧ ∃ c ∈ other.toList, c ≠ '/' ∧ c ≠ '\\' := by
  by_cases hSome : ∃ c ∈ requested.toList, c ≠ '/' ∧ c ≠ '\\'
  · exact ⟨requested, h, hSome⟩
  · have hForward := h.withForwardSlashes
    have hSlashes : ∀ c ∈ (ConfigGate.withForwardSlashes requested).toList, c = '/' := by
      intro c hForwarded
      rw [ConfigGate.withForwardSlashes, String.toList_ofList] at hForwarded
      obtain ⟨d, hMem, rfl⟩ := List.mem_map.mp hForwarded
      by_cases hBackslash : d = '\\'
      · simp [forwardSlash, hBackslash]
      · rw [forwardSlash, if_neg hBackslash]
        exact Classical.byContradiction fun hSlash => hSome ⟨d, hMem, hSlash, hBackslash⟩
    refine ⟨ConfigGate.withForwardSlashes requested ++ ".", ⟨?_, ?_, ?_⟩, '.', by simp, by decide⟩
    · have hNone (text : List Char) (hText : ∀ c ∈ text, c = '/') :
          hasTraversal (text ++ ['.']) = false := by
        induction text with
        | nil => rfl
        | cons c rest ih =>
            rw [hText c (by simp)]
            exact ih fun d hMem => hText d (by simp [hMem])
      rw [String.toList_append]
      exact hNone _ hSlashes
    · have hNul := hForward.untorn
      simp only [hasNul, List.contains_eq_mem, decide_eq_false_iff_not] at hNul ⊢
      simp [hNul]
    · rw [withForwardSlashes_append, withForwardSlashes_withForwardSlashes]
      exact (congrArg root.join (Path.parse_slashes_dot hSlashes)).trans h.joined

/-- There is no longest spelling of a path. -/
theorem exists_long (h : Spells root path requested) (n : Nat) :
    ∃ other, Spells root path other ∧ n < (nameKey other).length := by
  suffices hLong : ∃ other, Spells root path other ∧ (∃ c ∈ other.toList, c ≠ '/' ∧ c ≠ '\\') ∧
      n ≤ (nameKey other).length by
    obtain ⟨other, hOther, hSome, hLength⟩ := hLong
    refine ⟨_, hOther.dot hSome, ?_⟩
    rw [nameKey_append, nameKey_append, String.length_append, String.length_append,
      show (nameKey "/").length = 1 by decide]
    omega
  induction n with
  | zero =>
      obtain ⟨other, hOther, hSome⟩ := h.exists_mem
      exact ⟨other, hOther, hSome, Nat.zero_le _⟩
  | succ n ih =>
      obtain ⟨other, hOther, hSome, hLength⟩ := ih
      refine ⟨_, hOther.dot hSome, ?_, ?_⟩
      · obtain ⟨c, hMem, hChar⟩ := hSome
        exact ⟨c, by simp [hMem], hChar⟩
      · rw [nameKey_append, nameKey_append, String.length_append, String.length_append,
          show (nameKey "/").length = 1 by decide]
        omega

end Spells

/-- The hidden names are finitely many, so some spelling of every path is none of them. -/
theorem exists_unlisted (h : Spells root path requested) (hidden : HiddenNames) :
    ∃ other, Spells root path other ∧ hidden.hides other = false := by
  obtain ⟨n, hBound⟩ := hidden.exists_length_bound
  obtain ⟨other, hOther, hLong⟩ := h.exists_long n
  refine ⟨other, hOther, ?_⟩
  rw [Bool.eq_false_iff]
  exact fun hHides => Nat.not_lt.mpr (hBound other hHides) hLong

/-- Where a path is spelled as its canonical location is, names in normal form hide it under this
spelling if under any. -/
theorem leadsToHidden_of_normal {names : List String}
    (hNames : ∀ name ∈ names, Text.strip name ≠ "" → IsNormalName (Text.strip name))
    (hHidden : s.service.hidden = .ofList names) {tree : Tree} {parts : List String}
    (hParts : canonicalRelative s path root tree = .ok (some parts))
    (hPath : path = ⟨root.anchor, root.parts ++ parts⟩) (h : Spells root path requested)
    (hHides : s.service.hidden.hides requested) : LeadsToHidden s root path tree := by
  rw [hHidden] at hHides
  obtain ⟨hAnchor, hNormal⟩ := HiddenNames.hides_normal hNames hHides
  have hJoined := h.joined
  rw [hPath, Path.join, hAnchor, Path.mk.injEq] at hJoined
  refine ⟨parts, hParts, ?_⟩
  rw [hHidden, ← List.append_cancel_left hJoined.2]
  exact hNormal

/-- All spellings of a path get the same verdict on whether they are hidden, exactly if the path leads to
a hidden place whenever one of its spellings is a hidden name. This is so for a path without links if the
hidden names are in normal form. -/
theorem rejectsHidden_congr_iff (s : Setting) (root path : Path) (world : World) :
    ((∀ requested other, Spells root path requested → Spells root path other →
        (RejectsHidden s root requested world ↔ RejectsHidden s root other world)) ↔
      ((∃ requested, Spells root path requested ∧ s.service.hidden.hides requested) →
        LeadsToHidden s root path world.tree)) ∧
    ∀ names parts, s.service.hidden = .ofList names →
      (∀ name ∈ names, Text.strip name ≠ "" → IsNormalName (Text.strip name)) →
      canonicalRelative s path root world.tree = .ok (some parts) →
      path = ⟨root.anchor, root.parts ++ parts⟩ →
      ∀ requested other, Spells root path requested → Spells root path other →
        (RejectsHidden s root requested world ↔ RejectsHidden s root other world) := by
  have hIff : (∀ requested other, Spells root path requested → Spells root path other →
        (RejectsHidden s root requested world ↔ RejectsHidden s root other world)) ↔
      ((∃ requested, Spells root path requested ∧ s.service.hidden.hides requested) →
        LeadsToHidden s root path world.tree) := by
    constructor
    · rintro hSame ⟨requested, hSpells, hHides⟩
      obtain ⟨other, hOther, hUnlisted⟩ := exists_unlisted hSpells s.service.hidden
      have hRejects := (hSame requested other hSpells hOther).mp
        ((rejectsHidden_iff hSpells).mpr (.inl hHides))
      exact ((rejectsHidden_iff hOther).mp hRejects).resolve_left (by simp [hUnlisted])
    · intro hLeads requested other hSpells hOther
      have hJudged {r : String} (hSpells : Spells root path r) :
          RejectsHidden s root r world ↔ LeadsToHidden s root path world.tree := by
        rw [rejectsHidden_iff hSpells]
        exact or_iff_right_of_imp fun hHides => hLeads ⟨r, hSpells, hHides⟩
      rw [hJudged hSpells, hJudged hOther]
  refine ⟨hIff, fun names parts hHidden hNames hParts hPath => hIff.mpr ?_⟩
  rintro ⟨requested, hSpells, hHides⟩
  exact leadsToHidden_of_normal hNames hHidden hParts hPath hSpells hHides

/-- A file whose name is hidden is hidden under its other spellings too. -/
theorem rejectsHidden_congr_real :
    let s := (Access.plainSetting .atomic).withHidden (.ofList [" real.txt"])
    let root := Path.ofLocation ["conf"]
    RejectsHidden s root "real.txt" (World.initial Access.linkedTree) ∧
      RejectsHidden s root "./real.txt/" (World.initial Access.linkedTree) := by
  intro s root
  have hRejects : RejectsHidden s root "real.txt" (World.initial Access.linkedTree) := by
    unfold RejectsHidden
    decide
  have hParts : canonicalRelative s (Path.ofLocation ["conf", "real.txt"]) root Access.linkedTree =
      .ok (some ["real.txt"]) := by
    decide
  have hSame := (rejectsHidden_congr_iff s root (Path.ofLocation ["conf", "real.txt"])
    (World.initial Access.linkedTree)).2 [" real.txt"] ["real.txt"] rfl (by decide) hParts rfl
  refine ⟨hRejects, (hSame "real.txt" "./real.txt/" ?_ ?_).mp hRejects⟩
  · exact ⟨by decide, by decide, by decide⟩
  · exact ⟨by decide, by decide, by decide⟩

/-- A link with a hidden name is hidden under this name alone. -/
theorem rejectsHidden_link :
    let s := (Access.plainSetting .atomic).withHidden (.ofList ["link.txt"])
    let root := Path.ofLocation ["conf"]
    let path := Path.ofLocation ["conf", "link.txt"]
    Spells root path "link.txt" ∧ Spells root path "./link.txt" ∧
      RejectsHidden s root "link.txt" (World.initial Access.linkedTree) ∧
      ¬ RejectsHidden s root "./link.txt" (World.initial Access.linkedTree) := by
  refine ⟨⟨by decide, by decide, by decide⟩,
    ⟨by decide, by decide, by decide⟩, ?_, ?_⟩
  · unfold RejectsHidden
    decide
  · unfold RejectsHidden
    decide

end Guard

/-! The empty path -/

theorem HiddenNames.hides_empty (names : List String) : (ofList names).hides "" = false := by
  refine Bool.eq_false_iff.mpr fun hHides => ?_
  obtain ⟨name, _, hBlank, hKey⟩ := hides_ofList.mp hHides
  have hText : (withForwardSlashes (Text.strip name)).toList = [] := by
    rw [Text.upper_eq_empty.mp (show Text.upper (withForwardSlashes (Text.strip name)) = "" from hKey)]
    rfl
  rw [withForwardSlashes, String.toList_ofList, List.map_eq_nil_iff] at hText
  exact hBlank (String.toList_inj.mp hText)

/-- The empty path is the root, unless the root is hidden or its place is lost. -/
theorem Guard.verdict_empty {tree : Tree} {base : Location} (hEmpty : s.service.hidden.hides "" = false)
    (hRoot : s.service.hidden.hides "." = false) (hBase : s.canonical root tree = .ok base) :
    verdict s root "" tree = .ok root := by
  have hJoin : root.join (Path.parse "") = root := by
    change (⟨root.anchor, root.parts ++ []⟩ : Path) = root
    rw [List.append_nil]
  have hRelative : canonicalRelative s root root tree = .ok (some []) := by
    rw [canonicalRelative_eq hBase hBase]
    simp [Path.below?]
  unfold verdict
  simp only [show withForwardSlashes "" = "" from rfl, hEmpty, hJoin, hRelative,
    show Path.relativeText [] = "." from rfl, hRoot]
  rfl

/-- Where the empty path is the root, it asks for what no path asks for. -/
theorem Access.attempt_perform_empty (hEmpty : s.service.hidden.hides "" = false)
    (hRoot : ∀ root, (attempt (ConfigRoot.resolve s) world).1 = .ok root →
      s.service.hidden.hides "." = false ∧ ∃ base, s.canonical root world.tree = .ok base)
    (contents : Option String) :
    attempt (perform s ⟨some "", contents⟩) world = attempt (perform s ⟨none, contents⟩) world := by
  have hTarget : attempt (target s ⟨some "", contents⟩) world = attempt (target s ⟨none, contents⟩) world := by
    have hTree := (ConfigRoot.quiet_resolve (s := s) world).tree
    unfold target
    rw [attempt_bind, attempt_bind]
    rcases hFound : attempt (ConfigRoot.resolve s) world with ⟨failure | root, middle⟩
    · rfl
    · rw [hFound] at hTree hRoot
      obtain ⟨hDot, base, hBase⟩ := hRoot root rfl
      rw [← show middle.tree = world.tree from hTree] at hBase
      have hCheck : attempt (Guard.check s root "") middle = (.ok root, middle) := by
        unfold Guard.check
        rw [attempt_bind, attempt_get]
        simp only [Guard.verdict_empty hEmpty hDot hBase]
        rfl
      have hResolve : attempt (Guard.resolve s root (some "")) middle =
          attempt (Guard.resolve s root none) middle := by
        unfold Guard.resolve
        exact attempt_bind_of_ok hCheck _
      dsimp only
      rw [attempt_bind, attempt_bind, hResolve]
  unfold perform
  rw [attempt_bind, attempt_bind, hTarget]

end ConfigGate
