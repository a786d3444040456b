import ConfigGate.Proofs.Access.Disclosure
import ConfigGate.Proofs.Access.Discretion
import ConfigGate.Proofs.Access.Spelling

/-! Requests with a leading slash. Such a request is not looked up below the root but replaces it, so
that nothing but the containment of canonical locations keeps it from the rest of the tree. This keeps
out what lies elsewhere, and lets in every absolute path that leads back to a place below the root. -/
namespace ConfigGate

open Act

variable {s : Setting} {root candidate : Path} {requested : String} {tree : Tree} {world : World}

namespace Path

/-- A text that starts with a slash is absolute. -/
theorem anchor_parse_ne_relative {text : String} (h : text.toList.head? = some '/') :
    (parse text).anchor ≠ .relative := by
  obtain ⟨rest, hText⟩ := List.head?_eq_some_iff.mp h
  unfold parse anchorOf
  rw [hText, List.takeWhile_cons_of_pos (by rfl), List.length_cons]
  split <;> simp_all

/-- An absolute path takes the place of what it is joined to. -/
theorem join_of_ne_relative {base name : Path} (h : name.anchor ≠ .relative) : base.join name = name := by
  unfold join
  split
  · rename_i hRelative
    exact absurd hRelative h
  · rfl

/-- A path has no NUL in it that its text has not. -/
theorem hasNul_parse {text : String} (h : Guard.hasNul text = false) : (parse text).hasNul = false := by
  rw [Path.hasNul, List.any_eq_false]
  intro part hPart hNul
  obtain ⟨piece, hPiece, rfl⟩ := List.mem_map.mp (List.mem_filter.mp hPart).1
  rw [String.toList_ofList, List.contains_iff_mem] at hNul
  have hText := (Text.mem_of_mem_splitOn hPiece hNul).1
  rw [Guard.hasNul, List.contains_eq_mem, decide_eq_false_iff_not] at h
  exact h hText

end Path

namespace Guard

/-- The request starts with a slash, in one direction or the other. -/
def HasLeadingSlash (requested : String) : Prop :=
  ∃ c, requested.toList.head? = some c ∧ (c = '/' ∨ c = '\\')

/-- Nothing in the text of the request is forbidden in itself. -/
structure IsUnmarked (hidden : HiddenNames) (requested : String) : Prop where
  unlisted : hidden.hides requested = false
  untraversed : hasTraversal requested.toList = false
  untorn : hasNul requested = false

/-- A request with a leading slash is not joined to the root. -/
theorem join_of_hasLeadingSlash (h : HasLeadingSlash requested) (root : Path) :
    root.join (Path.parse (withForwardSlashes requested)) =
      Path.parse (withForwardSlashes requested) := by
  obtain ⟨c, hHead, hSlash⟩ := h
  refine Path.join_of_ne_relative (Path.anchor_parse_ne_relative ?_)
  rw [withForwardSlashes, String.toList_ofList, List.head?_map, hHead]
  rcases hSlash with rfl | rfl <;> rfl

/-- What is admitted has an unmarked text and leads to a public place. -/
theorem verdict_ok_iff_isPublic :
    verdict s root requested tree = .ok candidate ↔
      candidate = root.join (Path.parse (withForwardSlashes requested)) ∧
        IsUnmarked s.service.hidden requested ∧ Access.IsPublic s root candidate tree := by
  rw [verdict_ok_iff, hasTraversal_withForwardSlashes, hasNul_withForwardSlashes,
    HiddenNames.hides_congr (nameKey_withForwardSlashes requested)]
  constructor
  · rintro ⟨hCandidate, hUnlisted, hUntraversed, hUntorn, parts, hParts, hVisible⟩
    obtain ⟨location, base, hLocation, hBase, hBelow, rfl⟩ := canonicalRelative_some.mp hParts
    exact ⟨hCandidate, ⟨hUnlisted, hUntraversed, hUntorn⟩, base, location, hBase, hLocation, hBelow,
      hVisible⟩
  · rintro ⟨hCandidate, hUnmarked, base, location, hBase, hLocation, hBelow, hVisible⟩
    exact ⟨hCandidate, hUnmarked.unlisted, hUnmarked.untraversed, hUnmarked.untorn,
      location.drop base.length,
      canonicalRelative_some.mpr ⟨location, base, hLocation, hBase, hBelow, rfl⟩, hVisible⟩

/-- Where a path leads stays open if its canonical location is lost, or that of the root. -/
theorem canonicalRelative_error_iff (hNul : candidate.hasNul = false) :
    (∃ failure, canonicalRelative s candidate root tree = .error failure) ↔
      s.IsLost candidate tree ∨ s.IsLost root tree := by
  unfold canonicalRelative
  rcases Setting.canonical_cases s candidate tree with
    ⟨location, hCandidate, hKnown⟩ | ⟨_, hCandidate, hLoss, hLost⟩ | ⟨hTorn, _⟩
  · rw [hCandidate]
    rcases Setting.canonical_cases s root tree with
      ⟨base, hRoot, hRootKnown⟩ | ⟨_, hRoot, hLoss, hRootLost⟩ | ⟨_, hRoot, hRootKnown⟩
    · simp [hRoot, hKnown, hRootKnown]
    · cases hLoss <;> simp [hRoot, hRootLost]
    · simp [hRoot, hKnown, hRootKnown]
  · cases hLoss <;> simp [hCandidate, hLost]
  · simp [hNul] at hTorn

/-- Only the place of a request whose text is unmarked is lost. -/
theorem verdict_lost_iff :
    (∃ failure, verdict s root requested tree = .error failure ∧ Setting.TellsLoss failure) ↔
      IsUnmarked s.service.hidden requested ∧ ∃ failure,
        canonicalRelative s (root.join (Path.parse (withForwardSlashes requested))) root tree =
          .error failure := by
  constructor
  · rintro ⟨failure, hVerdict, hLoss⟩
    unfold verdict at hVerdict
    dsimp only at hVerdict
    rw [hasTraversal_withForwardSlashes, hasNul_withForwardSlashes,
      HiddenNames.hides_congr (nameKey_withForwardSlashes requested)] at hVerdict
    split at hVerdict
    · cases hVerdict
      cases hLoss
    rename_i hUnlisted
    split at hVerdict
    · cases hVerdict
      cases hLoss
    rename_i hUntraversed
    split at hVerdict
    · cases hVerdict
      cases hLoss
    rename_i hUntorn
    rw [Bool.not_eq_true] at hUnlisted hUntraversed hUntorn
    refine ⟨⟨hUnlisted, hUntraversed, hUntorn⟩, ?_⟩
    split at hVerdict
    · rename_i other hRelative
      exact ⟨other, hRelative⟩
    · cases hVerdict
      cases hLoss
    · split at hVerdict <;> cases hVerdict
      cases hLoss
  · rintro ⟨hUnmarked, failure, hRelative⟩
    refine ⟨failure, ?_, canonicalRelative_error hRelative⟩
    simp [verdict, hasTraversal_withForwardSlashes, hasNul_withForwardSlashes,
      HiddenNames.hides_congr (nameKey_withForwardSlashes requested), hUnmarked.unlisted,
      hUnmarked.untraversed, hUnmarked.untorn, hRelative]

/-- A request with a leading slash is forbidden, unless nothing in its text is and its absolute path leads to
a public place, or its place or that of the root is lost among links. What is admitted is the absolute path
itself. -/
theorem forbidden_iff_of_hasLeadingSlash (hSlash : HasLeadingSlash requested) (root : Path) :
    ((∃ failure, (attempt (check s root requested) world).1 = .error failure ∧
        failure.family = "ForbiddenError") ↔
      ¬ (IsUnmarked s.service.hidden requested ∧
        (Access.IsPublic s root (Path.parse (withForwardSlashes requested)) world.tree ∨
          s.IsLost (Path.parse (withForwardSlashes requested)) world.tree ∨ s.IsLost root world.tree))) ∧
    ∀ candidate, (attempt (check s root requested) world).1 = .ok candidate ↔
      candidate = Path.parse (withForwardSlashes requested) ∧
        IsUnmarked s.service.hidden requested ∧ Access.IsPublic s root candidate world.tree := by
  have hJoin := join_of_hasLeadingSlash hSlash root
  rw [(attempt_check root requested world).1]
  have hOk (candidate : Path) : verdict s root requested world.tree = .ok candidate ↔
      candidate = Path.parse (withForwardSlashes requested) ∧
        IsUnmarked s.service.hidden requested ∧ Access.IsPublic s root candidate world.tree := by
    rw [verdict_ok_iff_isPublic, hJoin]
  have hLost : (∃ failure, verdict s root requested world.tree = .error failure ∧ Setting.TellsLoss failure) ↔
      IsUnmarked s.service.hidden requested ∧
        (s.IsLost (Path.parse (withForwardSlashes requested)) world.tree ∨ s.IsLost root world.tree) := by
    rw [verdict_lost_iff, hJoin]
    refine and_congr_right fun hUnmarked => canonicalRelative_error_iff (Path.hasNul_parse ?_)
    rw [hasNul_withForwardSlashes]
    exact hUnmarked.untorn
  refine ⟨?_, hOk⟩
  constructor
  · rintro ⟨failure, hFailure, hFamily⟩ ⟨hUnmarked, hPublic | hLostPlace⟩
    · cases hFailure.symm.trans ((hOk _).mpr ⟨rfl, hUnmarked, hPublic⟩)
    · obtain ⟨other, hOther, hLoss⟩ := hLost.mpr ⟨hUnmarked, hLostPlace⟩
      cases hFailure.symm.trans hOther
      exact hLoss.family_ne hFamily
  · intro hNone
    cases hVerdict : verdict s root requested world.tree with
    | ok candidate =>
        obtain ⟨rfl, hUnmarked, hPublic⟩ := (hOk candidate).mp hVerdict
        exact absurd ⟨hUnmarked, .inl hPublic⟩ hNone
    | error failure =>
        rcases verdict_error hVerdict with hLoss | ⟨reason, rfl, _⟩
        · obtain ⟨hUnmarked, hLostPlace⟩ := hLost.mp ⟨failure, hVerdict, hLoss⟩
          exact absurd ⟨hUnmarked, .inr hLostPlace⟩ hNone
        · exact ⟨_, rfl, rfl⟩

/-- A path beside the root is forbidden, though the text of the root stands at its beginning. -/
theorem forbidden_beside_root :
    let s := Access.plainSetting .atomic
    let world := World.initial Access.linkedTree
    HasLeadingSlash "\\conf.txt" ∧
      ∃ failure, (attempt (check s (Path.ofLocation ["conf"]) "\\conf.txt") world).1 = .error failure ∧
        failure.family = "ForbiddenError" := by
  intro s world
  have hSlash : HasLeadingSlash "\\conf.txt" := ⟨'\\', rfl, .inr rfl⟩
  have hLocation : s.canonical (Path.parse (withForwardSlashes "\\conf.txt")) world.tree = .ok ["conf.txt"] := by
    decide
  have hRoot : s.canonical (Path.ofLocation ["conf"]) world.tree = .ok ["conf"] := by decide
  refine ⟨hSlash, (forbidden_iff_of_hasLeadingSlash hSlash (Path.ofLocation ["conf"])).1.mpr ?_⟩
  rintro ⟨_, ⟨base, location, hBase, hPlace, hBelow, _⟩ | hLost | hLost⟩
  · cases hBase.symm.trans hRoot
    cases hPlace.symm.trans hLocation
    exact absurd hBelow (by decide)
  · exact Setting.not_isLost_of_canonical hLocation hLost
  · exact Setting.not_isLost_of_canonical hRoot hLost

/-- A leading slash alone is not forbidden: the absolute path of a file below the root is admitted. -/
theorem admitted_below_root :
    let s := Access.plainSetting .atomic
    let world := World.initial Access.linkedTree
    HasLeadingSlash "/conf/real.txt" ∧
      s.canonical (Path.parse "/conf/real.txt") world.tree = .ok ["conf", "real.txt"] ∧
      (attempt (check s (Path.ofLocation ["conf"]) "/conf/real.txt") world).1 =
        .ok (Path.ofLocation ["conf", "real.txt"]) := by
  exact ⟨⟨'/', rfl, .inl rfl⟩, by decide, by decide⟩

end Guard

end ConfigGate
