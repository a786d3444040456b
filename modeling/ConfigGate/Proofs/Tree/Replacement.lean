import ConfigGate.Proofs.Tree.Change
import ConfigGate.Proofs.Tree.Purpose

/-! Where a path leads after the entry that it names has been replaced by a file. The way up to the entry is
the old one, and it ends there even if a link stood there before. -/
namespace ConfigGate.Tree

variable {tree before after : Tree} {working here there place : Location} {p : Path} {first second parts : List String}

/-! Behind a file -/

/-- What a walk does that meets a file is to fail, if it is to go on. -/
theorem Walks.behind_file {budget : Nat} (h : Walks tree .target (.present there) budget here first)
    (hThere : tree.isDirectoryAt there = false) (hSecond : second ≠ []) (budget' : Nat) (destination : Destination) :
    walk tree .entry budget' here (first ++ second) ≠ .ok destination := by
  induction h generalizing budget' with
  | arrived hStrides =>
      have hStop : stretch tree .entry there second = .failed .notDirectory := by
        obtain ⟨part, rest, rfl⟩ := List.exists_cons_of_ne_nil hSecond
        exact stretch_of_not_directory hThere
      rw [walk, stretch_append hSecond, hStrides.stretch_eq, Stretch.onward, hStop]
      simp
  | follow hStrides _ ih =>
      rw [walk, stretch_append hSecond, hStrides.stretch_eq, Stretch.onward]
      cases budget' with
      | zero => simp
      | succ budget' =>
          dsimp only
          rw [← List.append_assoc]
          exact ih budget'

/-! Another entry -/

/-- A file stands at the place, where there was no directory. Everything else looks as it did to a walk. -/
structure Replaces (before after : Tree) (place : Location) : Prop where
  shape : ∀ location, location ≠ place → after.shape? location = before.shape? location
  file : after.shape? place = some .file
  noDirectory : before.isDirectoryAt place = false

namespace Replaces

theorem directoryModeAt? (h : before.Replaces after place) {location : Location} {mode : Nat}
    (hMode : before.directoryModeAt? location = some mode) : after.directoryModeAt? location = some mode := by
  have hNe : location ≠ place := by
    rintro rfl
    have hOver := h.noDirectory
    simp [Tree.isDirectoryAt, hMode] at hOver
  rw [← shape?_eq_directory, h.shape location hNe]
  exact shape?_eq_directory.mpr hMode

theorem isDirectoryAt (h : before.Replaces after place) {location : Location}
    (hDirectory : before.isDirectoryAt location) : after.isDirectoryAt location := by
  obtain ⟨mode, hMode⟩ := Option.isSome_iff_exists.mp hDirectory
  simp [Tree.isDirectoryAt, h.directoryModeAt? hMode]

theorem isSearchable (h : before.Replaces after place) {location : Location}
    (hSearch : before.isSearchable location) : after.isSearchable location := by
  obtain ⟨mode, hMode, hMay⟩ := (Option.any_eq_true _ _).mp hSearch
  simp [Tree.isSearchable, h.directoryModeAt? hMode, hMay]

theorem entry?_place (h : before.Replaces after place) : (after.entry? place).isSome := by
  rw [← shape?_isSome, h.file]
  rfl

theorem linkAt?_place (h : before.Replaces after place) : after.linkAt? place = none := by
  rw [Option.eq_none_iff_forall_ne_some]
  intro target hLink
  rw [← shape?_eq_link, h.file] at hLink
  cases hLink

theorem linkAt? (h : before.Replaces after place) {location : Location} (hNe : location ≠ place) :
    after.linkAt? location = before.linkAt? location := by
  ext target
  rw [← shape?_eq_link, ← shape?_eq_link, h.shape location hNe]

end Replaces

/-- The way up to the entry is the same, if the link that stood there is not passed on it. -/
theorem Strides.replace (hReplaces : before.Replaces after place) {out : Stretch}
    (h : Strides before .entry here parts out)
    (hEnd : ∀ destination, out = .arrived destination → destination = .present place)
    (hLink : ∀ directory target rest, out = .link directory target rest → directory = place.dropLast →
      before.linkAt? place ≠ some target) :
    Strides after .target here parts out := by
  induction h with
  | done here => exact .done here
  | idle hDirectory hPart hSearch _ ih =>
      exact .idle (hReplaces.isDirectoryAt hDirectory) hPart (fun hDot => hReplaces.isSearchable (hSearch hDot))
        (ih hEnd hLink)
  | up hSearch _ ih => exact .up (hReplaces.isSearchable hSearch) (ih hEnd hLink)
  | @enter here part rest out hPart hSearch hLength _ hSome hNone _ ih =>
      refine .enter hPart (hReplaces.isSearchable hSearch) hLength (by simp) ?_ ?_ (ih hEnd hLink)
      · by_cases hPlace : here ++ [part] = place
        · exact hPlace ▸ hReplaces.entry?_place
        · rwa [← shape?_isSome, hReplaces.shape _ hPlace, shape?_isSome]
      · by_cases hPlace : here ++ [part] = place
        · exact hPlace ▸ hReplaces.linkAt?_place
        · rwa [hReplaces.linkAt? hPlace]
  | @stop here part target hPart hSearch hLength _ _ =>
      have hPlace : here ++ [part] = place := Destination.present.inj (hEnd _ rfl)
      refine .enter hPart (hReplaces.isSearchable hSearch) hLength (by simp) ?_ ?_ (.done _)
      · exact hPlace ▸ hReplaces.entry?_place
      · exact hPlace ▸ hReplaces.linkAt?_place
  | @link here part target rest hPart hSearch hLength _ hTarget _ =>
      have hPlace : here ++ [part] ≠ place := by
        rintro rfl
        exact hLink here target rest rfl List.dropLast_concat.symm hTarget
      refine .link hPart (hReplaces.isSearchable hSearch) hLength (by simp) ?_ (by simp)
      rwa [hReplaces.linkAt? hPlace]
  | free => cases hEnd _ rfl

/-- A walk to a file arrives at the file that has replaced the entry. A link that stood there led to no
directory, so that the way to the entry could not pass it. -/
theorem Walks.replace (hReplaces : before.Replaces after place) (hEnters : before.Enters there place) {number : Nat}
    (hFile : before.fileAt? there = some number) {budget : Nat}
    (h : Walks before .entry (.present place) budget here parts) :
    Walks after .target (.present place) budget here parts := by
  induction h with
  | arrived hStrides =>
      exact .arrived (hStrides.replace hReplaces (fun _ hSame => (Stretch.arrived.inj hSame).symm) (by simp))
  | @follow budget _ _ _ _ _ hStrides hRest ih =>
      refine .follow (hStrides.replace hReplaces (by simp) ?_) ih
      rintro directory' target' rest' hSame rfl hLink
      cases hSame
      cases hEnters with
      | itself =>
          rw [linkAt?_eq_none_of_entry (entry?_of_fileAt? hFile) (by simp)] at hLink
          cases hLink
      | link hLink' hOn =>
          rw [hLink', Option.some.injEq] at hLink
          rw [List.dropLast_concat, ← hLink] at hRest
          exact (walk_ok.mp hOn).behind_file (not_isDirectoryAt_of_file hFile) hStrides.rest_of_entry.1 budget _
            (walk_ok.mpr hRest)

/-- A path that led to a file leads to the file that has replaced its entry. -/
theorem find_replace (hReplaces : before.Replaces after place) {number : Nat}
    (hTarget : before.find working .target p = .ok (.present there)) (hFile : before.fileAt? there = some number)
    (hEntry : before.find working .entry p = .ok (.present place)) :
    after.find working .target p = .ok (.present place) := by
  obtain ⟨entry, hFound, hEnters⟩ := find_enters hTarget
  obtain rfl := Destination.present.inj (Except.ok.inj (hFound.symm.trans hEntry))
  obtain ⟨hShort, hWalk⟩ := find_ok.mp hEntry
  exact find_ok.mpr ⟨hShort, hWalk.replace hReplaces hEnters hFile⟩

theorem Gains.replaces {data : FileData} (h : before.Gains after place data)
    (hOver : before.isDirectoryAt place = false) : before.Replaces after place where
  shape location hNe := shape?_congr (by rw [h.timeless, if_neg hNe])
  file := by simp [shape?_eq_file, h.fileAt?_place]
  noDirectory := hOver

end ConfigGate.Tree
