import ConfigGate.Proofs.Tree.Canonical
import ConfigGate.Proofs.Tree.WellFormed
import Mathlib.Data.List.Nodup

/-! The skeleton of a tree: its directories and its links. A walk that follows a link, or that arrives
at one, has come there through directories, so that files neither open such a way nor close it. What a
walk cannot do for want of a file it could not do in the presence of one. The canonical location of a
path is therefore a matter of the skeleton. -/
namespace ConfigGate.Tree

open Path

variable {tree other : Tree} {working here location : Location} {purpose : Purpose}
  {parts : List String} {out : Stretch}

/-- The trees have the same directories, with the same permission bits, and the same links. They may
have different files. -/
structure SameSkeleton (tree other : Tree) : Prop where
  directories : ∀ location, other.directoryModeAt? location = tree.directoryModeAt? location
  links : ∀ location, other.linkAt? location = tree.linkAt? location

/-- A directory or a link stands at the location. -/
def IsFirm (tree : Tree) (location : Location) : Prop :=
  tree.isDirectoryAt location ∨ (tree.linkAt? location).isSome

/-- The stretch ends in the skeleton. -/
def Stretch.IsFirm (tree : Tree) : Stretch → Prop
  | .arrived (.present location) => tree.IsFirm location
  | .link _ _ _ => True
  | _ => False

/-- A way with a component left to go stands in a directory. -/
theorem Strides.isDirectoryAt {part : String} {rest : List String}
    (h : Strides tree purpose here (part :: rest) out) : tree.isDirectoryAt here := by
  cases h with
  | idle hDirectory => exact hDirectory
  | up hSearch => exact isDirectoryAt_of_searchable hSearch
  | enter _ hSearch => exact isDirectoryAt_of_searchable hSearch
  | stop _ hSearch => exact isDirectoryAt_of_searchable hSearch
  | link _ hSearch => exact isDirectoryAt_of_searchable hSearch
  | free _ hSearch => exact isDirectoryAt_of_searchable hSearch

/-- Only the links of a walk can be too many, and a stretch has none. -/
theorem stretch_ne_tooManyLinks :
    stretch tree purpose here parts ≠ .failed .tooManyLinks := by
  intro h
  simpa using (stretch_failed_iff.mp h).reason

/-- A walk with too many links comes to a link that it may not follow, or goes on from there with too
many links. -/
theorem walk_tooManyLinks {budget : Nat}
    (h : walk tree purpose budget here parts = .error .tooManyLinks) :
    ∃ directory target rest, Strides tree purpose here parts (.link directory target rest) ∧
      (budget = 0 ∨ walk tree purpose (budget - 1) (targetStart directory target)
        (targetParts target ++ rest) = .error .tooManyLinks) := by
  rw [walk] at h
  cases hOut : stretch tree purpose here parts with
  | arrived destination =>
      rw [hOut] at h
      cases h
  | failed errno =>
      rw [hOut] at h
      cases h
      exact absurd hOut stretch_ne_tooManyLinks
  | link directory target rest =>
      have hStrides : Strides tree purpose here parts (.link directory target rest) :=
        hOut ▸ strides_stretch (by simp [hOut])
      rw [hOut] at h
      cases budget with
      | zero => exact ⟨directory, target, rest, hStrides, .inl rfl⟩
      | succ budget => exact ⟨directory, target, rest, hStrides, .inr h⟩

theorem linkNamed?_eq_some {p : Path} {target : String} :
    tree.linkNamed? working p = some target ↔
      ∃ location, tree.find working .entry p = .ok (.present location) ∧
        tree.linkAt? location = some target := by
  unfold linkNamed?
  constructor
  · intro h
    split at h
    · rename_i location hFind
      exact ⟨location, hFind, h⟩
    · cases h
  · rintro ⟨location, hFind, hLink⟩
    rw [hFind]
    exact hLink

/-- The links of a well-formed tree are its entries that are links. -/
theorem WellFormed.mem_entries_link_iff (wf : tree.WellFormed) {target : String} :
    (location, Entry.link target) ∈ tree.entries ↔ tree.linkAt? location = some target := by
  refine ⟨fun hMem => ?_, mem_entries_of_linkAt?⟩
  have hRoot : location ≠ [] := by
    rintro rfl
    exact wf.rooted (List.mem_map_of_mem hMem)
  rw [linkAt?, entry?_of_ne tree hRoot, Keyed.lookup_of_mem wf.nodup hMem]

namespace SameSkeleton

theorem refl (tree : Tree) : tree.SameSkeleton tree := ⟨fun _ => rfl, fun _ => rfl⟩

theorem symm (h : tree.SameSkeleton other) : other.SameSkeleton tree :=
  ⟨fun location => (h.directories location).symm, fun location => (h.links location).symm⟩

theorem isDirectoryAt (h : tree.SameSkeleton other) (location : Location) :
    other.isDirectoryAt location = tree.isDirectoryAt location := by
  rw [Tree.isDirectoryAt, Tree.isDirectoryAt, h.directories]

theorem isSearchable (h : tree.SameSkeleton other) (location : Location) :
    other.isSearchable location = tree.isSearchable location := by
  rw [Tree.isSearchable, Tree.isSearchable, h.directories]

/-- A file is no part of the skeleton. -/
theorem take {number : Nat} (hFile : tree.fileAt? location = some number) :
    tree.SameSkeleton (tree.take location) := by
  have hRoot : location ≠ [] := ne_nil_of_file hFile
  have hEntry := entry?_of_fileAt? hFile
  have hGone : Tree.entry? (tree.take location) location = none := by
    rw [← timeless?_eq_none, timeless?_take tree hRoot, if_pos rfl]
  have hKept {place : Location} (hNe : place ≠ location) :
      (tree.take location).timeless? place = tree.timeless? place := by
    rw [timeless?_take tree hRoot, if_neg hNe]
  constructor
  · intro place
    by_cases hPlace : place = location
    · rw [hPlace, directoryModeAt?, directoryModeAt?, hGone, hEntry]
    · exact directoryModeAt?_congr _ (hKept hPlace)
  · intro place
    by_cases hPlace : place = location
    · rw [hPlace, linkAt?, linkAt?, hGone, hEntry]
    · exact linkAt?_congr _ (hKept hPlace)

/-- A way that ends in the skeleton is one in the other tree too. -/
theorem strides (h : tree.SameSkeleton other) (hStrides : Strides tree purpose here parts out)
    (hFirm : out.IsFirm tree) : Strides other purpose here parts out := by
  induction hStrides with
  | done here => exact .done here
  | idle hDirectory hPart hSearch _ ih =>
      refine .idle (by rwa [h.isDirectoryAt]) hPart (fun hDot => ?_) (ih hFirm)
      rw [h.isSearchable]
      exact hSearch hDot
  | up hSearch _ ih => exact .up (by rwa [h.isSearchable]) (ih hFirm)
  | @enter here part rest out hPart hSearch hLength hFile hSome hLink hRest ih =>
      -- What is passed is a directory: there is more to go, or it is where the way ends.
      have hDirectory : tree.isDirectoryAt (here ++ [part]) := by
        cases rest with
        | nil =>
            cases hRest with
            | done =>
                rcases hFirm with hDirectory | hSome
                · exact hDirectory
                · rw [hLink] at hSome
                  cases hSome
        | cons next rest => exact hRest.isDirectoryAt
      have hThere : (other.entry? (here ++ [part])).isSome := by
        rw [← h.isDirectoryAt] at hDirectory
        rw [Option.isSome_iff_ne_none, ne_eq, ← timeless?_eq_none]
        exact Option.isSome_iff_ne_none.mp (timeless?_isSome_of_directory hDirectory)
      exact .enter hPart (by rwa [h.isSearchable]) hLength hFile hThere (by rwa [h.links])
        (ih hFirm)
  | stop hPart hSearch hLength hLink hEntry =>
      exact .stop hPart (by rwa [h.isSearchable]) hLength (by rwa [h.links]) hEntry
  | link hPart hSearch hLength hFile hLink hFollow =>
      exact .link hPart (by rwa [h.isSearchable]) hLength hFile (by rwa [h.links]) hFollow
  | free => cases hFirm

theorem walks (h : tree.SameSkeleton other) {budget : Nat}
    (hWalk : Walks tree purpose (.present location) budget here parts) (hFirm : tree.IsFirm location) :
    Walks other purpose (.present location) budget here parts := by
  induction hWalk with
  | arrived hStrides => exact .arrived (h.strides hStrides hFirm)
  | follow hStrides _ ih => exact .follow (h.strides hStrides trivial) ih

theorem walk_tooManyLinks (h : tree.SameSkeleton other) {budget : Nat}
    (hWalk : walk tree purpose budget here parts = .error .tooManyLinks) :
    walk other purpose budget here parts = .error .tooManyLinks := by
  induction budget generalizing here parts with
  | zero =>
      obtain ⟨directory, target, rest, hStrides, _⟩ := Tree.walk_tooManyLinks hWalk
      rw [walk, (h.strides hStrides trivial).stretch_eq]
  | succ budget ih =>
      obtain ⟨directory, target, rest, hStrides, hEnd | hRest⟩ := Tree.walk_tooManyLinks hWalk
      · cases hEnd
      · rw [walk, (h.strides hStrides trivial).stretch_eq]
        exact ih hRest

theorem find_present (h : tree.SameSkeleton other) {p : Path}
    (hFind : tree.find working purpose p = .ok (.present location))
    (hFirm : tree.IsFirm location) : other.find working purpose p = .ok (.present location) := by
  obtain ⟨hShort, hWalk⟩ := find_ok.mp hFind
  exact find_ok.mpr ⟨hShort, h.walks hWalk hFirm⟩

theorem find_tooManyLinks (h : tree.SameSkeleton other) {p : Path}
    (hFind : tree.find working purpose p = .error .tooManyLinks) :
    other.find working purpose p = .error .tooManyLinks := by
  unfold find at hFind ⊢
  split at hFind
  · cases hFind
  · rename_i hShort
    rw [if_neg hShort]
    exact h.walk_tooManyLinks hFind

/-- The same names are those of links. -/
theorem linkNamed? (h : tree.SameSkeleton other) (p : Path) :
    other.linkNamed? working p = tree.linkNamed? working p := by
  have keep {first second : Tree} (h : first.SameSkeleton second) {target : String}
      (hLink : first.linkNamed? working p = some target) :
      second.linkNamed? working p = some target := by
    obtain ⟨location, hFind, hAt⟩ := linkNamed?_eq_some.mp hLink
    have hFirm : first.IsFirm location := .inr (by rw [hAt]; rfl)
    exact linkNamed?_eq_some.mpr ⟨location, h.find_present hFind hFirm, (h.links _).trans hAt⟩
  exact Option.ext fun target => ⟨keep h.symm, keep h⟩

/-- The trees have equally many links. -/
theorem linkCount (h : tree.SameSkeleton other) (wf : tree.WellFormed) (wf' : other.WellFormed) :
    other.linkCount = tree.linkCount := by
  have nodup {t : Tree} (wf : t.WellFormed) (p : Location × Entry → Bool) :
      (t.entries.filter p).Nodup :=
    (List.Nodup.of_map _ wf.nodup).sublist List.filter_sublist
  unfold Tree.linkCount
  rw [List.countP_eq_length_filter, List.countP_eq_length_filter]
  refine ((List.perm_ext_iff_of_nodup (nodup wf' _) (nodup wf _)).mpr ?_).length_eq
  rintro ⟨location, entry⟩
  rw [List.mem_filter, List.mem_filter]
  cases entry with
  | directory mode modified => simp
  | file number => simp
  | link target => simp only [wf.mem_entries_link_iff, wf'.mem_entries_link_iff, h.links]

/-- How far links are nested is a matter of directories and links alone. -/
theorem nesting (h : tree.SameSkeleton other) (wf : tree.WellFormed) (wf' : other.WellFormed)
    (p : Path) : other.nesting working p = tree.nesting working p :=
  nesting_of_linkNamed? h.linkNamed? (h.linkCount wf wf') p

/-- The canonical location of a path is a matter of directories and links alone. -/
theorem canonical (h : tree.SameSkeleton other) (wf : tree.WellFormed) (wf' : other.WellFormed)
    (p : Path) : other.canonical working p = tree.canonical working p :=
  canonical_of_linkNamed? h.linkNamed? (h.linkCount wf wf')
    (fun _ => ⟨h.symm.find_tooManyLinks, h.find_tooManyLinks⟩) p

end SameSkeleton

end ConfigGate.Tree
