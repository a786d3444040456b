import ConfigGate.Path
import ConfigGate.Proofs.HiddenNames
import ConfigGate.Proofs.Text.Capitals
import ConfigGate.Proofs.Text.Pieces

/-! Names in normal form. The normal form of a path is what its components spell, without the pieces of
the text that lead nowhere. Capitals make no slashes and no dots, so a path has the normal form of its
key, and a list of names in normal form hides the normal form of all that it hides. -/
namespace ConfigGate

namespace Path

open Text

/-- Capitals are made piece by piece. -/
theorem pieces_upper (text : String) : pieces (upper text) = (pieces text).map upper := by
  have hChars (chars : List Char) : (chars.flatMap capitals).splitOn '/' =
      (chars.splitOn '/').map (·.flatMap capitals) := by
    induction chars with
    | nil => rfl
    | cons c rest ih =>
        rw [List.flatMap_cons, List.splitOn_cons_eq_if_modifyHead]
        by_cases hSlash : c = '/'
        · subst hSlash
          rw [show capitals '/' = ['/'] from rfl, List.singleton_append,
            List.splitOn_cons_eq_if_modifyHead, if_pos (by decide), if_pos (by decide), ih]
          rfl
        · rw [if_neg (by simpa using hSlash),
            splitOn_append_of_notMem (slash_notMem_capitals hSlash), ih]
          cases rest.splitOn '/' <;> rfl
  unfold pieces upper
  rw [String.toList_ofList, hChars, List.map_map, List.map_map]
  congr 1
  funext piece
  simp

theorem anchorOf_upper (text : String) : anchorOf (upper text) = anchorOf text := by
  have hTake (chars : List Char) : ((chars.flatMap capitals).takeWhile (· == '/')).length =
      (chars.takeWhile (· == '/')).length := by
    induction chars with
    | nil => rfl
    | cons c rest ih =>
        rw [List.flatMap_cons]
        by_cases hSlash : c = '/'
        · subst hSlash
          rw [show capitals '/' = ['/'] from rfl, List.singleton_append]
          simp [ih]
        · have hNone := slash_notMem_capitals hSlash
          obtain ⟨d, more, hFirst⟩ := List.exists_cons_of_ne_nil (capitals_ne_nil c)
          have hOther : d ≠ '/' := by
            rintro rfl
            exact hNone (by simp [hFirst])
          simp [hFirst, hOther, hSlash]
  unfold anchorOf upper
  rw [String.toList_ofList, hTake]

/-- The components of a text in capitals are its components in capitals. -/
theorem parse_upper (text : String) :
    parse (upper text) = ⟨(parse text).anchor, (parse text).parts.map upper⟩ := by
  have hIdle (part : String) : isIdle (upper part) = isIdle part := by
    rw [Bool.eq_iff_iff]
    simp [isIdle, upper_eq_dot, upper_eq_empty]
  unfold parse
  rw [anchorOf_upper, pieces_upper, List.filter_map]
  congr 3
  funext part
  simp [hIdle]

/-- What is done to texts character by character, and leaves the signs alone, may be done to the
components. -/
private theorem relativeText_map {f : String → String} (hAppend : ∀ front back, f (front ++ back) = f front ++ f back)
    (hEmpty : f "" = "") (hSlash : f "/" = "/") (hDot : f "." = ".") (parts : List String) :
    relativeText (parts.map f) = f (relativeText parts) := by
  have hJoin (parts : List String) :
      String.intercalate "/" (parts.map f) = f (String.intercalate "/" parts) := by
    induction parts with
    | nil => exact hEmpty.symm
    | cons first rest ih =>
        cases rest with
        | nil => simp
        | cons second rest =>
            have hNe : (second :: rest).map f ≠ [] := by simp
            rw [List.map_cons, String.intercalate_cons_of_ne_nil hNe, ih,
              String.intercalate_cons_of_ne_nil (List.cons_ne_nil second rest), hAppend, hAppend, hSlash]
  cases parts with
  | nil => exact hDot.symm
  | cons first rest => simpa [relativeText, text, Anchor.text] using hJoin (first :: rest)

theorem relativeText_upper (parts : List String) :
    relativeText (parts.map upper) = upper (relativeText parts) :=
  relativeText_map (fun front back => by simp [upper, String.ofList_append]) rfl (by decide)
    (by decide) parts

/-- The components of a text with slashes in one direction have none in the other. -/
theorem withForwardSlashes_relativeText (path : String) :
    withForwardSlashes (relativeText (parse (withForwardSlashes path)).parts) =
      relativeText (parse (withForwardSlashes path)).parts := by
  have hParts : (parse (withForwardSlashes path)).parts.map withForwardSlashes =
      (parse (withForwardSlashes path)).parts := by
    refine (List.map_congr_left fun part hPart => ?_).trans (List.map_id _)
    obtain ⟨piece, hPiece, rfl⟩ := List.mem_map.mp (List.mem_filter.mp hPart).1
    have hSame : piece.map forwardSlash = piece := by
      refine (List.map_congr_left fun c hChar => ?_).trans (List.map_id _)
      have hText := (mem_of_mem_splitOn hPiece hChar).1
      rw [withForwardSlashes, String.toList_ofList] at hText
      obtain ⟨d, _, rfl⟩ := List.mem_map.mp hText
      exact forwardSlash_forwardSlash d
    rw [withForwardSlashes, String.toList_ofList, hSame, id]
  rw [← relativeText_map (f := withForwardSlashes) withForwardSlashes_append rfl (by decide)
    (by decide), hParts]

end Path

/-- The name is what its components spell. -/
def IsNormalName (name : String) : Prop :=
  (Path.parse (withForwardSlashes name)).anchor = .relative ∧
    Path.relativeText (Path.parse (withForwardSlashes name)).parts = withForwardSlashes name

instance (name : String) : Decidable (IsNormalName name) := inferInstanceAs (Decidable (_ ∧ _))

/-- A list of names in normal form hides the normal form of all that it hides. -/
theorem HiddenNames.hides_normal {names : List String} {path : String}
    (hNames : ∀ name ∈ names, Text.strip name ≠ "" → IsNormalName (Text.strip name))
    (h : (ofList names).hides path) :
    (Path.parse (withForwardSlashes path)).anchor = .relative ∧
      (ofList names).hides (Path.relativeText (Path.parse (withForwardSlashes path)).parts) := by
  obtain ⟨name, hMem, hBlank, hKey⟩ := hides_ofList.mp h
  obtain ⟨hAnchor, hText⟩ := hNames name hMem hBlank
  have hParse : Path.parse (Text.upper (withForwardSlashes path)) =
      Path.parse (Text.upper (withForwardSlashes (Text.strip name))) := by
    rw [← nameKey, ← nameKey, hKey]
  rw [Path.parse_upper, Path.parse_upper, Path.mk.injEq] at hParse
  refine ⟨hParse.1.trans hAnchor, hides_ofList.mpr ⟨name, hMem, hBlank, ?_⟩⟩
  rw [nameKey, nameKey, Path.withForwardSlashes_relativeText, ← Path.relativeText_upper, hParse.2,
    Path.relativeText_upper, hText]

end ConfigGate
