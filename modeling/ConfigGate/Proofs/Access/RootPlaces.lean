import ConfigGate.Proofs.Access.Guard

/-! Where the root is looked for. A tilde in front of the configured path stands for a home directory. A dotted
name stands for a package if it is installed and so is whatever stands before one of its dots. A package that is
spread over several directories has a resource in the first of them that has an entry of its name. -/
namespace ConfigGate.ConfigRoot

variable {s : Setting} {tree : Tree} {site : Site} {name : String} {package : Package} {p q base : Path}
  {paths : List Path}

/-! Home directories -/

/-- The home directory of a user. Without a name it is the one of the user who runs the service. -/
inductive LivesIn (site : Site) : String → String → Prop where
  | own : LivesIn site "" site.home
  | other {user home : String} (named : user ≠ "") (untorn : '\x00' ∉ user.toList)
      (known : site.homes.lookup user = some home) : LivesIn site user home

/-- The path that a configured path stands for. -/
inductive StandsFor (site : Site) : Path → Path → Prop where
  | itself {p : Path} (plain : ∀ user rest, p ≠ ⟨.relative, ("~" ++ user) :: rest⟩) : StandsFor site p p
  | home {user home : String} {rest : List String} (lives : LivesIn site user home) :
      StandsFor site ⟨.relative, ("~" ++ user) :: rest⟩ ((Path.parse home).join ⟨.relative, rest⟩)

/-- The text starts with a tilde. -/
theorem eq_tilde_append {first : String} {user : List Char} (h : first.toList = '~' :: user) :
    first = "~" ++ String.ofList user := by
  rw [← String.toList_inj, h]
  simp

theorem expandHome_of_plain (h : ∀ user rest, p ≠ ⟨.relative, ("~" ++ user) :: rest⟩) :
    expandHome site p = .ok p := by
  unfold expandHome
  split
  · rename_i first rest hAnchor hParts
    split
    · rename_i user hFirst
      refine absurd ?_ (h (String.ofList user) rest)
      rw [← eq_tilde_append hFirst, ← hAnchor, ← hParts]
    · rfl
  · rfl

theorem expandHome_of_tilde {user : String} {rest : List String} :
    expandHome site ⟨.relative, ("~" ++ user) :: rest⟩ = .ok q ↔
      ∃ home, LivesIn site user home ∧ (Path.parse home).join ⟨.relative, rest⟩ = q := by
  have hTilde : ("~" ++ user).toList = '~' :: user.toList := String.toList_append
  unfold expandHome
  simp only [hTilde, String.ofList_toList]
  constructor
  · intro h
    split at h
    · cases h
    · rename_i hUntorn
      split at h
      · rename_i home hHome
        refine ⟨home, ?_, Except.ok.inj h⟩
        by_cases hOwn : user = ""
        · subst hOwn
          cases hHome
          exact .own
        · exact .other hOwn (by simpa using hUntorn) (by simpa [hOwn] using hHome)
      · cases h
  · rintro ⟨home, hLives, rfl⟩
    cases hLives with
    | own => rfl
    | other named untorn known =>
        simp [named, untorn, known]
        rfl

theorem expandHome_eq_ok_iff : expandHome site p = .ok q ↔ StandsFor site p q := by
  by_cases hPlain : ∀ user rest, p ≠ ⟨.relative, ("~" ++ user) :: rest⟩
  · rw [expandHome_of_plain hPlain]
    constructor
    · rintro ⟨⟩
      exact .itself hPlain
    · rintro (_ | _)
      · rfl
      · exact absurd rfl (hPlain _ _)
  · obtain ⟨user, rest, rfl⟩ : ∃ user rest, p = ⟨.relative, ("~" ++ user) :: rest⟩ := by
      simpa using hPlain
    rw [expandHome_of_tilde]
    constructor
    · rintro ⟨home, hLives, rfl⟩
      exact .home hLives
    · intro h
      generalize hPath : (⟨.relative, ("~" ++ user) :: rest⟩ : Path) = p at h
      cases h with
      | itself plain => exact absurd hPath.symm (plain user rest)
      | @home other home _ lives =>
          injection hPath with _ hParts
          injection hParts with hUser hRest
          rw [String.append_right_inj] at hUser
          subst hUser hRest
          exact ⟨_, lives, rfl⟩

/-! Installed packages -/

/-- The name stands for a package, and everything that it lies in is installed. -/
structure Installed (site : Site) (name : String) (package : Package) : Prop where
  absolute : name.toList.head? ≠ some '.'
  outer : ∀ before after, name = before ++ "." ++ after → (site.packages.lookup before).isSome
  found : site.packages.lookup name = some package
  isPackage : package ≠ .single

/-- The parts of a dotted name. -/
private def dotted (name : String) : List String := (name.toList.splitOn '.').map String.ofList

private theorem dotted_ne_nil (name : String) : dotted name ≠ [] := by
  simp [dotted, List.splitOn_ne_nil]

private theorem intercalate_dotted (name : String) : String.intercalate "." (dotted name) = name := by
  rw [← String.toList_inj, String.toList_intercalate, dotted, List.map_map,
    show ".".toList = ['.'] from rfl]
  simp [Function.comp_def, List.intercalate_splitOn]

private theorem dotted_append (before after : String) :
    dotted (before ++ "." ++ after) = dotted before ++ dotted after := by
  have hText : (before ++ "." ++ after).toList = before.toList ++ '.' :: after.toList := by
    rw [String.toList_append, String.toList_append, List.append_assoc]
    rfl
  rw [dotted, hText, List.splitOn_append_cons_self, List.map_append]
  rfl

/-- A beginning of a dotted name is the whole name, or stands before one of its dots. -/
theorem mem_dottedPrefixes {before : String} :
    before ∈ dottedPrefixes name ↔ before = name ∨ ∃ after, name = before ++ "." ++ after := by
  change before ∈ (List.range (dotted name).length).map
    (fun n => String.intercalate "." ((dotted name).take (n + 1))) ↔ _
  simp only [List.mem_map, List.mem_range]
  constructor
  · rintro ⟨n, hLess, rfl⟩
    by_cases hRest : (dotted name).drop (n + 1) = []
    · left
      rw [List.drop_eq_nil_iff] at hRest
      rw [List.take_of_length_le hRest, intercalate_dotted]
    · right
      have hTake : (dotted name).take (n + 1) ≠ [] := by
        simp [List.take_eq_nil_iff, dotted_ne_nil]
      refine ⟨String.intercalate "." ((dotted name).drop (n + 1)), ?_⟩
      rw [← String.intercalate_append_of_ne_nil hTake hRest, List.take_append_drop, intercalate_dotted]
  · have hPos (other : String) : 0 < (dotted other).length :=
      List.length_pos_iff.mpr (dotted_ne_nil other)
    rintro (rfl | ⟨after, rfl⟩)
    · have hLength := hPos before
      refine ⟨(dotted before).length - 1, by omega, ?_⟩
      rw [List.take_of_length_le (by omega), intercalate_dotted]
    · have hLength := hPos before
      rw [dotted_append, List.length_append]
      refine ⟨(dotted before).length - 1, by omega, ?_⟩
      rw [Nat.sub_add_cancel hLength, List.take_left', intercalate_dotted]
      rfl

theorem missing?_eq_none {packages : List (String × Package)} :
    missing? packages name = none ↔
      ∀ before ∈ dottedPrefixes name, (packages.lookup before).isSome := by
  unfold missing?
  rw [List.find?_eq_none]
  refine forall₂_congr fun before _ => ?_
  cases packages.lookup before <;> simp

theorem package_eq_ok_iff : ConfigRoot.package site name = .ok package ↔ Installed site name package := by
  unfold ConfigRoot.package
  constructor
  · intro h
    split at h
    · cases h
    · rename_i hAbsolute
      split at h
      · dsimp only at h
        split at h <;> cases h
      · rename_i hNone
        rw [missing?_eq_none] at hNone
        split at h
        · cases h
        · cases h
        · rename_i found hSingle hFound
          cases h
          refine ⟨hAbsolute, fun before after hName => ?_, hFound, ?_⟩
          · exact hNone before (mem_dottedPrefixes.mpr (.inr ⟨after, hName⟩))
          · rintro rfl
            exact hSingle rfl
  · rintro ⟨hAbsolute, hOuter, hFound, hPackage⟩
    have hNone : missing? site.packages name = none := by
      rw [missing?_eq_none]
      intro before hMem
      rcases mem_dottedPrefixes.mp hMem with rfl | ⟨after, hName⟩
      · simp [hFound]
      · exact hOuter before after hName
    rw [if_neg hAbsolute, hNone, hFound]
    cases package with
    | single => exact absurd rfl hPackage
    | directory | scattered | archived => rfl

/-! Packages in several directories -/

/-- A search through the paths ends at one of them, since it passes all those before it. -/
def EndsAt (passes ends : Path → Prop) (paths : List Path) (p : Path) : Prop :=
  ∃ before after, paths = before ++ p :: after ∧ (∀ q ∈ before, passes q) ∧ ends p

section

variable {passes ends : Path → Prop} {p q : Path}

@[simp] theorem not_endsAt_nil : ¬ EndsAt passes ends [] p := by
  rintro ⟨before, after, hPaths, _⟩
  simp at hPaths

@[simp] theorem endsAt_cons :
    EndsAt passes ends (q :: paths) p ↔ q = p ∧ ends p ∨ passes q ∧ EndsAt passes ends paths p := by
  constructor
  · rintro ⟨before, after, hPaths, hBefore, hEnds⟩
    rcases List.cons_eq_append_iff.mp hPaths with ⟨rfl, hHead⟩ | ⟨rest, rfl, rfl⟩
    · exact .inl ⟨(List.cons.inj hHead).1.symm, hEnds⟩
    · rw [List.forall_mem_cons] at hBefore
      exact .inr ⟨hBefore.1, rest, after, rfl, hBefore.2, hEnds⟩
  · rintro (⟨rfl, hEnds⟩ | ⟨hPasses, before, after, rfl, hBefore, hEnds⟩)
    · exact ⟨[], paths, rfl, by simp, hEnds⟩
    · exact ⟨q :: before, after, rfl, List.forall_mem_cons.mpr ⟨hPasses, hBefore⟩, hEnds⟩

end

theorem allDirectories_eq_true :
    allDirectories s tree paths = .ok true ↔ ∀ p ∈ paths, s.isDirectory p tree = .ok true := by
  induction paths with
  | nil => simp [allDirectories]
  | cons p rest ih =>
      rw [allDirectories, List.forall_mem_cons, ← ih]
      rcases s.isDirectory p tree with _ | _ | _ <;> simp

/-- The owner of the directory can see an entry with the name. -/
def Shows (s : Setting) (tree : Tree) (name : String) (p : Path) : Prop :=
  ∃ names, tree.namesIn s.site.working p = .ok names ∧ name ∈ names

/-- The owner of the directory can see that it has no entry with the name. -/
def Lacks (s : Setting) (tree : Tree) (name : String) (p : Path) : Prop :=
  ∃ names, tree.namesIn s.site.working p = .ok names ∧ name ∉ names

theorem hasEntry_eq_true {p : Path} : s.hasEntry p name tree = .ok true ↔ Shows s tree name p := by
  unfold Setting.hasEntry Shows
  cases tree.namesIn s.site.working p <;> simp

theorem hasEntry_eq_false {p : Path} : s.hasEntry p name tree = .ok false ↔ Lacks s tree name p := by
  unfold Setting.hasEntry Lacks
  cases tree.namesIn s.site.working p <;> simp

theorem holder_eq_some {p : Path} : holder s tree name paths = .ok (some p) ↔
    EndsAt (Lacks s tree name) (Shows s tree name) paths p := by
  induction paths with
  | nil => simp [holder]
  | cons q rest ih =>
      rw [holder, endsAt_cons, ← ih, ← hasEntry_eq_true, ← hasEntry_eq_false]
      by_cases hSame : q = p
      · subst hSame
        rcases s.hasEntry q name tree with _ | _ | _ <;> simp
      · rcases s.hasEntry q name tree with _ | _ | _ <;> simp [hSame]

theorem holder_eq_none : holder s tree name paths = .ok none ↔ ∀ p ∈ paths, Lacks s tree name p := by
  induction paths with
  | nil => simp [holder]
  | cons q rest ih =>
      rw [holder, List.forall_mem_cons, ← ih, ← hasEntry_eq_false]
      rcases s.hasEntry q name tree with _ | _ | _ <;> simp

/-- The directory in which a package has a resource. A directory of several goes before those after it if it
has an entry of this name, and the first one is left for what none of them has. -/
inductive Keeps (s : Setting) (tree : Tree) (name : String) : Package → Path → Prop where
  | alone {base : Path} : Keeps s tree name (.directory base) base
  | held {first base : Path} {others : List Path}
      (directories : ∀ p ∈ first :: others, s.isDirectory p tree = .ok true)
      (held : EndsAt (Lacks s tree name) (Shows s tree name) (first :: others) base) :
      Keeps s tree name (.scattered first others) base
  | left {first : Path} {others : List Path}
      (directories : ∀ p ∈ first :: others, s.isDirectory p tree = .ok true)
      (lacking : ∀ p ∈ first :: others, Lacks s tree name p) :
      Keeps s tree name (.scattered first others) first

theorem packagePlace_eq_some_iff :
    packagePlace s tree name package = .ok (some base) ↔ Keeps s tree name package base := by
  cases package with
  | directory path =>
      constructor
      · rintro ⟨⟩
        exact .alone
      · rintro ⟨⟩
        rfl
  | archived => exact ⟨nofun, nofun⟩
  | single => exact ⟨nofun, nofun⟩
  | scattered first others =>
      rw [packagePlace]
      constructor
      · intro h
        split at h
        · cases h
        · cases h
        · rename_i hAll
          rw [allDirectories_eq_true] at hAll
          obtain ⟨found, hFound, hBase⟩ : ∃ found, holder s tree name (first :: others) = .ok found ∧
              found.getD first = base := by
            cases hHolder : holder s tree name (first :: others) with
            | error failure =>
                rw [hHolder] at h
                cases h
            | ok found =>
                rw [hHolder] at h
                exact ⟨found, rfl, Option.some.inj (Except.ok.inj h)⟩
          cases found with
          | none =>
              rw [← show first = base from hBase]
              exact .left hAll (holder_eq_none.mp hFound)
          | some p =>
              rw [← show p = base from hBase]
              exact .held hAll (holder_eq_some.mp hFound)
      · rintro (_ | ⟨hAll, hHeld⟩ | ⟨hAll, hLacks⟩)
        · rw [allDirectories_eq_true.mpr hAll, holder_eq_some.mpr hHeld]
          rfl
        · rw [allDirectories_eq_true.mpr hAll, holder_eq_none.mpr hLacks]
          rfl

end ConfigGate.ConfigRoot
