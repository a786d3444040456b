import ConfigGate.Access.Lookup
import ConfigGate.Proofs.Access.Guard
import ConfigGate.Proofs.Access.Read
import ConfigGate.Proofs.Tree.LongNames

/-! Nothing outside the root is shown. The guard judges the canonical location of a path, but it is the
path itself that is opened, and the system walks it anew. Both agree on every tree in which the links
on the way have names that the system can look up. -/
namespace ConfigGate

open Act Tree

variable {s : Setting} {root path : Path} {tree : Tree} {base location : Location}

theorem Path.below?_append (base rest : List String) : below? base (base ++ rest) = some rest := by
  simp [below?]

theorem Setting.canonical_of_find (hWorking : Path.IsPlain s.site.working)
    (hNul : path.hasNul = false) (hFit : LinkNamesFit tree s.site.working path)
    (h : tree.find s.site.working .target path = .ok (.present location)) :
    s.canonical path tree = .ok location :=
  canonical_of_settles hNul (Nat.le_refl _) (settles_of_find hWorking (by decide) hFit h)

theorem Setting.hasNul_of_canonical (h : s.canonical path tree = .ok location) :
    path.hasNul = false :=
  (canonical_eq_ok_iff.mp h).1

namespace Access

/-- The path leads to the place that was judged, and this place lies below the root. -/
structure Confined (s : Setting) (root path : Path) (tree : Tree) (base location : Location) :
    Prop where
  reached : tree.find s.site.working .target path = .ok (.present location)
  canonical : s.canonical path tree = .ok location
  root : s.canonical root tree = .ok base
  below : base <+: location

/-- The names from the root down to the location spell a hidden name. -/
def isHiddenAt (s : Setting) (base location : Location) : Bool :=
  s.service.hidden.hides (Path.relativeText (location.drop base.length))

/-- The reply shows what stands at the location. A stream that does not break off gives the bytes of
the file. -/
def Shows (s : Setting) (tree : Tree) (location : Location) (after : World) : Reply → Prop
  | .read _ stream =>
    ∃ data drained, tree.fileAt? location = some stream.file ∧
      tree.data? stream.file = some data ∧ (attempt (stream.drain s) after).1 = .ok drained ∧
      (drained.error = none → drained.bytes = data.bytes) ∧
      ((∀ n, s.fault ≠ some (.read n)) → drained.error = none)
  | .listed _ _ => tree.isDirectoryAt location
  | .written _ _ => False

/-- Where no link leads upward, only a path with short names of links leads to the place that was
judged. -/
theorem linkNamesFit_of_judged (wf : tree.WellFormed) (hWorking : Path.IsPlain s.site.working)
    (hHome : tree.isDirectoryAt s.site.working) (hTree : tree.LinksDescend)
    (hUp : ".." ∉ path.parts)
    (hFind : tree.find s.site.working .target path = .ok (.present location))
    (hCanonical : s.canonical path tree = .ok location) :
    LinkNamesFit tree s.site.working path :=
  linkNamesFit_of_canonical wf hWorking hHome hTree hUp hFind
    (Setting.canonical_eq_ok_iff.mp hCanonical).2.2

/-- A path that the guard admits leads below the root, to a place that is not hidden. -/
theorem confined_of_verdict (hWorking : Path.IsPlain s.site.working) {file : String}
    (hVerdict : Guard.verdict s root file tree = .ok path)
    (hFit : LinkNamesFit tree s.site.working path)
    (hFind : tree.find s.site.working .target path = .ok (.present location)) :
    ∃ base, Confined s root path tree base location ∧ isHiddenAt s base location = false := by
  obtain ⟨_, other, base, hOther, hBase, hBelow, hVisible⟩ := Guard.verdict_ok hVerdict
  have hCanonical := Setting.canonical_of_find hWorking (Setting.hasNul_of_canonical hOther) hFit
    hFind
  rw [hCanonical] at hOther
  cases hOther
  exact ⟨base, ⟨hFind, hCanonical, hBase, hBelow⟩, hVisible⟩

theorem confined_of_decision (hWorking : Path.IsPlain s.site.working) {file : Option String}
    (hDecision : Guard.decision s root file tree = .ok path)
    (hFit : LinkNamesFit tree s.site.working path) :
    ∃ base location, Confined s root path tree base location ∧
      ∀ name ∈ file, path = root.join (Path.parse (withForwardSlashes name)) ∧
        isHiddenAt s base location = false := by
  obtain ⟨hShown, hFile⟩ := Guard.decision_ok hDecision
  obtain ⟨_, hNul, _, status, hStatus, _⟩ := Guard.shown_ok hShown
  obtain ⟨location, hFind, _⟩ := status_ok.mp hStatus
  rcases hFile with ⟨rfl, rfl⟩ | ⟨name, rfl, hVerdict⟩
  · have hCanonical := Setting.canonical_of_find hWorking hNul hFit hFind
    exact ⟨location, location, ⟨hFind, hCanonical, hCanonical, List.prefix_refl _⟩, by simp⟩
  · obtain ⟨base, hConfined, hVisible⟩ :=
      confined_of_verdict hWorking hVerdict hFit hFind
    refine ⟨base, location, hConfined, ?_⟩
    rintro _ ⟨⟩
    exact ⟨(Guard.verdict_ok hVerdict).1, hVisible⟩

/-- A successful access without contents opens the target for reading, or lists it. -/
theorem attempt_perform_read {file : Option String} {world after : World} {reply : Reply}
    (h : attempt (perform s ⟨file, none⟩) world = (.ok reply, after)) :
    ∃ root, (attempt (ConfigRoot.resolve s) world).1 = .ok root ∧
      Guard.decision s root file world.tree = .ok reply.path ∧
      ((∃ stream, reply = .read stream.path stream ∧ after.tree = world.tree ∧
          Stream.opened s stream.path world.tree = .ok stream.file) ∨
        ∃ path listing, reply = .listed path listing ∧ s.isDirectory path world.tree = .ok true) := by
  unfold perform at h
  obtain ⟨⟨target, root⟩, middle, hTarget, h⟩ := attempt_bind_ok.mp h
  obtain ⟨hRoot, hDecision, hQuiet⟩ := attempt_target_ok hTarget
  have hTree : middle.tree = world.tree := hQuiet.tree
  refine ⟨root, hRoot, ?_⟩
  obtain ⟨found, middle', hFound, h⟩ := attempt_bind_ok.mp h
  rw [attempt_ask, hTree, Prod.mk.injEq] at hFound
  obtain ⟨hFound, rfl⟩ := hFound
  cases found with
  | true =>
      obtain ⟨listing, _, _, h⟩ := attempt_bind_ok.mp h
      cases h
      exact ⟨hDecision, .inr ⟨target, listing, rfl, hFound⟩⟩
  | false =>
      obtain ⟨stream, final, hStream, h⟩ := attempt_bind_ok.mp h
      cases h
      obtain ⟨hOpened, rfl, hSame⟩ := Stream.attempt_ofPath_ok hStream
      rw [hTree] at hOpened
      exact ⟨hDecision, .inl ⟨stream, rfl, hSame.trans hTree, hOpened⟩⟩

/-- A reply without contents shows the place that its path leads to. -/
theorem shows_of_perform {file : Option String} {world after final : World} {reply : Reply}
    (h : attempt (perform s ⟨file, none⟩) world = (.ok reply, after))
    (hFinal : final.tree = after.tree)
    (hFind : world.tree.find s.site.working .target reply.path = .ok (.present location)) :
    Shows s world.tree location final reply := by
  obtain ⟨root, _, _, hReply⟩ := attempt_perform_read h
  rcases hReply with ⟨stream, rfl, hTree, hOpened⟩ | ⟨path, listing, rfl, hDirectory⟩
  · obtain ⟨place, data, hPlace, hFile, hData, _⟩ := openForReading_ok.mp (Stream.opened_ok.mp hOpened).2
    have hSame : Except.ok (Destination.present place) = .ok (.present location) :=
      hPlace.symm.trans hFind
    cases hSame
    have hContent : stream.content world.tree = data.bytes := by
      simp [Stream.content, hData]
    obtain ⟨hDrain, _⟩ := Stream.attempt_drain (s := s) stream final
    rw [hFinal, hTree] at hDrain
    refine ⟨data, _, hFile, hData, hDrain, ?_, ?_⟩
    · intro hComplete
      rw [Stream.bytes_drained hComplete, hContent]
    · intro hFault
      apply Stream.error_drained
      intro n
      simp [Setting.faultAt?, hFault n]
  · obtain ⟨_, place, hPlace, hIs⟩ := Setting.find_of_isDirectory hDirectory
    have hSame : Except.ok (Destination.present place) = .ok (.present location) :=
      hPlace.symm.trans hFind
    cases hSame
    exact hIs

/-- A text that is not empty was read from the file that the guard admitted. -/
theorem attempt_contents_ok {file text : String} {world after : World}
    (h : attempt (Lookup.contents s root file) world = (.ok text, after)) (hText : text ≠ "") :
    ∃ target, Guard.verdict s root file world.tree = .ok target ∧
      Lookup.textAt s target world.tree = .ok text := by
  unfold Lookup.contents at h
  obtain ⟨hidden, middle, hHidden, h⟩ := attempt_bind_ok.mp h
  rw [attempt_ask, Prod.mk.injEq] at hHidden
  obtain ⟨_, rfl⟩ := hHidden
  cases hidden with
  | true =>
      cases h
      exact absurd rfl hText
  | false =>
      obtain ⟨target, middle', hCheck, h⟩ := attempt_bind_ok.mp h
      obtain ⟨hVerdict, hQuiet⟩ := Guard.attempt_check (s := s) root file world
      rw [hCheck] at hVerdict hQuiet
      have hTree : middle'.tree = world.tree := hQuiet.tree
      refine ⟨target, hVerdict.symm, ?_⟩
      rw [attempt_bind, attempt_get] at h
      dsimp only at h
      rw [hTree] at h
      cases hRead : Lookup.textAt s target world.tree with
      | ok found =>
          rw [hRead] at h
          cases h
          rfl
      | error trouble =>
          rw [hRead] at h
          cases trouble with
          | undecodable m => cases h
          | system e =>
              by_cases hEntry : e.errno = .noEntry
              · simp only [hEntry, if_true] at h
                cases h
                exact absurd rfl hText
              · simp only [hEntry, if_false] at h
                cases h

theorem textAt_ok {target : Path} {text : String} (h : Lookup.textAt s target tree = .ok text) :
    ∃ location number data raw, tree.find s.site.working .target target = .ok (.present location) ∧
      tree.fileAt? location = some number ∧ tree.data? number = some data ∧
      Text.Utf8.decode data.bytes = .ok raw ∧
      text = String.ofList (Text.unifyLineEnds raw.toList) := by
  unfold Lookup.textAt at h
  split at h
  · cases h
  · rename_i number hOpen
    obtain ⟨location, data, hFind, hFile, hData, _⟩ := openForReading_ok.mp hOpen
    simp only [hData, Option.map_some, Option.getD_some] at h
    split at h
    · cases h
    · rename_i raw hRaw
      cases h
      exact ⟨location, number, data, raw, hFind, hFile, hData, hRaw, rfl⟩

/-- A request for a file is answered with its stream. -/
theorem attempt_handle_file {file : Option String} {world : World} {number : Nat}
    (hRoot : (attempt (ConfigRoot.resolve s) world).1 = .ok root)
    (hDecision : Guard.decision s root file world.tree = .ok path)
    (hFile : s.isDirectory path world.tree = .ok false)
    (hOpened : Stream.opened s path world.tree = .ok number) :
    (attempt (handle s ⟨file, none⟩) world).1 = .ok (.read path ⟨path, world.nextStream, number⟩) := by
  obtain ⟨_, hNul, _⟩ := Guard.shown_ok (Guard.decision_ok hDecision).1
  have hTarget : (attempt (target s ⟨file, none⟩) world).1 = .ok (path, root) :=
    attempt_target_eq_ok.mpr ⟨hRoot, hDecision⟩
  obtain ⟨_, _, hQuiet⟩ := attempt_target_ok (attempt_eq_of_result hTarget)
  have hTree : (attempt (target s ⟨file, none⟩) world).2.tree = world.tree := hQuiet.tree
  have hNext : (attempt (target s ⟨file, none⟩) world).2.nextStream = world.nextStream :=
    hQuiet.nextStream
  rw [attempt_handle]
  dsimp only
  unfold perform
  rw [attempt_bind_of_ok (attempt_eq_of_result hTarget)]
  dsimp only
  rw [attempt_bind, attempt_ask, hTree, hFile]
  dsimp only
  rw [if_neg Bool.false_ne_true, attempt_bind, Stream.attempt_ofPath hNul, hTree, hOpened, ← hNext]
  rfl

/-- A file is read at the path that the guard admits. -/
theorem read_of_handle {requested : Option String} {stream : Stream} {world after : World}
    (hRoot : (attempt (ConfigRoot.resolve s) world).1 = .ok root)
    (h : attempt (handle s ⟨requested, none⟩) world = (.ok (.read path stream), after)) :
    Guard.decision s root requested world.tree = .ok path ∧
      world.tree.openForReading s.site.working path = .ok stream.file ∧ after.tree = world.tree := by
  obtain ⟨middle, hPerform, hQuiet⟩ := performed_of_handle h
  obtain ⟨found, hFound, hDecision, hReply⟩ := attempt_perform_read hPerform
  cases hRoot.symm.trans hFound
  obtain ⟨other, hRead, hTree, hOpened⟩ | ⟨_, _, hListed, _⟩ := hReply
  · cases hRead
    exact ⟨hDecision, (Stream.opened_ok.mp hOpened).2, hQuiet.tree.trans hTree⟩
  · cases hListed

/-- Nothing is shown but what lies below the root and is not hidden, and it is shown as it is. This
holds for the replies to requests and for the texts that other parts of the program read, as long as
the name of every link on the way to the target is short enough for the system to look it up. Where
no link leads upward, only such a path can lead to the place that was judged. -/
theorem confined_of_access (hWorking : Path.IsPlain s.site.working) (world : World) :
    (∀ ⦃file reply after⦄, attempt (handle s ⟨file, none⟩) world = (.ok reply, after) →
      LinkNamesFit world.tree s.site.working reply.path →
      ∃ root base location, (attempt (ConfigRoot.resolve s) world).1 = .ok root ∧
        Confined s root reply.path world.tree base location ∧
        (∀ name ∈ file, reply.path = root.join (Path.parse (withForwardSlashes name)) ∧
          isHiddenAt s base location = false) ∧
        Shows s world.tree location after reply) ∧
    (∀ ⦃root file text after⦄, attempt (Lookup.contents s root file) world = (.ok text, after) →
      text ≠ "" →
      LinkNamesFit world.tree s.site.working (root.join (Path.parse (withForwardSlashes file))) →
      ∃ base location number data raw,
        Confined s root (root.join (Path.parse (withForwardSlashes file))) world.tree base
          location ∧
        isHiddenAt s base location = false ∧ world.tree.fileAt? location = some number ∧
        world.tree.data? number = some data ∧ Text.Utf8.decode data.bytes = .ok raw ∧
        text = String.ofList (Text.unifyLineEnds raw.toList)) ∧
    (world.tree.WellFormed → world.tree.isDirectoryAt s.site.working → world.tree.LinksDescend →
      ∀ ⦃root path base location⦄, ".." ∉ path.parts →
        Confined s root path world.tree base location →
        LinkNamesFit world.tree s.site.working path) := by
  refine ⟨?_, ?_, ?_⟩
  · intro file reply after h hFit
    obtain ⟨middle, hPerform, hQuiet⟩ := performed_of_handle h
    obtain ⟨root, hRoot, hDecision, _⟩ := attempt_perform_read hPerform
    obtain ⟨base, location, hConfined, hFile⟩ := confined_of_decision hWorking hDecision hFit
    refine ⟨root, base, location, hRoot, hConfined, hFile, ?_⟩
    exact shows_of_perform hPerform hQuiet.tree hConfined.reached
  · intro root file text after h hText hFit
    obtain ⟨target, hVerdict, hRead⟩ := attempt_contents_ok h hText
    obtain ⟨location, number, data, raw, hFind, hFile, hData, hRaw, rfl⟩ := textAt_ok hRead
    obtain ⟨rfl, _⟩ := Guard.verdict_ok hVerdict
    obtain ⟨base, hConfined, hVisible⟩ := confined_of_verdict hWorking hVerdict hFit hFind
    exact ⟨base, location, number, data, raw, hConfined, hVisible, hFile, hData, hRaw, rfl⟩

  · intro wf hHome hTree root path base location hUp hConfined
    exact linkNamesFit_of_judged wf hWorking hHome hTree hUp hConfined.reached hConfined.canonical

/-- The link leads to the file that was judged, for a reply as well as for a text. -/
theorem confined_of_access_link :
    (∃ reply after root base location,
      attempt (handle (plainSetting .atomic) ⟨some "link.txt", none⟩) (World.initial linkedTree) =
        (.ok reply, after) ∧
      Confined (plainSetting .atomic) root reply.path linkedTree base location ∧
      LinkNamesFit linkedTree [] reply.path) ∧
    ∃ base location,
      Confined (plainSetting .atomic) (Path.ofLocation ["conf"])
        (Path.ofLocation ["conf", "link.txt"]) linkedTree base location := by
  have hFit (location : Location) : LinkNamesFit linkedTree [] (Path.ofLocation location) :=
    linkNamesFit_of_entries (by simp [Path.ofLocation]) (by decide)
  have hWorking : Path.IsPlain (plainSetting .atomic).site.working := by decide
  obtain ⟨hReplies, hTexts, hExact⟩ := confined_of_access hWorking (World.initial linkedTree)
  have hReply : (attempt (handle (plainSetting .atomic) ⟨some "link.txt", none⟩)
      (World.initial linkedTree)).1 = .ok (.read (Path.ofLocation ["conf", "link.txt"])
        ⟨Path.ofLocation ["conf", "link.txt"], 0, 0⟩) := by
    decide
  have hText : (attempt (Lookup.contents (plainSetting .atomic) (Path.ofLocation ["conf"])
      "link.txt") (World.initial linkedTree)).1 = .ok "old" := by
    decide
  have hPath : (Path.ofLocation ["conf"]).join (Path.parse (withForwardSlashes "link.txt")) =
      Path.ofLocation ["conf", "link.txt"] := by
    decide
  constructor
  · obtain ⟨root, base, location, _, hConfined, _⟩ :=
      hReplies (attempt_eq_of_result hReply) (hFit ["conf", "link.txt"])
    refine ⟨_, _, root, base, location, attempt_eq_of_result hReply, hConfined, ?_⟩
    exact hExact (by decide) (by decide) (linksDescend_of_entries (by decide)) (by decide) hConfined
  · obtain ⟨base, location, _, _, _, hConfined, _⟩ :=
      hTexts (attempt_eq_of_result hText) (by decide) (hPath ▸ hFit ["conf", "link.txt"])
    rw [hPath] at hConfined
    exact ⟨base, location, hConfined⟩

/-- A file outside the root is shown: the link on the way to it has a name that is too long. -/
theorem shown_over_deep_link :
    ∃ stream after, attempt (handle (plainSetting .atomic) ⟨some "a/b/z/secret", none⟩)
        (World.initial deepTree) = (.ok (.read shortcut stream), after) ∧
      deepTree.fileAt? ["outside", "secret"] = some stream.file ∧
      ∀ root base location, ¬ Confined (plainSetting .atomic) root shortcut deepTree base location := by
  have hRoot : (attempt (ConfigRoot.resolve (plainSetting .atomic)) (World.initial deepTree)).1 =
      .ok (Path.ofLocation ["conf"]) := by
    decide
  obtain ⟨below, hSettles, hOther⟩ := settles_shortcut
  have hLocation : (plainSetting .atomic).canonical shortcut deepTree = .ok ("conf" :: below) :=
    Setting.canonical_of_settles (by decide) (Nat.le_refl _) hSettles
  have hVerdict : Guard.verdict (plainSetting .atomic) (Path.ofLocation ["conf"]) "a/b/z/secret" deepTree =
      .ok shortcut := by
    have hJudged : Guard.canonicalRelative (plainSetting .atomic) shortcut (Path.ofLocation ["conf"]) deepTree =
        .ok (some below) := by
      have hBase : (plainSetting .atomic).canonical (Path.ofLocation ["conf"]) deepTree = .ok ["conf"] := by
        decide
      rw [Guard.canonicalRelative_eq hLocation hBase]
      exact congrArg Except.ok (Path.below?_append ["conf"] below)
    unfold Guard.verdict
    have hParse : (Path.ofLocation ["conf"]).join (Path.parse (withForwardSlashes "a/b/z/secret")) =
        shortcut := by
      decide
    simp only
    rw [if_neg (by decide), if_neg (by decide), if_neg (by decide), hParse,
      hJudged]
    rfl
  have hStatus : deepTree.status [] shortcut = .ok ⟨false, 1, 0o644, .recent⟩ :=
    status_ok.mpr ⟨_, find_shortcut, by decide⟩
  have hProbe : (plainSetting .atomic).probe shortcut deepTree = .ok (some ⟨false, 1, 0o644, .recent⟩) :=
    Setting.probe_some.mpr ⟨by decide, hStatus⟩
  have hShown : Guard.shown (plainSetting .atomic) shortcut deepTree = .ok shortcut :=
    Guard.shown_of_status (by decide) (by decide) hStatus (by decide)
  have hDecision : Guard.decision (plainSetting .atomic) (Path.ofLocation ["conf"]) (some "a/b/z/secret")
      deepTree = .ok shortcut := Guard.decision_of_verdict hVerdict hShown
  have hFile : (plainSetting .atomic).isDirectory shortcut deepTree = .ok false := by
    unfold Setting.isDirectory
    rw [hProbe]
    rfl
  have hOpened : Stream.opened (plainSetting .atomic) shortcut deepTree = .ok 0 :=
    Stream.opened_ok.mpr ⟨rfl, openForReading_ok.mpr ⟨_, ⟨0o644, [0x73], .recent⟩, find_shortcut,
      by decide, by decide, by decide⟩⟩
  have hReply := attempt_handle_file hRoot hDecision hFile hOpened
  refine ⟨⟨shortcut, 0, 0⟩, _, attempt_eq_of_result hReply, by decide, ?_⟩
  intro root base location hConfined
  have hReached : Except.ok (Destination.present location) = .ok (.present ["outside", "secret"]) :=
    hConfined.reached.symm.trans find_shortcut
  cases hReached
  exact hOther (Except.ok.inj (hLocation.symm.trans hConfined.canonical))

end Access

end ConfigGate
