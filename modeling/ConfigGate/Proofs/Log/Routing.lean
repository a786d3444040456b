import ConfigGate.Log.Journal
import ConfigGate.Log.Preview
import ConfigGate.Proofs.Keyed
import ConfigGate.Settings.Basic

/-! Where entries go. A journal writes each entry that is important enough to every file that takes it, once
and in order, however often it has been set up before, if the line of the entry is a text of characters. A line
with a lone half of a surrogate pair in it is lost. The line of an entry has the identifiers of its moment in
it. -/
namespace ConfigGate

open Json (Value)
open Text (Wide)

namespace Trace

theorem lookup_stamp (key id : String) (k : Wide) (fields : List (Wide × Value)) :
    (stamp key id fields).lookup k = if k = key ∧ id ≠ "" then some (.text id) else fields.lookup k := by
  unfold stamp
  by_cases hSet : id = ""
  · simp [hSet]
  · simp [hSet, Keyed.lookup_assign]

theorem nodup_keys_stamp {key id : String} {fields : List (Wide × Value)} (h : (fields.map Prod.fst).Nodup) :
    ((stamp key id fields).map Prod.fst).Nodup := by
  unfold stamp
  split
  · exact h
  · exact Keyed.nodup_keys_assign h

end Trace

namespace Log

/-! Lines -/

namespace Entry

/-- The identifiers of the moment under the names of their fields. -/
def identifiers (entry : Entry) : List (String × String) :=
  [("request_id", entry.context.requestId), ("trace_id", entry.context.traceId),
    ("span_id", entry.context.spanId)]

/-- The entry as it would be if no identifier were set. -/
def unidentified (entry : Entry) : Entry :=
  { entry with context := .unset }

/-- The members of the line. -/
def members (entry : Entry) : List (Wide × Value) :=
  let named := Keyed.assign ("event" : Wide) (.text entry.name) (entry.fields.filter (·.1 != ("timestamp" : Wide)))
  let ranked := Keyed.assign ("level" : Wide) (.text entry.severity.name) (entry.context.annotate named)
  match entry.record with
  | some record => Keyed.assign ("exception" : Wide) (.text record) ranked
  | none => ranked

theorem line_eq (entry : Entry) : entry.line = .object entry.members := rfl

/-- The members tell of the entry. An identifier that is set stands in its field, even if the entry brings a
field of this name. One that is not set leaves the field to the entry, and none of them has anything to do with
the other members. -/
structure ToldBy (entry : Entry) (members : List (Wide × Value)) : Prop where
  event : members.lookup ("event" : Wide) = some (.text entry.name)
  level : members.lookup ("level" : Wide) = some (.text entry.severity.name)
  identified : ∀ field ∈ entry.identifiers,
    members.lookup (field.1 : Wide) =
      if field.2 = "" then entry.fields.lookup (field.1 : Wide) else some (.text field.2)
  others : ∀ key ∉ entry.identifiers.map fun field => (field.1 : Wide), members.lookup key = entry.unidentified.members.lookup key
  unique : (entry.fields.map Prod.fst).Nodup → (members.map Prod.fst).Nodup

/-- What stands under a key of the line. -/
theorem lookup_members (entry : Entry) (key : Wide) : entry.members.lookup key =
    if key = "exception" ∧ entry.record.isSome then entry.record.map .text
    else if key = "level" then some (.text entry.severity.name)
    else if key = "span_id" ∧ entry.context.spanId ≠ "" then some (.text entry.context.spanId)
    else if key = "trace_id" ∧ entry.context.traceId ≠ "" then some (.text entry.context.traceId)
    else if key = "request_id" ∧ entry.context.requestId ≠ "" then some (.text entry.context.requestId)
    else if key = "event" then some (.text entry.name)
    else if key = "timestamp" then none
    else entry.fields.lookup key := by
  have hFilter : (entry.fields.filter (·.1 != ("timestamp" : Wide))).lookup key =
      if key = "timestamp" then none else entry.fields.lookup key :=
    Keyed.lookup_filter_ne ("timestamp" : Wide) key entry.fields
  unfold members Trace.Context.annotate
  cases entry.record <;> simp [Keyed.lookup_assign, Trace.lookup_stamp, hFilter]

theorem nodup_keys_members {entry : Entry} (h : (entry.fields.map Prod.fst).Nodup) :
    (entry.members.map Prod.fst).Nodup := by
  have hFields : ((entry.fields.filter (·.1 != ("timestamp" : Wide))).map Prod.fst).Nodup :=
    h.sublist (List.filter_sublist.map _)
  have hRanked : ((Keyed.assign ("level" : Wide) (.text entry.severity.name) (entry.context.annotate
      (Keyed.assign ("event" : Wide) (.text entry.name) (entry.fields.filter (·.1 != ("timestamp" : Wide)))))).map Prod.fst).Nodup := by
    refine Keyed.nodup_keys_assign ?_
    exact Trace.nodup_keys_stamp (Trace.nodup_keys_stamp (Trace.nodup_keys_stamp (Keyed.nodup_keys_assign hFields)))
  unfold members
  cases entry.record with
  | some record => exact Keyed.nodup_keys_assign hRanked
  | none => exact hRanked

theorem toldBy_members (entry : Entry) : entry.ToldBy entry.members where
  event := by simp [lookup_members]
  level := by simp [lookup_members]
  identified := by
    simp only [identifiers, List.forall_mem_cons, List.not_mem_nil, lookup_members]
    simp
  others := by
    intro key hKey
    simp only [identifiers, List.map_cons, List.map_nil, List.mem_cons, List.not_mem_nil, or_false, not_or] at hKey
    simp [lookup_members, unidentified, hKey]
  unique := nodup_keys_members

end Entry

/-! Files -/

namespace Journal

variable {journal : Journal} {file : JournalFile} {channel : String}

/-- The channel is the root channel, or lies below it. -/
def IsHeard (channel : String) : Prop :=
  channel = rootChannel ∨ ∃ rest, channel = rootChannel ++ "." ++ rest

theorem hears_iff : hears channel ↔ IsHeard channel := by
  unfold hears IsHeard
  rw [Bool.or_eq_true, beq_iff_eq, String.isPrefixOf, String.startsWith_string_iff]
  refine or_congr_right ⟨?_, ?_⟩
  · rintro ⟨rest, hRest⟩
    exact ⟨String.ofList rest, String.toList_inj.mp (by rw [String.toList_append, String.toList_ofList, hRest])⟩
  · rintro ⟨rest, rfl⟩
    exact ⟨rest.toList, by simp⟩

/-- No two files have one name, so a name means one file. -/
theorem filter_name (hNames : (journal.files.map JournalFile.name).Nodup) (hFile : file ∈ journal.files) :
    journal.files.filter (·.name == file.name) = [file] := by
  obtain ⟨before, after, hFiles⟩ := List.append_of_mem hFile
  rw [hFiles, List.map_append, List.map_cons, List.nodup_append, List.nodup_cons] at hNames
  obtain ⟨_, ⟨hAfter, _⟩, hBefore⟩ := hNames
  have hNone (others : List JournalFile) (h : ∀ other ∈ others, other.name ≠ file.name) :
      others.filter (·.name == file.name) = [] := by
    simpa [List.filter_eq_nil_iff] using h
  rw [hFiles, List.filter_append, List.filter_cons_of_pos (by simp),
    hNone before fun other hMem => hBefore _ (List.mem_map_of_mem hMem) _ List.mem_cons_self,
    hNone after fun other hMem hSame => hAfter (hSame ▸ List.mem_map_of_mem hMem), List.nil_append]

/-- An entry that gets as far as the files is added to each file that takes it, if it can be encoded. -/
theorem linesOf_write (hNames : (journal.files.map JournalFile.name).Nodup) (hFile : file ∈ journal.files)
    (entry : Entry) : (journal.write entry).linesOf file.name = journal.linesOf file.name ++
      if journal.admits entry && entry.isWhole && file.takes entry then [entry.line] else [] := by
  unfold write linesOf
  cases journal.admits entry && entry.isWhole with
  | false => simp
  | true =>
      have hSwap : (journal.files.filter (·.takes entry)).filter (·.name == file.name) =
          (journal.files.filter (·.name == file.name)).filter (·.takes entry) := by
        simp only [List.filter_filter, Bool.and_comm]
      have hWritten : (((journal.files.filter (·.takes entry)).map fun f => (f.name, entry.line)).filter
          (·.1 == file.name)).map (·.2) = if file.takes entry then [entry.line] else [] := by
        rw [List.filter_map, Function.comp_def, hSwap, filter_name hNames hFile, List.filter_cons, List.filter_nil]
        split <;> rfl
      rw [if_pos rfl, List.filter_append, List.map_append, hWritten, Bool.true_and]

@[simp] theorem files_write (journal : Journal) (entry : Entry) : (journal.write entry).files = journal.files := by
  unfold write
  split <;> rfl

@[simp] theorem admits_write (journal : Journal) (entry other : Entry) :
    (journal.write entry).admits other = journal.admits other := by
  have hThreshold : (journal.write entry).threshold = journal.threshold := by
    unfold write
    split <;> rfl
  unfold admits channelThreshold
  rw [hThreshold]

/-- A file gets the entries that it takes, of those that get so far and can be encoded, once and in order. -/
theorem linesOf_writeAll (hNames : (journal.files.map JournalFile.name).Nodup) (hFile : file ∈ journal.files)
    (entries : List Entry) : (journal.writeAll entries).linesOf file.name =
      journal.linesOf file.name ++
        (entries.filter fun entry => journal.admits entry && entry.isWhole && file.takes entry).map Entry.line := by
  induction entries generalizing journal with
  | nil => simp [writeAll]
  | cons entry rest ih =>
      have hRest := @ih (journal.write entry) (by rwa [files_write]) (by rwa [files_write])
      simp only [admits_write, linesOf_write hNames hFile] at hRest
      rw [writeAll, List.foldl_cons, ← writeAll, hRest, List.append_assoc, List.filter_cons]
      split <;> rfl

/-! Setting the journal up -/

/-- Set the journal up several times. -/
def configureAll (journal : Journal) (thresholds : List Nat) : Journal :=
  thresholds.foldl configure journal

/-- What has been set up before is replaced. -/
theorem configureAll_concat (journal : Journal) (earlier : List Nat) (last : Nat) :
    journal.configureAll (earlier ++ [last]) = journal.configure last := by
  have hLines (thresholds : List Nat) (journal : Journal) :
      (thresholds.foldl configure journal).lines = journal.lines := by
    induction thresholds generalizing journal with
    | nil => rfl
    | cons threshold rest ih => exact ih (journal.configure threshold)
  rw [configureAll, List.foldl_append, List.foldl_cons, List.foldl_nil, configure, hLines]
  rfl

/-- All filters before the files ask for the same. -/
theorem admits_configure {threshold : Nat} (hThreshold : threshold ≠ 0) {entry : Entry}
    (hChannel : IsHeard entry.channel) :
    (journal.configure threshold).admits entry = decide (threshold ≤ entry.severity.rank) := by
  have hHears : hears entry.channel = true := hears_iff.mpr hChannel
  have hReported : (journal.configure threshold).channelThreshold = threshold := if_neg hThreshold
  unfold admits
  rw [hHears, hReported, Bool.true_and, show (journal.configure threshold).threshold = threshold from rfl]
  cases entry.isStructured <;> simp

end Journal

end Log

/-- The least severity that is reported. -/
def LogThreshold.severity : LogThreshold → Log.Severity
  | .debug => .debug
  | .info => .info
  | .warning => .warning
  | .error => .error

namespace Log

theorem thresholdRank_name (level : LogThreshold) : thresholdRank level.name = level.severity.rank := by
  cases level <;> decide

/-- The file of all events has the entries that are as severe as the threshold, each once and in order, and the
file of errors has those of them that are errors. All lines tell of their entries. -/
structure Routed (threshold : Severity) (entries : List Entry) (journal : Journal) : Prop where
  files : journal.files = [.allEvents threshold.rank, .errors]
  all : journal.linesOf "app.log" = (entries.filter (threshold.rank ≤ ·.severity.rank)).map Entry.line
  errors : journal.linesOf "error.log" = (entries.filter (Severity.error.rank ≤ ·.severity.rank)).map Entry.line
  among : (journal.linesOf "error.log").Sublist (journal.linesOf "app.log")
  told : ∀ entry ∈ entries, ∃ members, entry.line = .object members ∧ entry.ToldBy members

namespace Journal

theorem files_writeAll (journal : Journal) (entries : List Entry) :
    (journal.writeAll entries).files = journal.files := by
  induction entries generalizing journal with
  | nil => rfl
  | cons entry rest ih => exact (ih (journal.write entry)).trans (files_write journal entry)

theorem nodup_names_configure (journal : Journal) (threshold : Nat) :
    ((journal.configure threshold).files.map JournalFile.name).Nodup := by
  change ["app.log", "error.log"].Nodup
  decide

/-- A file of a journal that has been set up gets the entries that it takes, of those from the threshold on that
can be encoded. -/
theorem linesOf_writeAll_configure {threshold : Nat} (hThreshold : threshold ≠ 0) {entries : List Entry}
    (hChannels : ∀ entry ∈ entries, IsHeard entry.channel) (journal : Journal)
    (hFile : file ∈ (journal.configure threshold).files) :
    ((journal.configure threshold).writeAll entries).linesOf file.name = journal.linesOf file.name ++
      (((entries.filter Entry.isWhole).filter (threshold ≤ ·.severity.rank)).filter file.takes).map Entry.line := by
  rw [linesOf_writeAll (nodup_names_configure journal threshold) hFile, List.filter_filter, List.filter_filter]
  refine congrArg (journal.linesOf file.name ++ List.map _ ·) (List.filter_congr fun entry hEntry => ?_)
  rw [admits_configure hThreshold (hChannels entry hEntry), Bool.and_comm, Bool.and_assoc]

/-- The journal after it has been set up several times, with one threshold after the other. -/
def configured (earlier : List LogThreshold) (last : LogThreshold) : Journal :=
  closed.configureAll ((earlier ++ [last]).map fun level => thresholdRank level.name)

/-- However often a journal has been set up, its entries go where the last threshold sends them, if they can be
encoded. -/
theorem routed_filter_isWhole (earlier : List LogThreshold) (last : LogThreshold) {entries : List Entry}
    (hChannels : ∀ entry ∈ entries, IsHeard entry.channel) :
    Routed last.severity (entries.filter Entry.isWhole) ((configured earlier last).writeAll entries) := by
  have hPositive : last.severity.rank ≠ 0 := by cases last <;> decide
  have hError : last.severity.rank ≤ Severity.error.rank := by cases last <;> decide
  rw [configured, List.map_append, List.map_singleton, configureAll_concat, thresholdRank_name]
  have hAll := linesOf_writeAll_configure hPositive hChannels closed List.mem_cons_self
  have hErrors := linesOf_writeAll_configure hPositive hChannels closed (List.mem_cons_of_mem _ List.mem_cons_self)
  change _ = [] ++ _ at hAll hErrors
  rw [List.nil_append] at hAll hErrors
  generalize entries.filter Entry.isWhole = whole at hAll hErrors ⊢
  -- The file of all events asks for nothing new, and what errors ask for is more than the threshold.
  have hSame : (whole.filter (last.severity.rank ≤ ·.severity.rank)).filter
      (JournalFile.allEvents last.severity.rank).takes = whole.filter (last.severity.rank ≤ ·.severity.rank) := by
    rw [List.filter_filter]
    exact List.filter_congr fun entry _ => Bool.and_self _
  have hGrave : (whole.filter (last.severity.rank ≤ ·.severity.rank)).filter JournalFile.errors.takes =
      whole.filter (Severity.error.rank ≤ ·.severity.rank) := by
    rw [List.filter_filter]
    refine List.filter_congr fun entry _ => ?_
    rw [Bool.eq_iff_iff, Bool.and_eq_true, decide_eq_true_eq, decide_eq_true_eq]
    exact ⟨fun h => of_decide_eq_true h.1, fun h => ⟨decide_eq_true h, Nat.le_trans hError h⟩⟩
  exact {
    files := files_writeAll _ entries
    all := hAll.trans (congrArg _ hSame)
    errors := hErrors.trans (congrArg _ hGrave)
    among := by
      have hSublist : (((whole.filter (last.severity.rank ≤ ·.severity.rank)).filter JournalFile.errors.takes).map
          Entry.line).Sublist ((whole.filter (last.severity.rank ≤ ·.severity.rank)).map Entry.line) :=
        List.filter_sublist.map _
      rwa [← hErrors, ← hSame, ← hAll] at hSublist
    told := fun entry _ => ⟨entry.members, entry.line_eq, entry.toldBy_members⟩ }

/-- Entries of which none that is severe enough is left out go the same way. -/
theorem routed_of_filter {threshold : Severity} {p : Entry → Bool} {entries : List Entry} {journal : Journal}
    (hError : threshold.rank ≤ Severity.error.rank) (h : Routed threshold (entries.filter p) journal)
    (hKept : ∀ entry ∈ entries, threshold.rank ≤ entry.severity.rank → p entry) : Routed threshold entries journal where
  files := h.files
  all := by
    rw [h.all, List.filter_filter]
    refine congrArg (List.map _) (List.filter_congr fun entry hEntry => ?_)
    simpa using hKept entry hEntry
  errors := by
    rw [h.errors, List.filter_filter]
    refine congrArg (List.map _) (List.filter_congr fun entry hEntry => ?_)
    simpa using fun hSevere => hKept entry hEntry (Nat.le_trans hError hSevere)
  among := h.among
  told entry _ := ⟨entry.members, entry.line_eq, entry.toldBy_members⟩

/-- The event of a request whose body is the JSON text of a lone half, as it is reported. -/
def halfReported (shown : Option Wide) : Entry :=
  .ofEvent .unset (.requestStarted "POST" "/api/v1/admin/file" none shown)

end Journal

end Log

end ConfigGate
