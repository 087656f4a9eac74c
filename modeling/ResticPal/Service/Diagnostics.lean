import ResticPal.Lib.Rotation
import ResticPal.Lib.Runs
import ResticPal.Protocol.Json
import ResticPal.Service.Output
/-!
# The diagnostic log

`resticpal-service/src/diagnostics.rs`: entries are appended to `service.jsonl`, a
line each, and a log that would grow over a mebibyte is first moved to the first of
three archives. Any call of the file system can fail. Place 0 is the log itself,
place `n` the archive `.n`; what `fs::metadata` says of a file is true.

- `make_room_listed`: what a rotation leaves of the files, wherever it fails.
- `log_is_a_bounded_suffix`: the log holds the end of what was recorded.
- `failed_record_keeps_entries_iff`: a failed call keeps the history unless it had
  removed the oldest archive.
-/

open Lib

namespace ResticPal

open Text (Bytes)
open JsonString (quote object NoControl)

def MAX_LOG_BYTES : Nat := 1024 * 1024
def MAX_ARCHIVES : Nat := 3
def MAX_CODE_CHARACTERS : Nat := 96

/-- `b'\r'`. -/
def CR : UInt8 := 13

def sanitize_code (value : String) : Option String :=
  let allowed (byte : UInt8) : Bool :=
    (97 ≤ byte && byte ≤ 122) || (48 ≤ byte && byte ≤ 57) || byte == 95 || byte == 45 || byte == 46
  if Text.is_empty value || Text.len value > MAX_CODE_CHARACTERS || !(Text.as_bytes value).all allowed then
    some "unclassified_error"
  else some value

/-! ## Entries -/

def DiagnosticLevel.json_name : DiagnosticLevel → String
  | .Information => "information"
  | .Warning => "warning"
  | .Error => "error"

/-- `serde_json` at `DiagnosticEntry`. -/
structure EntryJson where
  /-- The text of an instant, in RFC 3339. -/
  format_time : DateTime → String
  from_str : String → Option DiagnosticEntry

namespace EntryJson

variable (json : EntryJson)

def to_string (entry : DiagnosticEntry) : String :=
  object ([
    ("timestamp", quote (json.format_time entry.timestamp)),
    ("level", quote entry.level.json_name),
    ("event_id", quote entry.event_id),
    ("message", quote entry.message)] ++
    entry.code.toList.map (fun code => ("code", quote code)))

def line (entry : DiagnosticEntry) : Bytes := Text.as_bytes (json.to_string entry) ++ [LF]

def ReadsBack (entry : DiagnosticEntry) : Prop := json.from_str (json.to_string entry) = some entry

theorem to_string_noControl (entry : DiagnosticEntry) : NoControl (json.to_string entry) := by
  refine JsonString.object_noControl fun field hfield => ?_
  rcases List.mem_append.1 hfield with hfield | hfield
  · simp only [List.mem_cons, List.not_mem_nil, or_false] at hfield
    rcases hfield with rfl | rfl | rfl | rfl
    all_goals exact JsonString.quote_noControl _
  · obtain ⟨code, -, rfl⟩ := List.mem_map.1 hfield
    exact JsonString.quote_noControl code

/-- The text of an entry has no line break. -/
theorem not_mem_to_string (entry : DiagnosticEntry) {byte : UInt8} (h : byte.toNat < 0x20) :
    byte ∉ Text.as_bytes (json.to_string entry) := by
  intro hmem
  obtain ⟨c, hc, hcode⟩ := Text.mem_as_bytes hmem (by omega)
  have hnot := json.to_string_noControl entry c hc
  rw [JsonString.isControl, hcode, decide_eq_false_iff_not] at hnot
  exact hnot h

/-! ## Reading a file -/

/-- A line as `BufRead::lines` returns it. -/
def strip_terminator (line : Bytes) : Bytes :=
  if line.getLast? = some LF then
    if line.dropLast.getLast? = some CR then line.dropLast.dropLast else line.dropLast
  else line

/-- The loop of `read_entries`: a line that is not UTF-8 is an error, one that is not an
entry is skipped. -/
def read_file (content : Bytes) : Option (List DiagnosticEntry) := do
  let texts ← (Lines.lines LF content).mapM (fun line => Text.from_utf8 (strip_terminator line))
  return texts.filterMap json.from_str

/-- `read_entries`: a file that does not exist has none. -/
def read_entries : Option Bytes → Option (List DiagnosticEntry)
  | none => some []
  | some content => json.read_file content

end EntryJson

/-! ## Files -/

abbrev LogFiles := Rotation.Slots Bytes

namespace LogFiles

/-- The archives from `n` to the first, and the log. -/
def read_from (json : EntryJson) (files : LogFiles) : Nat → Option (List DiagnosticEntry)
  | 0 => json.read_entries (files 0)
  | n + 1 => do
    let older ← json.read_entries (files (n + 1))
    let newer ← read_from json files n
    return older ++ newer

def entries (json : EntryJson) (files : LogFiles) : Option (List DiagnosticEntry) :=
  read_from json files MAX_ARCHIVES

def recent (json : EntryJson) (files : LogFiles) (limit : Nat) : Option (List DiagnosticEntry) := do
  let entries ← entries json files
  return entries.drop (entries.length - limit)

def current_size (files : LogFiles) : Nat := (files 0).elim 0 List.length

end LogFiles

/-- A call of `record`: its arguments, the time, and what the file system does. -/
structure RecordCall where
  level : DiagnosticLevel
  event_id : String
  message : String
  code : Option String
  now : DateTime
  directory_created : Bool
  /-- `remove_file` of the last archive, and `rename` of each place to the next: `false` for an error other than `NotFound`. -/
  removed : Bool
  renamed : Nat → Bool
  opened : Bool
  /-- A file that was opened gets the whole line or nothing. -/
  appended : Bool

namespace RecordCall

variable (json : EntryJson) (call : RecordCall) (files : LogFiles)

def entry : DiagnosticEntry where
  timestamp := call.now
  level := call.level
  event_id := call.event_id
  message := call.message
  code := call.code.bind sanitize_code

def rotate : LogFiles × Bool :=
  if call.removed then Rotation.shift call.renamed MAX_ARCHIVES (Rotation.clear files MAX_ARCHIVES) else (files, false)

/-- Whether the line would not fit. -/
def exceeds : Bool := files.current_size + (json.line call.entry).length > MAX_LOG_BYTES

/-- `record` up to the append. -/
def make_room : LogFiles × Bool :=
  if call.directory_created then if call.exceeds json files then call.rotate files else (files, true)
  else (files, false)

/-- The append of `record`. `create(true)` makes an empty file of a missing one. -/
def append : LogFiles × Bool :=
  if call.opened then
    let written := if call.appended then json.line call.entry else []
    (Function.update files 0 (some ((files 0).getD [] ++ written)), call.appended)
  else (files, false)

/-- `DiagnosticLog::record`: the files it leaves, and whether it returned `Ok`. -/
def record : LogFiles × Bool :=
  let (files, ready) := call.make_room json files
  if ready then call.append json files else (files, false)

end RecordCall

/-! ## What a file reads as -/

namespace EntryJson

variable {json : EntryJson}

theorem line_ended (entry : DiagnosticEntry) : Lines.Ended LF (json.line entry) := .inr ⟨_, rfl⟩

theorem strip_terminator_line (entry : DiagnosticEntry) :
    strip_terminator (json.line entry) = Text.as_bytes (json.to_string entry) := by
  have hlast : (json.line entry).getLast? = some LF := List.getLast?_concat
  have hnot : (Text.as_bytes (json.to_string entry)).getLast? ≠ some CR := fun h =>
    json.not_mem_to_string entry (by decide) (List.mem_of_getLast? h)
  rw [strip_terminator, if_pos hlast, line, List.dropLast_concat, if_neg hnot]

theorem read_file_line {entry : DiagnosticEntry} (h : json.ReadsBack entry) :
    json.read_file (json.line entry) = some [entry] := by
  have hlines : Lines.lines LF (json.line entry) = [json.line entry] :=
    Lines.lines_single LF (json.not_mem_to_string entry (by decide))
  rw [read_file, hlines]
  simp [strip_terminator_line, Text.from_utf8_as_bytes, show json.from_str _ = _ from h]

/-- After complete lines, what is appended is read by itself. -/
theorem read_file_append {content : Bytes} (h : Lines.Ended LF content) (more : Bytes) :
    json.read_file (content ++ more) = do
      let first ← json.read_file content
      let second ← json.read_file more
      return first ++ second := by
  rw [read_file, Lines.lines_append LF h, read_file, read_file]
  simp only [List.mapM_append, bind_assoc, pure_bind, List.filterMap_append]

/-- A file of entries. -/
theorem read_file_lines {entries : List DiagnosticEntry} (h : ∀ entry ∈ entries, json.ReadsBack entry) :
    json.read_file (entries.flatMap json.line) = some entries := by
  induction entries with
  | nil => rfl
  | cons entry entries ih =>
    obtain ⟨hentry, hentries⟩ := List.forall_mem_cons.1 h
    rw [List.flatMap_cons, read_file_append (line_ended entry), read_file_line hentry, ih hentries]
    rfl

end EntryJson

namespace LogFiles

variable {json : EntryJson} {files : LogFiles}

/-- What contents read as, one after the other. -/
def read_list (json : EntryJson) : List Bytes → Option (List DiagnosticEntry)
  | [] => some []
  | content :: rest => do
    let older ← json.read_file content
    let newer ← read_list json rest
    return older ++ newer

theorem read_from_eq (json : EntryJson) (files : LogFiles) (n : Nat) :
    read_from json files n = read_list json (Rotation.listed files n) := by
  induction n with
  | zero =>
    rw [read_from, Rotation.listed]
    cases files 0 with
    | none => rfl
    | some content => simp [EntryJson.read_entries, read_list]
  | succ n ih =>
    rw [read_from, Rotation.listed, ih]
    cases files (n + 1) with
    | none => simp [EntryJson.read_entries]
    | some content => simp [EntryJson.read_entries, read_list]

/-- The entries of the last archive come first. -/
theorem entries_eq (json : EntryJson) (files : LogFiles) :
    entries json files = do
      let oldest ← json.read_entries (files MAX_ARCHIVES)
      let newer ← read_from json files 2
      return oldest ++ newer := rfl

/-- Another log in place 0. -/
theorem read_from_update {content : Option Bytes} {more : List DiagnosticEntry}
    (h : json.read_entries content = (json.read_entries (files 0)).map (· ++ more)) (n : Nat) :
    read_from json (Function.update files 0 content) n = (read_from json files n).map (· ++ more) := by
  induction n with
  | zero => rw [read_from, Function.update_self, h, read_from]
  | succ n ih =>
    rw [read_from, ih, Function.update_of_ne (Nat.succ_ne_zero n), read_from]
    cases json.read_entries (files (n + 1)) with
    | none => rfl
    | some older =>
      cases read_from json files n with
      | none => rfl
      | some newer => simp

theorem recent_eq {kept : List DiagnosticEntry} (h : entries json files = some kept) (limit : Nat) :
    recent json files limit = some (kept.drop (kept.length - limit)) := by
  rw [recent, h]
  rfl

/-- What `recent` can return at all is what is there. -/
theorem recent_eq_iff {files' : LogFiles} :
    (∀ limit, recent json files' limit = recent json files limit) ↔ entries json files' = entries json files := by
  constructor
  · intro h
    cases hold : entries json files with
    | none =>
      have hnone := h 0
      rw [recent, recent, hold] at hnone
      cases hnew : entries json files' with
      | none => rfl
      | some kept => rw [hnew] at hnone; cases hnone
    | some kept =>
      cases hnew : entries json files' with
      | none =>
        have hnone := h 0
        rw [recent, recent, hold, hnew] at hnone
        cases hnone
      | some kept' =>
        have hall := h (kept.length + kept'.length)
        rw [recent_eq hold, recent_eq hnew, Nat.sub_eq_zero_of_le (Nat.le_add_left _ _),
          Nat.sub_eq_zero_of_le (Nat.le_add_right _ _)] at hall
        exact hall
  · intro h limit
    rw [recent, recent, h]

end LogFiles

/-! ## What a call does -/

namespace RecordCall

open LogFiles (entries read_from recent)

variable {json : EntryJson} {call : RecordCall} {files : LogFiles}

/-- Whether the call removes the last archive. -/
def discards (json : EntryJson) (call : RecordCall) (files : LogFiles) : Bool :=
  call.directory_created && call.exceeds json files && call.removed

theorem make_room_eq_of_not (h : call.discards json files = false) : (call.make_room json files).1 = files := by
  unfold discards at h
  unfold make_room rotate
  cases hdirectory : call.directory_created with
  | false => rfl
  | true =>
    cases hexceeds : call.exceeds json files with
    | false => rfl
    | true =>
      rw [hdirectory, hexceeds, Bool.and_self, Bool.true_and] at h
      rw [h]
      rfl

theorem make_room_eq (h : call.discards json files = true) :
    call.make_room json files = Rotation.shift call.renamed MAX_ARCHIVES (Rotation.clear files MAX_ARCHIVES) := by
  obtain ⟨⟨hdirectory, hexceeds⟩, hremoved⟩ : (call.directory_created = true ∧ call.exceeds json files = true) ∧
      call.removed = true := by simpa [discards] using h
  rw [make_room, if_pos hdirectory, if_pos hexceeds, rotate, if_pos hremoved]

theorem make_room_of_le (hdirectory : call.directory_created = true)
    (h : files.current_size + (json.line call.entry).length ≤ MAX_LOG_BYTES) :
    call.make_room json files = (files, true) := by
  have hexceeds : call.exceeds json files = false := decide_eq_false (Nat.not_lt.2 h)
  rw [make_room, if_pos hdirectory, hexceeds, if_neg Bool.false_ne_true]

/-- Wherever it stops, a rotation loses no more than the last archive. -/
theorem make_room_listed (json : EntryJson) (call : RecordCall) (files : LogFiles) :
    Rotation.listed (call.make_room json files).1 MAX_ARCHIVES =
      if call.discards json files then Rotation.listed files 2 else Rotation.listed files MAX_ARCHIVES := by
  cases h : call.discards json files with
  | false => rw [make_room_eq_of_not h, if_neg Bool.false_ne_true]
  | true =>
    rw [if_pos rfl, make_room_eq h, Rotation.shift_listed _ (Nat.le_refl _) (Rotation.clear_self files _)]
    exact Rotation.listed_clear files 2

theorem make_room_entries (json : EntryJson) (call : RecordCall) (files : LogFiles) :
    entries json (call.make_room json files).1 =
      if call.discards json files then read_from json files 2 else entries json files := by
  rw [entries, LogFiles.read_from_eq, make_room_listed]
  split
  · rw [LogFiles.read_from_eq]
  · rw [entries, LogFiles.read_from_eq]

theorem record_eq (json : EntryJson) (call : RecordCall) (files : LogFiles) :
    call.record json files =
      if (call.make_room json files).2 then call.append json (call.make_room json files).1
      else ((call.make_room json files).1, false) := rfl

theorem append_eq (h : call.opened = true) :
    call.append json files =
      (Function.update files 0 (some ((files 0).getD [] ++ if call.appended then json.line call.entry else [])),
        call.appended) := by
  rw [append, if_pos h]

theorem append_entries_of_error (h : (call.append json files).2 = false) :
    entries json (call.append json files).1 = entries json files := by
  by_cases hopened : call.opened = true
  · rw [append_eq hopened] at h ⊢
    have happended : call.appended = false := h
    have hsame : json.read_entries (some ((files 0).getD [])) = (json.read_entries (files 0)).map (· ++ []) := by
      cases files 0 with
      | none => rfl
      | some content => simp
    rw [happended, if_neg Bool.false_ne_true, List.append_nil, entries, LogFiles.read_from_update hsame]
    simp [entries]
  · rw [append, if_neg hopened]

/-- What is there after a failed call. -/
theorem record_entries_of_error (h : (call.record json files).2 = false) :
    entries json (call.record json files).1 =
      if call.discards json files then read_from json files 2 else entries json files := by
  rw [record_eq] at h ⊢
  rw [← make_room_entries json call files]
  split at h
  next hready => rw [if_pos hready, append_entries_of_error h]
  next hready => rw [if_neg hready]

/-- A call that returns `Ok` made room and wrote its line. -/
theorem record_of_ok (h : (call.record json files).2 = true) :
    (call.make_room json files).2 = true ∧
      (call.record json files).1 = Function.update (call.make_room json files).1 0
        (some (((call.make_room json files).1 0).getD [] ++ json.line call.entry)) := by
  rw [record_eq] at h ⊢
  split at h
  next hready =>
    refine ⟨hready, ?_⟩
    rw [if_pos hready]
    by_cases hopened : call.opened = true
    · rw [append_eq hopened] at h ⊢
      rw [show call.appended = true from h, if_pos rfl]
    · rw [append, if_neg hopened] at h
      cases h
  next => cases h

end RecordCall

/-! ## Every sequence of calls -/

/-- The shape of the files: no more archives than there may be, and in each file complete
lines of at most a mebibyte. -/
structure LogFiles.IsLog (files : LogFiles) : Prop where
  place : ∀ i, MAX_ARCHIVES < i → files i = none
  content : ∀ content ∈ Rotation.listed files MAX_ARCHIVES, Lines.Ended LF content ∧ content.length ≤ MAX_LOG_BYTES

/-- An entry that its reader understands and that fits a file. -/
def EntryJson.Fits (json : EntryJson) (entry : DiagnosticEntry) : Prop :=
  json.ReadsBack entry ∧ (json.line entry).length ≤ MAX_LOG_BYTES

namespace LogFiles.IsLog

open RecordCall

variable {json : EntryJson} {call : RecordCall} {files : LogFiles}

theorem empty : IsLog (fun _ => none) where
  place _ _ := rfl
  content _ h := absurd h List.not_mem_nil

theorem current (h : files.IsLog) : Lines.Ended LF ((files 0).getD []) := by
  cases hfile : files 0 with
  | none => exact .inl rfl
  | some content => exact (h.content content (Rotation.mem_listed.2 ⟨0, Nat.zero_le _, hfile⟩)).1

theorem make_room (h : files.IsLog) : (call.make_room json files).1.IsLog := by
  refine ⟨fun i hi => ?_, fun content hcontent => ?_⟩
  · cases hdiscards : call.discards json files with
    | false =>
      rw [make_room_eq_of_not hdiscards]
      exact h.place i hi
    | true =>
      rw [make_room_eq hdiscards, Rotation.shift_above _ _ hi, Rotation.clear, Function.update_of_ne (Nat.ne_of_gt hi)]
      exact h.place i hi
  · rw [make_room_listed] at hcontent
    split at hcontent
    · exact h.content content (List.mem_append_right _ hcontent)
    · exact h.content content hcontent

/-- Another log in place 0. -/
theorem update (h : files.IsLog) {content : Bytes} (hended : Lines.Ended LF content)
    (hsize : content.length ≤ MAX_LOG_BYTES) : IsLog (Function.update files 0 (some content)) := by
  refine ⟨fun i hi => ?_, fun other hother => ?_⟩
  · rw [Function.update_of_ne (Nat.ne_of_gt (Nat.zero_lt_of_lt hi))]
    exact h.place i hi
  · rw [Rotation.listed_update_zero] at hother
    rcases List.mem_append.1 hother with hother | hother
    · refine h.content other ?_
      rw [Rotation.listed_eq_append]
      exact List.mem_append_left _ hother
    · obtain rfl : other = content := by simpa using hother
      exact ⟨hended, hsize⟩

theorem append (h : files.IsLog) (hroom : files.current_size + (json.line call.entry).length ≤ MAX_LOG_BYTES) :
    (call.append json files).1.IsLog := by
  by_cases hopened : call.opened = true
  · have hsize : ((files 0).getD []).length = files.current_size := by
      rw [current_size]
      cases files 0 <;> rfl
    rw [append_eq hopened]
    cases call.appended with
    | false =>
      rw [if_neg Bool.false_ne_true, List.append_nil]
      exact h.update h.current (by omega)
    | true =>
      rw [if_pos rfl]
      refine h.update (.inr ⟨_, (List.append_assoc _ _ _).symm⟩) ?_
      rw [List.length_append]
      omega
  · rw [RecordCall.append, if_neg hopened]
    exact h

/-- Once room has been made, the line fits. -/
theorem room (hfits : json.Fits call.entry) (hready : (call.make_room json files).2 = true) :
    (call.make_room json files).1.current_size + (json.line call.entry).length ≤ MAX_LOG_BYTES := by
  cases hdiscards : call.discards json files with
  | true =>
    rw [make_room_eq hdiscards] at hready ⊢
    rw [current_size, Rotation.shift_zero (Rotation.clear_self files _) hready]
    exact (Nat.zero_add _).trans_le hfits.2
  | false =>
    rw [make_room_eq_of_not hdiscards]
    have hnot : call.exceeds json files = false := by
      unfold RecordCall.make_room rotate at hready
      unfold discards at hdiscards
      cases hexceeds : call.exceeds json files with
      | false => rfl
      | true =>
        cases hdirectory : call.directory_created with
        | false => simp [hdirectory] at hready
        | true => simp_all
    rw [exceeds, decide_eq_false_iff_not, gt_iff_lt, Nat.not_lt] at hnot
    exact hnot

theorem record (h : files.IsLog) (hfits : json.Fits call.entry) : (call.record json files).1.IsLog := by
  rw [record_eq]
  split
  next hready => exact h.make_room.append (room hfits hready)
  next => exact h.make_room

end LogFiles.IsLog

/-- The log, and the entries whose calls returned `Ok`. -/
structure RecordedLog where
  files : LogFiles
  recorded : List DiagnosticEntry

namespace RecordedLog

open LogFiles (entries read_from recent)

variable {json : EntryJson}

def empty : RecordedLog := ⟨fun _ => none, []⟩

def step (json : EntryJson) (log : RecordedLog) (call : RecordCall) : Option RecordedLog :=
  let (files, ok) := call.record json log.files
  some ⟨files, if ok then log.recorded ++ [call.entry] else log.recorded⟩

theorem step_eq (json : EntryJson) (log : RecordedLog) (call : RecordCall) :
    log.step json call = some ⟨(call.record json log.files).1,
      if (call.record json log.files).2 then log.recorded ++ [call.entry] else log.recorded⟩ := rfl

/-- The files hold the end of what was recorded. -/
structure Holds (json : EntryJson) (log : RecordedLog) : Prop where
  files : log.files.IsLog
  kept : ∃ kept, entries json log.files = some kept ∧ kept <:+ log.recorded

/-- A rotation keeps a suffix. -/
theorem Holds.make_room {log : RecordedLog} (h : log.Holds json) (call : RecordCall) :
    ∃ kept, entries json (call.make_room json log.files).1 = some kept ∧ kept <:+ log.recorded := by
  obtain ⟨-, kept, hkept, hsuffix⟩ := h
  rw [RecordCall.make_room_entries]
  split
  · rw [LogFiles.entries_eq, Option.bind_eq_bind, Option.bind_eq_some_iff] at hkept
    obtain ⟨oldest, -, hkept⟩ := hkept
    obtain ⟨newer, hnewer, hkept⟩ := Option.bind_eq_some_iff.1 hkept
    cases hkept
    exact ⟨newer, hnewer, (List.suffix_append oldest newer).trans hsuffix⟩
  · exact ⟨kept, hkept, hsuffix⟩

theorem Holds.step {log log' : RecordedLog} (h : log.Holds json) {call : RecordCall} (hfits : json.Fits call.entry)
    (hstep : log.step json call = some log') : log'.Holds json := by
  rw [step_eq] at hstep
  obtain rfl := Option.some.inj hstep
  refine ⟨h.files.record hfits, ?_⟩
  dsimp only
  obtain ⟨kept, hkept, hsuffix⟩ := h.make_room call
  cases hok : (call.record json log.files).2 with
  | false =>
    refine ⟨kept, ?_, hsuffix⟩
    rw [RecordCall.record_entries_of_error hok, ← RecordCall.make_room_entries, hkept]
  | true =>
    obtain ⟨-, hrecord⟩ := RecordCall.record_of_ok hok
    have hroom : (call.make_room json log.files).1.IsLog := h.files.make_room
    have hline : json.read_entries
        (some (((call.make_room json log.files).1 0).getD [] ++ json.line call.entry)) =
          (json.read_entries ((call.make_room json log.files).1 0)).map (· ++ [call.entry]) := by
      rw [EntryJson.read_entries, EntryJson.read_file_append hroom.current, EntryJson.read_file_line hfits.1]
      cases (call.make_room json log.files).1 0 with
      | none => rfl
      | some content => simp [EntryJson.read_entries, Option.map_eq_bind]
    refine ⟨kept ++ [call.entry], ?_, ?_⟩
    · rw [hrecord, entries, LogFiles.read_from_update hline, ← entries, hkept]
      rfl
    · obtain ⟨before, hbefore⟩ := hsuffix
      exact ⟨before, by rw [← List.append_assoc, hbefore, if_pos rfl]⟩

/-- Whatever fails in the calls, the files hold the end of what was recorded, in order, and
stay bounded. -/
theorem log_is_a_bounded_suffix {calls : List RecordCall} {log : RecordedLog}
    (hrun : Run (step json) (fun _ call => json.Fits call.entry) empty calls log) :
    (∃ kept, entries json log.files = some kept ∧ kept <:+ log.recorded ∧
      ∀ limit, ∃ last, recent json log.files limit = some last ∧ last <:+ kept ∧
        last.length = min limit kept.length) ∧
      (∀ i, (log.files i).isSome → i ≤ MAX_ARCHIVES) ∧
      ∀ i content, log.files i = some content → content.length ≤ MAX_LOG_BYTES := by
  have hholds : log.Holds json :=
    hrun.inv (Holds json) (fun _ _ _ h hfits hstep => h.step hfits hstep) ⟨.empty, [], rfl, List.suffix_refl []⟩
  obtain ⟨hfiles, kept, hkept, hsuffix⟩ := hholds
  have hplace : ∀ i, (log.files i).isSome → i ≤ MAX_ARCHIVES := by
    intro i hsome
    by_contra hi
    rw [hfiles.place i (Nat.not_le.1 hi)] at hsome
    cases hsome
  refine ⟨⟨kept, hkept, hsuffix, fun limit => ?_⟩, hplace, fun i content hcontent => ?_⟩
  · refine ⟨_, LogFiles.recent_eq hkept limit, List.drop_suffix _ _, ?_⟩
    rw [List.length_drop]
    omega
  · have hi : i ≤ MAX_ARCHIVES := hplace i (by rw [hcontent]; rfl)
    exact (hfiles.content content (Rotation.mem_listed.2 ⟨i, hi, hcontent⟩)).2

end RecordedLog

theorem RecordCall.discards_eq_false_iff {json : EntryJson} {call : RecordCall} {files : LogFiles} :
    call.discards json files = false ↔
      call.directory_created = false ∨ files.current_size + (json.line call.entry).length ≤ MAX_LOG_BYTES ∨
        call.removed = false := by
  rw [discards, Bool.and_eq_false_iff, Bool.and_eq_false_iff, or_assoc, exceeds, decide_eq_false_iff_not, gt_iff_lt,
    Nat.not_lt]

/-- Nothing is missing without the last archive when it has no entries, or when the other
files cannot be read anyway. -/
theorem LogFiles.read_from_eq_entries_iff {json : EntryJson} {files : LogFiles} :
    read_from json files 2 = entries json files ↔
      json.read_entries (files MAX_ARCHIVES) = some [] ∨ read_from json files 2 = none := by
  rw [entries_eq]
  cases read_from json files 2 with
  | none => cases json.read_entries (files MAX_ARCHIVES) <;> simp
  | some newer => cases json.read_entries (files MAX_ARCHIVES) <;> simp

/-- A failed call leaves the history as it was, unless it had removed the last archive and
that had entries. -/
theorem failed_record_keeps_entries_iff {json : EntryJson} {call : RecordCall} {files : LogFiles}
    (h : (call.record json files).2 = false) :
    (∀ limit, LogFiles.recent json (call.record json files).1 limit = LogFiles.recent json files limit) ↔
      call.directory_created = false ∨ files.current_size + (json.line call.entry).length ≤ MAX_LOG_BYTES ∨
        call.removed = false ∨ json.read_entries (files MAX_ARCHIVES) = some [] ∨
        LogFiles.read_from json files 2 = none := by
  have hiff : (if call.discards json files then LogFiles.read_from json files 2 else LogFiles.entries json files) =
      LogFiles.entries json files ↔ call.discards json files = false ∨
        json.read_entries (files MAX_ARCHIVES) = some [] ∨ LogFiles.read_from json files 2 = none := by
    cases call.discards json files with
    | false => simp
    | true => simp [LogFiles.read_from_eq_entries_iff]
  rw [LogFiles.recent_eq_iff, RecordCall.record_entries_of_error h, hiff, RecordCall.discards_eq_false_iff, or_assoc,
    or_assoc]

/-! ## A log that another process holds open -/

namespace HeldOpen

def code (n : Nat) : String := String.ofList (List.replicate n '0')

def entry (n : Nat) : DiagnosticEntry where
  timestamp := .UNIX_EPOCH
  level := .Error
  event_id := "backup.failed"
  message := "Backup failed."
  code := some (code (n + 1))

/-- A reader that tells these entries by the size of their texts. -/
def json : EntryJson where
  format_time _ := "1970-01-01T00:00:00Z"
  from_str text := some (entry (text.utf8ByteSize - 117))

theorem utf8ByteSize_to_string (n : Nat) : (json.to_string (entry n)).utf8ByteSize = 117 + n := by
  have htimestamp : JsonString.fieldSize ("timestamp", quote "1970-01-01T00:00:00Z") = 33 := by decide
  have hlevel : JsonString.fieldSize ("level", quote "error") = 14 := by decide
  have hevent : JsonString.fieldSize ("event_id", quote "backup.failed") = 25 := by decide
  have hmessage : JsonString.fieldSize ("message", quote "Backup failed.") = 25 := by decide
  have hcode : JsonString.fieldSize ("code", quote (code (n + 1))) = 9 + n := by
    have hname : (quote "code").utf8ByteSize = 6 := by decide
    have hzero : Char.utf8Size '0' = 1 := by decide
    have hcost : JsonString.escapeCost '0' = 0 := by decide
    rw [JsonString.fieldSize, hname, JsonString.utf8ByteSize_quote, code, JsonString.utf8ByteSize_replicate,
      JsonString.escapeCosts_replicate, hzero, hcost]
    omega
  rw [EntryJson.to_string, JsonString.utf8ByteSize_object]
  simp only [entry, json, DiagnosticLevel.json_name, Option.toList_some, List.map_cons, List.map_nil, List.cons_append,
    List.nil_append, List.sum_cons, List.sum_nil, List.length_cons, List.length_nil, htimestamp, hlevel, hevent,
    hmessage, hcode]
  omega

theorem reads_back (n : Nat) : json.ReadsBack (entry n) := by
  show some (entry ((json.to_string (entry n)).utf8ByteSize - 117)) = _
  rw [utf8ByteSize_to_string, Nat.add_sub_cancel_left]

theorem line_length (n : Nat) : (json.line (entry n)).length = 118 + n := by
  rw [EntryJson.line, List.length_append, Text.as_bytes_length, Text.len, utf8ByteSize_to_string, List.length_singleton]
  omega

/-- The lines that fit a file. -/
def lines (n : Nat) : List DiagnosticEntry := List.replicate (MAX_LOG_BYTES / (json.line (entry n)).length) (entry n)

def full (n : Nat) : Bytes := (lines n).flatMap json.line

theorem read_full (n : Nat) : json.read_file (full n) = some (lines n) :=
  EntryJson.read_file_lines fun _ hmem => (List.eq_of_mem_replicate hmem) ▸ reads_back n

/-- The log and its archives. -/
def layout (log first second third : Option Bytes) : LogFiles
  | 0 => log
  | 1 => first
  | 2 => second
  | 3 => third
  | _ => none

theorem current_size_layout (content : Bytes) (first second third : Option Bytes) :
    LogFiles.current_size (layout (some content) first second third) = content.length := rfl

/-- The places after the removal and two moves. -/
theorem moved (log first second third : Option Bytes) :
    Rotation.moveUp (Rotation.moveUp (Rotation.clear (layout log first second third) 3) 2) 1 =
      layout log none first second := by
  funext i
  match i with
  | 0 | 1 | 2 | 3 | n + 4 =>
    cases first <;> cases second <;> simp [Rotation.moveUp, Rotation.clear, Function.update, layout]

/-- A further entry: the archives can be moved, but not the log. -/
def call : RecordCall where
  level := .Error
  event_id := "backup.failed"
  message := "Backup failed."
  code := some "0"
  now := .UNIX_EPOCH
  directory_created := true
  removed := true
  renamed i := i != 0
  opened := true
  appended := true

theorem shift_held (files : LogFiles) : Rotation.shift call.renamed MAX_ARCHIVES files =
    (Rotation.moveUp (Rotation.moveUp files 2) 1, false) := rfl

theorem call_entry : call.entry = entry 0 := by decide

theorem full_length (n : Nat) :
    (full n).length = MAX_LOG_BYTES / (json.line (entry n)).length * (json.line (entry n)).length := by
  rw [full, lines, List.length_flatMap, List.map_replicate, List.sum_replicate_nat]

/-- A full file has no room for a further line. -/
theorem exceeds (first second third : Option Bytes) : call.exceeds json (layout (some (full 0)) first second third) = true := by
  rw [RecordCall.exceeds, decide_eq_true_iff, call_entry, current_size_layout, full_length]
  exact Nat.lt_div_mul_add (by rw [line_length]; exact Nat.succ_pos _)

/-- The call removes the third archive, moves the others, and fails. -/
theorem record_held (first second third : Option Bytes) :
    call.record json (layout (some (full 0)) first second third) = (layout (some (full 0)) none first second, false) := by
  have hdiscards : call.discards json (layout (some (full 0)) first second third) = true := by
    rw [RecordCall.discards, exceeds]
    rfl
  rw [RecordCall.record_eq, RecordCall.make_room_eq hdiscards, shift_held, if_neg Bool.false_ne_true, MAX_ARCHIVES, moved]

theorem entries_held : LogFiles.entries json (layout (some (full 0)) none (some (full 1)) (some (full 2))) =
    some (lines 2 ++ (lines 1 ++ lines 0)) := by
  rw [LogFiles.entries, LogFiles.read_from_eq]
  simp [Rotation.listed, MAX_ARCHIVES, layout, LogFiles.read_list, read_full]

/-- Three failed calls erase the three archives. -/
theorem archives_are_erased :
    let files := layout (some (full 0)) (some (full 1)) (some (full 2)) (some (full 3))
    let once := (call.record json files).1
    let twice := (call.record json once).1
    let thrice := (call.record json twice).1
    (call.record json files).2 = false ∧ (call.record json once).2 = false ∧ (call.record json twice).2 = false ∧
      LogFiles.entries json files = some (lines 3 ++ (lines 2 ++ (lines 1 ++ lines 0))) ∧
      (∃ limit, LogFiles.recent json once limit ≠ LogFiles.recent json files limit) ∧
      LogFiles.entries json thrice = some (lines 0) := by
  simp only [record_held]
  have hfiles : LogFiles.entries json (layout (some (full 0)) (some (full 1)) (some (full 2)) (some (full 3))) =
      some (lines 3 ++ (lines 2 ++ (lines 1 ++ lines 0))) := by
    rw [LogFiles.entries, LogFiles.read_from_eq]
    simp [Rotation.listed, MAX_ARCHIVES, layout, LogFiles.read_list, read_full]
  have hthrice : LogFiles.entries json (layout (some (full 0)) none none none) = some (lines 0) := by
    rw [LogFiles.entries, LogFiles.read_from_eq]
    simp [Rotation.listed, MAX_ARCHIVES, layout, LogFiles.read_list, read_full]
  refine ⟨trivial, trivial, trivial, hfiles, ?_, hthrice⟩
  by_contra hsame
  have hentries := LogFiles.recent_eq_iff.1 (not_exists_not.1 hsame)
  rw [hfiles, entries_held] at hentries
  have hnil : lines 3 = [] := List.append_left_eq_self.1 (Option.some.inj hentries).symm
  rw [lines, line_length, List.replicate_eq_nil_iff] at hnil
  exact absurd hnil (by decide)

/-- Without a third archive, the failed call loses nothing. -/
theorem log_is_kept :
    let files := layout (some (full 0)) none none none
    (call.record json files).2 = false ∧
      ∀ limit, LogFiles.recent json (call.record json files).1 limit = LogFiles.recent json files limit := by
  intro files
  have hfailed : (call.record json files).2 = false := by rw [record_held]
  exact ⟨hfailed, (failed_record_keeps_entries_iff hfailed).2 (.inr (.inr (.inr (.inl rfl))))⟩

/-! ### Filling the log -/

/-- A call with nothing in its way. -/
def ready (n : Nat) : RecordCall := { call with code := some (code (n + 1)), renamed := fun _ => true }

theorem ready_entry {n : Nat} (h : n < 4) : (ready n).entry = entry n := by
  have hall : ∀ n < 4, (ready n).entry = entry n := by decide
  exact hall n h

theorem fits (n : Nat) (h : n < 4) : json.Fits (entry n) :=
  ⟨reads_back n, by rw [line_length]; unfold MAX_LOG_BYTES; omega⟩

/-- Runs of calls from no files. -/
def Reached (log : RecordedLog) : Prop :=
  ∃ calls, Run (RecordedLog.step json) (fun _ call => json.Fits call.entry) .empty calls log

theorem Reached.step {log log' : RecordedLog} {n : Nat} (hn : n < 4) (h : Reached log)
    (hstep : log.step json (ready n) = some log') : Reached log' := by
  obtain ⟨calls, hrun⟩ := h
  exact ⟨_, .snoc hrun (by rw [ready_entry hn]; exact fits n hn) hstep⟩

/-- A file of `k` lines. -/
def filled (n k : Nat) : Bytes := (List.replicate k (entry n)).flatMap json.line

theorem filled_length (n k : Nat) : (filled n k).length = k * (json.line (entry n)).length := by
  rw [filled, List.length_flatMap, List.map_replicate, List.sum_replicate_nat]

theorem filled_succ (n k : Nat) : filled n (k + 1) = filled n k ++ json.line (entry n) := by
  rw [filled, List.replicate_succ', List.flatMap_append, filled]
  simp

theorem layout_zero (log first second third : Option Bytes) : layout log first second third 0 = log := rfl

theorem update_layout (log content first second third : Option Bytes) :
    Function.update (layout log first second third) 0 content = layout content first second third := by
  funext i
  match i with
  | 0 | 1 | 2 | 3 | n + 4 => simp [Function.update, layout]

section Rounds

variable {n : Nat} (hn : n < 4) {first second third : Option Bytes} {recorded : List DiagnosticEntry}

include hn

/-- A line that fits is appended, whether there is a log or not. -/
theorem append_line {log : Option Bytes}
    (hsize : LogFiles.current_size (layout log first second third) + (json.line (entry n)).length ≤ MAX_LOG_BYTES) :
    RecordedLog.step json ⟨layout log first second third, recorded⟩ (ready n) =
      some ⟨layout (some (log.getD [] ++ json.line (entry n))) first second third, recorded ++ [entry n]⟩ := by
  rw [RecordedLog.step_eq, RecordCall.record_eq, RecordCall.make_room_of_le rfl (by rw [ready_entry hn]; exact hsize),
    if_pos rfl, RecordCall.append_eq rfl, if_pos (show (ready n).appended = true from rfl), ready_entry hn, update_layout]
  rfl

/-- One line after the other, until no other one fits. -/
theorem Reached.fill (h : Reached ⟨layout (some (filled n 1)) first second third, recorded ++ [entry n]⟩) :
    Reached ⟨layout (some (full n)) first second third, recorded ++ lines n⟩ := by
  have hlines : ∀ k, k + 1 ≤ MAX_LOG_BYTES / (json.line (entry n)).length →
      Reached ⟨layout (some (filled n (k + 1))) first second third, recorded ++ List.replicate (k + 1) (entry n)⟩ := by
    intro k
    induction k with
    | zero => exact fun _ => h
    | succ k ih =>
      intro hk
      have hsize : (filled n (k + 1)).length + (json.line (entry n)).length ≤ MAX_LOG_BYTES := by
        rw [filled_length, ← Nat.succ_mul]
        exact (Nat.le_div_iff_mul_le (by rw [line_length]; omega)).1 hk
      have hstep := @append_line n hn first second third (recorded ++ List.replicate (k + 1) (entry n)) (some (filled n (k + 1)))
        (by rw [current_size_layout]; exact hsize)
      rw [Option.getD_some, ← filled_succ, List.append_assoc, ← List.replicate_succ'] at hstep
      exact (ih (Nat.le_of_succ_le hk)).step hn hstep
  have hpos : 0 < MAX_LOG_BYTES / (json.line (entry n)).length := by
    rw [line_length]
    exact Nat.div_pos (by unfold MAX_LOG_BYTES; omega) (by omega)
  have hfull := hlines (MAX_LOG_BYTES / (json.line (entry n)).length - 1) (by omega)
  rw [Nat.sub_add_cancel hpos] at hfull
  rw [full, lines]
  exact hfull

/-- A full log is moved, and a new one filled. -/
theorem Reached.round {m : Nat} (h : Reached ⟨layout (some (full m)) first second third, recorded⟩)
    (hfull : MAX_LOG_BYTES < (full m).length + (json.line (entry n)).length) :
    Reached ⟨layout (some (full n)) (some (full m)) first second, recorded ++ lines n⟩ := by
  have hdiscards : (ready n).discards json (layout (some (full m)) first second third) = true := by
    rw [RecordCall.discards, RecordCall.exceeds, ready_entry hn, current_size_layout, decide_eq_true hfull]
    rfl
  have hmoved : Rotation.shift (ready n).renamed MAX_ARCHIVES
      (Rotation.clear (layout (some (full m)) first second third) MAX_ARCHIVES) =
        (layout none (some (full m)) first second, true) := by
    have hlast : Rotation.moveUp (layout (some (full m)) none first second) 0 = layout none (some (full m)) first second := by
      funext i
      match i with
      | 0 | 1 | 2 | 3 | n + 4 => simp [Rotation.moveUp, Rotation.clear, Function.update, layout]
    rw [← hlast, ← moved (some (full m)) first second third]
    rfl
  refine (h.step hn ?_).fill hn
  rw [RecordedLog.step_eq, RecordCall.record_eq, RecordCall.make_room_eq hdiscards, hmoved, if_pos rfl,
    RecordCall.append_eq rfl, if_pos (show (ready n).appended = true from rfl), ready_entry hn, update_layout]
  simp [layout_zero, filled, ready, call]

end Rounds

/-- Four full files. -/
theorem four_files : Reached ⟨layout (some (full 0)) (some (full 1)) (some (full 2)) (some (full 3)),
    lines 3 ++ lines 2 ++ lines 1 ++ lines 0⟩ := by
  have hempty : Reached ⟨layout none none none none, []⟩ := by
    refine ⟨[], ?_⟩
    rw [show layout none none none none = RecordedLog.empty.files from by
      funext i
      match i with
      | 0 | 1 | 2 | 3 | n + 4 => rfl]
    exact .nil
  have hsizes : ∀ n < 4, ∀ m < 4, MAX_LOG_BYTES < (full m).length + (json.line (entry n)).length := by
    simp only [full_length, line_length]
    decide +kernel
  have hfirst : RecordedLog.step json ⟨layout none none none none, []⟩ (ready 3) =
      some ⟨layout (some (filled 3 1)) none none none, [] ++ [entry 3]⟩ := by
    rw [append_line (by decide) (by rw [line_length]; decide)]
    simp [filled]
  have hthird := (hempty.step (by decide) hfirst).fill (by decide)
  rw [List.nil_append] at hthird
  exact ((hthird.round (by decide) (hsizes 2 (by decide) 3 (by decide))).round (by decide)
    (hsizes 1 (by decide) 2 (by decide))).round (by decide) (hsizes 0 (by decide) 1 (by decide))

/-- Four files are full, and another process holds the log: the oldest entries are dropped, and the rest is kept. -/
theorem oldest_are_dropped : ∃ calls log, Run (RecordedLog.step json) (fun _ call => json.Fits call.entry) .empty calls log ∧
    log.recorded = lines 3 ++ lines 2 ++ lines 1 ++ lines 0 ∧
    LogFiles.entries json log.files = some (lines 2 ++ (lines 1 ++ lines 0)) ∧
    lines 2 ++ (lines 1 ++ lines 0) <:+ log.recorded ∧
    ∀ i content, log.files i = some content → i ≤ MAX_ARCHIVES ∧ content.length ≤ MAX_LOG_BYTES := by
  obtain ⟨calls, hrun⟩ := four_files
  have hheld : Run (RecordedLog.step json) (fun _ call => json.Fits call.entry) .empty (calls ++ [call])
      ⟨layout (some (full 0)) none (some (full 1)) (some (full 2)), lines 3 ++ lines 2 ++ lines 1 ++ lines 0⟩ := by
    refine .snoc hrun (by rw [call_entry]; exact fits 0 (by decide)) ?_
    rw [RecordedLog.step_eq, record_held]
    rfl
  obtain ⟨⟨kept, hkept, hsuffix, -⟩, hplaces, hsizes⟩ := RecordedLog.log_is_a_bounded_suffix hheld
  obtain rfl : lines 2 ++ (lines 1 ++ lines 0) = kept := Option.some.inj (entries_held.symm.trans hkept)
  exact ⟨_, _, hheld, rfl, hkept, hsuffix, fun i content h => ⟨hplaces i (by rw [h]; rfl), hsizes i content h⟩⟩

end HeldOpen

end ResticPal
