import ResticPal.Lib.Lines
import ResticPal.Service.Executor
/-!
# The output of a backup

`resticpal-service/src/executor.rs`: restic writes a JSON message a line to its
two streams. `read_bounded_line` reads a line from a buffered reader, which hands
out the stream in pieces of any size, and gives up on a line that is too long.
`read_json_output` collects what the messages of a stream say, and
`finish_outcome` turns that and the exit code into the outcome of the backup.

- `success_has_evidence`: what a reported success rests on, what it cannot hide,
  and what cannot change it.

The collected output is compared with `Findings`, which is computed from the
messages alone: no piece of the stream, no long line and no other text occurs in it.
-/

open Lib

namespace ResticPal

open Text (Bytes)

def MAX_JSON_LINE_BYTES : Nat := 1024 * 1024
def MAX_STDERR_BYTES : Nat := 64 * 1024
def MAX_BACKUP_FAILED_ITEMS : Nat := 100
def MAX_BACKUP_FAILED_ITEM_BYTES : Nat := 4 * 1024

/-- `b'\n'`. -/
def LF : UInt8 := 10

/-! ## Reading lines -/

/-- What one `read` returned before the end of the stream. -/
structure Chunk where
  bytes : Bytes
  nonempty : bytes ≠ []

/-- A `BufReader`: what is left of the last `read`, and what the next ones will return. -/
abbrev BufReader := List Chunk

def BufReader.bytes (reader : BufReader) : Bytes := reader.flatMap Chunk.bytes

/-- `reader.consume(n)`, while `available` is in the buffer. -/
def BufReader.consume (available : Chunk) (n : Nat) (rest : BufReader) : BufReader :=
  if h : available.bytes.drop n ≠ [] then ⟨available.bytes.drop n, h⟩ :: rest else rest

/-- The bytes up to the end of the line, or all that are available. -/
def Chunk.consumed (available : Chunk) : Nat := match available.bytes.findIdx? (· == LF) with
  | some index => index + 1
  | none => available.bytes.length

/-- What `read_bounded_line` returns, with the line and the reader that it leaves. -/
structure LineRead where
  valid : Option Bool
  line : Bytes
  reader : BufReader

/-- The loop of `read_bounded_line`. -/
def read_bounded_line_loop (line : Bytes) (oversized read_any : Bool) : BufReader → LineRead
  | [] => ⟨if read_any then some (!oversized) else none, line, []⟩
  | available :: rest =>
    let consumed := available.consumed
    let fits := !oversized && line.length + consumed ≤ MAX_JSON_LINE_BYTES
    let line := if fits then line ++ available.bytes.take consumed else line
    let ended := available.bytes[consumed - 1]? == some LF
    if ended then ⟨some fits, line, BufReader.consume available consumed rest⟩
    else read_bounded_line_loop line (!fits) true rest

def read_bounded_line (reader : BufReader) : LineRead := read_bounded_line_loop [] false false reader

/-! ## Messages -/

structure WireMessage where
  message_type : String
  percent_done : Option Float := none
  total_files : Option UInt64 := none
  files_done : UInt64 := 0
  total_bytes : Option UInt64 := none
  bytes_done : UInt64 := 0
  error_count : UInt64 := 0
  total_files_processed : UInt64 := 0
  total_bytes_processed : UInt64 := 0
  data_added : UInt64 := 0
  snapshot_id : Option String := none
  item : Option String := none
  /-- The `message` of a `WireError`. -/
  error : Option String := none

/-- The line is a JSON value with members or elements, and white space after it. -/
def ClosesValue (line : Bytes) : Prop :=
  ∃ value close white, line = value ++ close :: white ∧ (close = 0x7d ∨ close = 0x5d) ∧
    ∀ byte ∈ white, byte = 0x20 ∨ byte = 0x09 ∨ byte = 0x0a ∨ byte = 0x0d

/-- The decoding functions of other libraries. -/
structure Decoder where
  /-- `serde_json::from_slice` at `WireMessage`. -/
  from_slice : Bytes → Option WireMessage
  /-- `String::from_utf8_lossy`. -/
  from_utf8_lossy : Bytes → String
  /-- A message is an object, or an array of its fields. -/
  closes : ∀ line message, from_slice line = some message → ClosesValue line

inductive OutputEvent where
  | Progress (update : BackupProgress)
  | Summary (summary : BackupSummary)
  | FailureItem (item : String)
  | FailureItemOmitted
  | VssFallback
  | VssCleanupFailed

def is_vss_fallback_error (message : String) : Bool :=
  let message := Text.to_ascii_lowercase message
  containsText message "failed to create snapshot for [" ||
    ("vss error: getsnapshotproperties()".toList.isPrefixOf message.toList && containsText message "mount point")

def is_vss_cleanup_error (message : String) : Bool :=
  containsText (Text.to_ascii_lowercase message) "failed to delete vss snapshot"

/-- `strip_suffix`. -/
def strip_suffix_text (text suffix : List Char) : Option (List Char) :=
  if suffix.isSuffixOf text then some (text.take (text.length - suffix.length)) else none

def parse_plain_missing_item (line : Bytes) : Option String := do
  let text ← Text.from_utf8 line
  let text := (text.toList.reverse.dropWhile (fun c => c == '\r' || c == '\n')).reverse
  let item ← strip_suffix_text text " does not exist, skipping".toList
  if item.isEmpty then none else some (String.ofList item)

def WireMessage.progress (message : WireMessage) : BackupProgress where
  percent_done := (message.percent_done.filter Float.isFinite).map
    (fun percent => ((if percent < 0 then 0 else if 1 < percent then 1 else percent) * 100).round.toUInt8)
  files_done := message.files_done
  total_files := message.total_files
  bytes_done := message.bytes_done
  total_bytes := message.total_bytes
  error_count := message.error_count

def WireMessage.backup_summary (message : WireMessage) : BackupSummary where
  files_processed := message.total_files_processed
  bytes_processed := message.total_bytes_processed
  data_added := message.data_added
  snapshot_id := message.snapshot_id

def WireMessage.event (message : WireMessage) : Option OutputEvent :=
  if message.message_type = "status" then some (.Progress message.progress)
  else if message.message_type = "summary" then some (.Summary message.backup_summary)
  else if message.message_type = "error" then
    let error_message := message.error.getD ""
    if is_vss_fallback_error error_message then some .VssFallback
    else if is_vss_cleanup_error error_message then some .VssCleanupFailed
    else some (message.item.elim .FailureItemOmitted .FailureItem)
  else none

def parse_output_event (d : Decoder) (line : Bytes) : Except Unit (Option OutputEvent) :=
  match parse_plain_missing_item line with
  | some item => .ok (some (.FailureItem item))
  | none => match d.from_slice line with
    | some message => .ok message.event
    | none => .error ()

/-! ## Collecting them -/

/-- `char::is_control`. -/
def is_control (c : Char) : Bool := c.toNat < 0x20 || (0x7f ≤ c.toNat && c.toNat ≤ 0x9f)

def is_safe_backup_failed_item (item : String) : Bool :=
  !Text.is_empty item && Text.len item ≤ MAX_BACKUP_FAILED_ITEM_BYTES &&
    !item.toList.any (fun c => is_control c || (0x202a ≤ c.toNat && c.toNat ≤ 0x202e) ||
      (0x2066 ≤ c.toNat && c.toNat ≤ 0x2069))

structure BackupFailureDetails where
  items : List String := []
  omitted : UInt64 := 0

/-- `u64::saturating_add`. -/
def saturating_add (a b : UInt64) : UInt64 := if a.toNat + b.toNat < 2 ^ 64 then a + b else 0xffffffffffffffff

def BackupFailureDetails.push (details : BackupFailureDetails) (item : String) : BackupFailureDetails :=
  if details.items.contains item then details
  else if !is_safe_backup_failed_item item || details.items.length ≥ MAX_BACKUP_FAILED_ITEMS then
    { details with omitted := saturating_add details.omitted 1 }
  else { details with items := details.items ++ [item] }

def BackupFailureDetails.merge (details other : BackupFailureDetails) : BackupFailureDetails :=
  let pushed := other.items.foldl push details
  { pushed with omitted := saturating_add pushed.omitted other.omitted }

structure ParsedOutput where
  summary : Option BackupSummary := none
  invalid_message : Bool := false
  failure_details : BackupFailureDetails := {}
  vss_fallback : Bool := false
  vss_cleanup_failed : Bool := false

/-- One turn of the loop of `read_json_output`. The progress goes to a channel of its own. -/
def ParsedOutput.record (d : Decoder) (parsed : ParsedOutput) (valid : Bool) (line : Bytes) : ParsedOutput :=
  if !valid then { parsed with invalid_message := true }
  else match parse_output_event d line with
    | .ok (some (.Progress _)) => parsed
    | .ok (some (.Summary summary)) => { parsed with summary := some summary }
    | .ok (some (.FailureItem item)) => { parsed with failure_details := parsed.failure_details.push item }
    | .ok (some .FailureItemOmitted) => { parsed with failure_details := { parsed.failure_details with
        omitted := saturating_add parsed.failure_details.omitted 1 } }
    | .ok (some .VssFallback) => { parsed with vss_fallback := true }
    | .ok (some .VssCleanupFailed) => { parsed with vss_cleanup_failed := true }
    | .ok none => parsed
    | .error () => { parsed with invalid_message := true }

/-- The loop of `read_json_output`, for at most `fuel` lines. -/
def read_json_output_loop (d : Decoder) : Nat → BufReader → ParsedOutput → ParsedOutput
  | 0, _, parsed => parsed
  | fuel + 1, reader, parsed =>
    let read := read_bounded_line reader
    match read.valid with
    | none => parsed
    | some valid => read_json_output_loop d fuel read.reader (parsed.record d valid read.line)

/-- `read_json_output`. A stream has no more lines than bytes. -/
def read_json_output (d : Decoder) (reader : BufReader) : ParsedOutput :=
  read_json_output_loop d (reader.bytes.length + 1) reader {}

/-- What a `PrefixCapturingReader` keeps of what goes through it. -/
def captured_stderr (limit : Nat) (reader : BufReader) : Bytes :=
  reader.foldl (fun captured chunk => captured ++ chunk.bytes.take (limit - captured.length)) []

/-! ## The outcome -/

namespace BackupOutcome

def success (summary : BackupSummary) : BackupOutcome where
  kind := .Succeeded
  summary := some summary
  warning_code := none
  failed_items := []
  failed_items_omitted := 0

def warnings (summary : BackupSummary) (code : String) (failure_details : BackupFailureDetails) : BackupOutcome where
  kind := .SucceededWithWarnings
  summary := some summary
  warning_code := some code
  failed_items := failure_details.items
  failed_items_omitted := failure_details.omitted

def cancelled : BackupOutcome where
  kind := .Cancelled
  summary := none
  warning_code := none
  failed_items := []
  failed_items_omitted := 0

end BackupOutcome

/-- The failure of a process that exited with a code other than those for a backup. -/
def exit_failure (d : Decoder) (code : Int) (stderr : Bytes) : BackupOutcome :=
  .failed ((classify_stderr (d.from_utf8_lossy stderr)).getD ("restic_exit_" ++ toString code))

/-- `finish_outcome`. An output that could not be read is `none`. -/
def finish_outcome (d : Decoder) (code : Option Int) (output stderr_output : Option ParsedOutput) (stderr : Bytes)
    (known_vss_fallback : Bool) : BackupOutcome :=
  if code = some 130 then .cancelled
  else match output with
    | none => .failed "restic_output_invalid"
    | some parsed => match parsed.summary with
      | none => match code with
        | some 0 => if parsed.invalid_message then .failed "restic_output_invalid" else .failed "restic_summary_missing"
        | some code => exit_failure d code stderr
        | none => .failed "restic_terminated"
      | some summary =>
        let failure_details := match stderr_output with
          | some stderr_output => parsed.failure_details.merge stderr_output.failure_details
          | none => parsed.failure_details
        let vss_fallback := parsed.vss_fallback || known_vss_fallback || stderr_output.any (·.vss_fallback)
        let vss_cleanup_failed := parsed.vss_cleanup_failed || stderr_output.any (·.vss_cleanup_failed)
        match code with
        | some 0 =>
          if vss_fallback && vss_cleanup_failed then
            .warnings summary "restic_vss_fallback_and_cleanup_failed" failure_details
          else if vss_fallback then .warnings summary "restic_vss_fallback" failure_details
          else if vss_cleanup_failed then .warnings summary "restic_vss_cleanup_failed" failure_details
          else .success summary
        | some 3 =>
          if vss_fallback && vss_cleanup_failed then
            .warnings summary "restic_vss_fallback_partial_source_and_cleanup_failed" failure_details
          else if vss_fallback then .warnings summary "restic_vss_fallback_and_partial_source" failure_details
          else if vss_cleanup_failed then
            .warnings summary "restic_partial_source_and_vss_cleanup_failed" failure_details
          else .warnings summary "restic_partial_source" failure_details
        | some code => exit_failure d code stderr
        | none => .failed "restic_terminated"

/-- A restic process that has exited, and the two streams as they were read. -/
structure ResticExit where
  code : Option Int
  stdout : BufReader
  stderr : BufReader

/-- The end of `execute_invocation`, for a process that was neither cancelled nor lost. -/
def ResticExit.outcome (d : Decoder) (exit : ResticExit) (known_vss_fallback : Bool) : BackupOutcome :=
  finish_outcome d exit.code (some (read_json_output d exit.stdout)) (some (read_json_output d exit.stderr))
    (captured_stderr MAX_STDERR_BYTES exit.stderr) known_vss_fallback

/-! ## Lines, however they are read -/

section Reading

variable (available : Chunk) (rest reader : BufReader)

theorem BufReader.bytes_cons : BufReader.bytes (available :: rest) = available.bytes ++ rest.bytes := rfl

theorem BufReader.bytes_consume (n : Nat) :
    (BufReader.consume available n rest).bytes = available.bytes.drop n ++ rest.bytes := by
  unfold BufReader.consume
  split
  · rfl
  · rename_i h
    rw [not_not.1 h]
    rfl

theorem BufReader.bytes_ne_nil : BufReader.bytes (available :: rest) ≠ [] := by
  rw [BufReader.bytes_cons]
  exact List.append_ne_nil_of_left_ne_nil available.nonempty _

/-- The loop has read `read` of a line that has not ended. -/
def HasRead (read line : Bytes) (oversized : Bool) : Prop :=
  if oversized then MAX_JSON_LINE_BYTES < read.length else line = read ∧ read.length ≤ MAX_JSON_LINE_BYTES

/-- A further piece of the line. -/
theorem HasRead.step {read line : Bytes} {oversized : Bool} (h : HasRead read line oversized) (piece : Bytes) :
    HasRead (read ++ piece) (if !oversized && line.length + piece.length ≤ MAX_JSON_LINE_BYTES then line ++ piece else line)
      (!(!oversized && decide (line.length + piece.length ≤ MAX_JSON_LINE_BYTES))) := by
  unfold HasRead at h ⊢
  cases oversized with
  | true =>
    simp only [if_true] at h
    simp only [Bool.not_true, Bool.false_and, Bool.not_false, if_true, List.length_append]
    omega
  | false =>
    simp only [Bool.false_eq_true, if_false] at h
    obtain ⟨rfl, hle⟩ := h
    by_cases hfits : line.length + piece.length ≤ MAX_JSON_LINE_BYTES
    · simp [hfits]
    · simp only [hfits, decide_false, Bool.and_false, Bool.not_false, if_true, List.length_append]
      omega

/-- Once the line has ended, it is kept when it is short enough. -/
theorem HasRead.fits {read line : Bytes} {oversized : Bool} (h : HasRead read line oversized) :
    oversized = !decide (read.length ≤ MAX_JSON_LINE_BYTES) ∧ (read.length ≤ MAX_JSON_LINE_BYTES → line = read) := by
  unfold HasRead at h
  cases oversized with
  | true =>
    simp only [if_true] at h
    have hlong : ¬read.length ≤ MAX_JSON_LINE_BYTES := by omega
    exact ⟨by simp [hlong], fun hle => absurd hle hlong⟩
  | false =>
    simp only [Bool.false_eq_true, if_false] at h
    exact ⟨by simp [h.2], fun _ => h.1⟩

/-- The line ends in what is available, or goes on after it. -/
theorem Chunk.consumed_cases :
    (∃ line after, available.bytes = line ++ LF :: after ∧ LF ∉ line ∧ available.consumed = line.length + 1) ∨
    (LF ∉ available.bytes ∧ available.consumed = available.bytes.length) := by
  unfold Chunk.consumed
  by_cases hstop : LF ∈ available.bytes
  · obtain ⟨line, after, heq, hline⟩ := List.eq_append_cons_of_mem hstop
    have hnone : line.findIdx? (· == LF) = none := by
      rw [List.findIdx?_eq_none_iff]
      intro byte hbyte
      rw [beq_eq_false_iff_ne]
      exact fun hlf => hline (hlf ▸ hbyte)
    refine .inl ⟨line, after, heq, hline, ?_⟩
    rw [heq, List.findIdx?_append, hnone, List.findIdx?_cons]
    simp
  · have hnone : available.bytes.findIdx? (· == LF) = none := by
      rw [List.findIdx?_eq_none_iff]
      intro byte hbyte
      rw [beq_eq_false_iff_ne]
      exact fun hlf => hstop (hlf ▸ hbyte)
    refine .inr ⟨hstop, ?_⟩
    rw [hnone]

/-- The loop reads to the end of the line, and no further. -/
theorem read_bounded_line_loop_spec {read line : Bytes} {oversized read_any : Bool} (h : HasRead read line oversized)
    (hany : reader ≠ [] ∨ read_any = true) :
    let whole := read ++ (Lines.split LF reader.bytes).1
    (read_bounded_line_loop line oversized read_any reader).valid = some (decide (whole.length ≤ MAX_JSON_LINE_BYTES)) ∧
    (whole.length ≤ MAX_JSON_LINE_BYTES → (read_bounded_line_loop line oversized read_any reader).line = whole) ∧
    (read_bounded_line_loop line oversized read_any reader).reader.bytes = (Lines.split LF reader.bytes).2 := by
  induction reader generalizing read line oversized read_any with
  | nil =>
    rcases hany with hnot | rfl
    · exact absurd rfl hnot
    · obtain ⟨hoversized, hline⟩ := h.fits
      have hwhole : read ++ (Lines.split LF (BufReader.bytes [])).1 = read := List.append_nil read
      rw [hwhole]
      refine ⟨?_, hline, rfl⟩
      simp [read_bounded_line_loop, hoversized]
  | cons available rest ih =>
    rw [BufReader.bytes_cons]
    rcases available.consumed_cases with ⟨body, after, hbytes, hbody, hconsumed⟩ | ⟨hstop, hconsumed⟩
    · have htake : available.bytes.take available.consumed = body ++ [LF] := by
        rw [hbytes, hconsumed, List.take_append, List.take_of_length_le (Nat.le_succ _)]
        simp
      have hdrop : available.bytes.drop available.consumed = after := by
        rw [hbytes, hconsumed, List.drop_append, List.drop_of_length_le (Nat.le_succ _)]
        simp
      have hended : (available.bytes[available.consumed - 1]? == some LF) = true := by
        rw [hconsumed, hbytes]
        simp
      have hlength : available.consumed = (body ++ [LF]).length := by
        rw [hconsumed, List.length_append]
        rfl
      obtain ⟨hoversized, hline⟩ := (h.step (body ++ [LF])).fits
      have hsplit : Lines.split LF (available.bytes ++ BufReader.bytes rest) =
          (body ++ [LF], after ++ BufReader.bytes rest) := by
        rw [hbytes, List.append_assoc, List.cons_append, Lines.split_append_cons LF hbody]
      rw [hsplit]
      rw [read_bounded_line_loop]
      dsimp only
      rw [if_pos hended, htake, hlength]
      refine ⟨?_, hline, ?_⟩
      · rw [Bool.not_inj hoversized]
      · rw [BufReader.bytes_consume, ← hlength, hdrop]
    · have htake : available.bytes.take available.consumed = available.bytes := by
        rw [hconsumed, List.take_length]
      have hended : ¬(available.bytes[available.consumed - 1]? == some LF) = true := by
        rw [beq_iff_eq]
        exact fun hlf => hstop (List.mem_of_getElem? hlf)
      have hsplit := Lines.split_append LF hstop (BufReader.bytes rest)
      have hstep := h.step available.bytes
      have hrest := @ih _ _ _ true hstep (.inr rfl)
      rw [hsplit]
      rw [read_bounded_line_loop]
      dsimp only
      rw [if_neg hended, htake, hconsumed, ← List.append_assoc]
      exact hrest

/-- A line is read as it stands in the stream, or reported as too long. -/
theorem read_bounded_line_spec (h : reader.bytes ≠ []) :
    (read_bounded_line reader).valid =
      some (decide ((Lines.split LF reader.bytes).1.length ≤ MAX_JSON_LINE_BYTES)) ∧
    ((Lines.split LF reader.bytes).1.length ≤ MAX_JSON_LINE_BYTES →
      (read_bounded_line reader).line = (Lines.split LF reader.bytes).1) ∧
    (read_bounded_line reader).reader.bytes = (Lines.split LF reader.bytes).2 := by
  have hne : reader ≠ [] := fun hnil => h (by rw [hnil]; rfl)
  have hread : HasRead [] [] false := ⟨rfl, Nat.zero_le _⟩
  exact read_bounded_line_loop_spec reader hread (.inl hne)

end Reading

/-! ## What the messages say -/

theorem as_bytes_breaks {breaks : List Char} (h : ∀ c ∈ breaks, (c == '\r' || c == '\n') = true) :
    ∀ byte ∈ Text.as_bytes (String.ofList breaks), byte = 0x0a ∨ byte = 0x0d := by
  induction breaks with
  | nil =>
    intro byte hbyte
    cases hbyte
  | cons c breaks ih =>
    intro byte hbyte
    have hc := h c List.mem_cons_self
    rw [show c :: breaks = [c] ++ breaks from rfl, Text.as_bytes_append] at hbyte
    rcases List.mem_append.1 hbyte with hbyte | hbyte
    · rcases Bool.or_eq_true_iff.1 hc with hc | hc
      · rw [beq_iff_eq.1 hc] at hbyte
        exact .inr (List.mem_singleton.1 hbyte)
      · rw [beq_iff_eq.1 hc] at hbyte
        exact .inl (List.mem_singleton.1 hbyte)
    · exact ih (fun c hc => h c (List.mem_cons_of_mem _ hc)) byte hbyte

/-- A plain line about a missing item ends in a letter, and line breaks. -/
theorem plain_missing_item_ends {line : Bytes} {item : String} (h : parse_plain_missing_item line = some item) :
    ∃ text breaks, line = text ++ 0x67 :: breaks ∧ ∀ byte ∈ breaks, byte = 0x0a ∨ byte = 0x0d := by
  obtain ⟨text, htext, h⟩ := Option.bind_eq_some_iff.1 h
  obtain ⟨stripped, hstripped, -⟩ := Option.bind_eq_some_iff.1 h
  unfold strip_suffix_text at hstripped
  split at hstripped
  · rename_i hsuffix
    obtain ⟨front, hfront⟩ := List.isSuffixOf_iff_suffix.1 hsuffix
    let isBreak : Char → Bool := fun c => c == '\r' || c == '\n'
    let breaks := (text.toList.reverse.takeWhile isBreak).reverse
    have hchars : text.toList = front ++ " does not exist, skipping".toList ++ breaks := by
      rw [hfront, ← List.reverse_append, List.takeWhile_append_dropWhile, List.reverse_reverse]
    have hbytes := Text.as_bytes_of_from_utf8 htext
    rw [← @String.ofList_toList text, hchars, Text.as_bytes_append, Text.as_bytes_append] at hbytes
    have hword : Text.as_bytes (String.ofList " does not exist, skipping".toList) =
        Text.as_bytes " does not exist, skippin" ++ [0x67] := by decide
    refine ⟨Text.as_bytes (String.ofList front) ++ Text.as_bytes " does not exist, skippin",
      Text.as_bytes (String.ofList breaks), ?_, as_bytes_breaks fun c hc => ?_⟩
    · rw [← hbytes, hword]
      simp
    · have hmem : c ∈ text.toList.reverse.takeWhile isBreak := List.mem_reverse.1 hc
      have hbreak : isBreak c = true := List.mem_takeWhile_imp hmem
      exact hbreak
  · cases hstripped

/-- No message is mistaken for such a line. -/
theorem Decoder.not_plain (d : Decoder) {line : Bytes} {message : WireMessage} (h : d.from_slice line = some message) :
    parse_plain_missing_item line = none := by
  cases hplain : parse_plain_missing_item line with
  | none => rfl
  | some item =>
    obtain ⟨value, close, white, heq, hclose, hwhite⟩ := d.closes line message h
    obtain ⟨text, breaks, heq', hbreaks⟩ := plain_missing_item_ends hplain
    let isWhite : UInt8 → Bool := fun byte => byte == 0x20 || byte == 0x09 || byte == 0x0a || byte == 0x0d
    have hletter : close = 0x67 := by
      refine @Lines.last_without _ isWhite _ _ _ _ _ _ (heq.symm.trans heq') ?_ rfl ?_ ?_
      · rcases hclose with rfl | rfl
        · rfl
        · rfl
      · intro byte hbyte
        rcases hwhite byte hbyte with rfl | rfl | rfl | rfl <;> rfl
      · intro byte hbyte
        rcases hbreaks byte hbyte with rfl | rfl <;> rfl
    rw [hletter] at hclose
    rcases hclose with hclose | hclose
    · exact absurd hclose (by decide)
    · exact absurd hclose (by decide)

/-- The summary that a message carries. -/
def WireMessage.summary (message : WireMessage) : Option BackupSummary :=
  if message.message_type = "summary" then some message.backup_summary else none

/-- The message reports that a VSS snapshot could not be created. -/
def WireMessage.reports_fallback (message : WireMessage) : Bool :=
  message.message_type == "error" && is_vss_fallback_error (message.error.getD "")

/-- The message reports that a VSS snapshot could not be deleted, and nothing worse. -/
def WireMessage.reports_cleanup (message : WireMessage) : Bool :=
  message.message_type == "error" && !is_vss_fallback_error (message.error.getD "") &&
    is_vss_cleanup_error (message.error.getD "")

/-- The message of a line, unless it is too long. The terminator is part of the line. -/
def Decoder.message (d : Decoder) (line : Bytes) : Option WireMessage :=
  if line.length ≤ MAX_JSON_LINE_BYTES then d.from_slice line else none

/-- The messages of a stream. -/
def Decoder.messages (d : Decoder) (stream : Bytes) : List WireMessage := (Lines.lines LF stream).filterMap d.message

/-- What the outcome of a backup is decided on. -/
structure Findings where
  summary : Option BackupSummary
  vss_fallback : Bool
  vss_cleanup_failed : Bool

def Findings.add (findings : Findings) (message : WireMessage) : Findings where
  summary := message.summary.or findings.summary
  vss_fallback := findings.vss_fallback || message.reports_fallback
  vss_cleanup_failed := findings.vss_cleanup_failed || message.reports_cleanup

def ParsedOutput.findings (parsed : ParsedOutput) : Findings :=
  ⟨parsed.summary, parsed.vss_fallback, parsed.vss_cleanup_failed⟩

/-- A message is recorded for what it says. -/
theorem record_message (d : Decoder) (parsed : ParsedOutput) {line : Bytes} {message : WireMessage}
    (h : d.from_slice line = some message) : (parsed.record d true line).findings = parsed.findings.add message := by
  have hevent : parse_output_event d line = .ok message.event := by
    unfold parse_output_event
    rw [d.not_plain h, h]
  unfold ParsedOutput.record
  rw [hevent]
  unfold WireMessage.event Findings.add ParsedOutput.findings WireMessage.summary WireMessage.reports_fallback
    WireMessage.reports_cleanup
  by_cases hstatus : message.message_type = "status"
  · simp [hstatus]
  · by_cases hsummary : message.message_type = "summary"
    · simp [hsummary]
    · by_cases herror : message.message_type = "error"
      · by_cases hfallback : is_vss_fallback_error (message.error.getD "") = true
        · simp [herror, hfallback]
        · by_cases hcleanup : is_vss_cleanup_error (message.error.getD "") = true
          · simp [herror, hfallback, hcleanup]
          · cases hitem : message.item <;> simp [herror, hfallback, hcleanup]
      · simp [hstatus, hsummary, herror]

/-- A line of the stream, as the loop of `read_json_output` records it. -/
def ParsedOutput.record_line (d : Decoder) (parsed : ParsedOutput) (line : Bytes) : ParsedOutput :=
  parsed.record d (decide (line.length ≤ MAX_JSON_LINE_BYTES)) line

/-- Nothing else is found in a line. -/
theorem record_findings (d : Decoder) (parsed : ParsedOutput) (line : Bytes) :
    (parsed.record_line d line).findings = (d.message line).elim parsed.findings parsed.findings.add := by
  unfold ParsedOutput.record_line Decoder.message
  by_cases hlength : line.length ≤ MAX_JSON_LINE_BYTES
  · rw [if_pos hlength, decide_eq_true hlength]
    cases hmessage : d.from_slice line with
    | some message => exact record_message d parsed hmessage
    | none =>
      unfold ParsedOutput.record parse_output_event
      cases parse_plain_missing_item line with
      | some item => rfl
      | none =>
        rw [hmessage]
        rfl
  · rw [if_neg hlength, decide_eq_false hlength]
    rfl

/-- The loop ends with the stream, and has then recorded its lines, however they were read. -/
theorem read_json_output_loop_eq (d : Decoder) (fuel : Nat) {reader : BufReader} (parsed : ParsedOutput)
    (h : reader.bytes.length < fuel) :
    read_json_output_loop d fuel reader parsed =
      (Lines.lines LF reader.bytes).foldl (ParsedOutput.record_line d) parsed := by
  induction fuel generalizing reader parsed with
  | zero => exact absurd h (Nat.not_lt_zero _)
  | succ fuel ih =>
    unfold read_json_output_loop
    dsimp only
    by_cases hbytes : reader.bytes = []
    · have hreader : reader = [] := by
        cases reader with
        | nil => rfl
        | cons available rest => exact absurd hbytes (BufReader.bytes_ne_nil available rest)
      rw [hreader]
      rfl
    · obtain ⟨hvalid, hline, hrest⟩ := read_bounded_line_spec reader hbytes
      have hlength := Lines.split_length LF reader.bytes
      have hpos := Lines.split_pos LF hbytes
      have hrecord : parsed.record d (decide ((Lines.split LF reader.bytes).1.length ≤ MAX_JSON_LINE_BYTES))
          (read_bounded_line reader).line = parsed.record_line d (Lines.split LF reader.bytes).1 := by
        unfold ParsedOutput.record_line
        by_cases hfits : (Lines.split LF reader.bytes).1.length ≤ MAX_JSON_LINE_BYTES
        · rw [hline hfits]
        · rw [decide_eq_false hfits]
          rfl
      rw [hvalid]
      dsimp only
      rw [ih _ (by rw [hrest]; omega), hrest, hrecord, Lines.lines_eq_cons LF hbytes, List.foldl_cons]

theorem read_json_output_eq (d : Decoder) (reader : BufReader) :
    read_json_output d reader = (Lines.lines LF reader.bytes).foldl (ParsedOutput.record_line d) {} :=
  read_json_output_loop_eq d _ {} (Nat.lt_succ_self _)

theorem foldl_record_findings (d : Decoder) (lines : List Bytes) (parsed : ParsedOutput) :
    (lines.foldl (ParsedOutput.record_line d) parsed).findings =
      (lines.filterMap d.message).foldl Findings.add parsed.findings := by
  induction lines generalizing parsed with
  | nil => rfl
  | cons line lines ih =>
    rw [List.foldl_cons, ih, record_findings, List.filterMap_cons]
    cases d.message line with
    | none => rfl
    | some message => rfl

theorem read_json_output_findings (d : Decoder) (reader : BufReader) :
    (read_json_output d reader).findings = (d.messages reader.bytes).foldl Findings.add ⟨none, false, false⟩ := by
  rw [read_json_output_eq, foldl_record_findings]
  rfl

theorem foldl_add (messages : List WireMessage) (findings : Findings) :
    messages.foldl Findings.add findings =
      ⟨(messages.filterMap WireMessage.summary).getLast?.or findings.summary,
        findings.vss_fallback || messages.any WireMessage.reports_fallback,
        findings.vss_cleanup_failed || messages.any WireMessage.reports_cleanup⟩ := by
  induction messages generalizing findings with
  | nil =>
    rw [List.foldl_nil]
    simp
  | cons message messages ih =>
    rw [List.foldl_cons, ih]
    have hsummary : (messages.filterMap WireMessage.summary).getLast?.or (message.summary.or findings.summary) =
        ((message :: messages).filterMap WireMessage.summary).getLast?.or findings.summary := by
      rw [List.filterMap_cons]
      cases message.summary with
      | none => rw [Option.none_or]
      | some summary =>
        rw [List.getLast?_cons]
        cases (messages.filterMap WireMessage.summary).getLast? with
        | none => rfl
        | some last => rfl
    simp only [Findings.add, hsummary, List.any_cons, Bool.or_assoc]

/-! ## The outcome -/

/-- The outcome under which a run is recorded. -/
def BackupOutcomeKind.run_outcome : BackupOutcomeKind → BackupRunOutcome
  | .Succeeded => .Succeeded
  | .SucceededWithWarnings => .SucceededWithWarnings
  | .Failed _ => .Failed
  | .Cancelled => .Cancelled

/-- What an outcome says about the backup, apart from the items and from the reason of a failure. -/
def BackupOutcome.verdict (outcome : BackupOutcome) : BackupRunOutcome × Option BackupSummary × Option String :=
  (outcome.kind.run_outcome, outcome.summary, outcome.warning_code)

/-- The warning of a backup with a summary, by the exit code and the two conditions. -/
def warning_of (partial_source vss_fallback vss_cleanup_failed : Bool) : Option String :=
  match partial_source, vss_fallback, vss_cleanup_failed with
  | false, true, true => some "restic_vss_fallback_and_cleanup_failed"
  | false, true, false => some "restic_vss_fallback"
  | false, false, true => some "restic_vss_cleanup_failed"
  | false, false, false => none
  | true, true, true => some "restic_vss_fallback_partial_source_and_cleanup_failed"
  | true, true, false => some "restic_vss_fallback_and_partial_source"
  | true, false, true => some "restic_partial_source_and_vss_cleanup_failed"
  | true, false, false => some "restic_partial_source"

/-- The verdict on a process whose output has a summary. -/
def verdict_of (code : Option Int) (summary : BackupSummary) (vss_fallback vss_cleanup_failed : Bool) :
    BackupRunOutcome × Option BackupSummary × Option String :=
  if code = some 130 then (.Cancelled, none, none)
  else if code = some 0 ∨ code = some 3 then
    let warning := warning_of (code = some 3) vss_fallback vss_cleanup_failed
    (if warning.isSome then .SucceededWithWarnings else .Succeeded, some summary, warning)
  else (.Failed, none, none)

/-- Without a summary nothing is reported as a success. -/
theorem finish_outcome_without_summary (d : Decoder) (code : Option Int) {parsed : ParsedOutput}
    (stderr_output : Option ParsedOutput) (stderr : Bytes) (known : Bool) (h : parsed.summary = none) :
    (finish_outcome d code (some parsed) stderr_output stderr known).kind.succeeded = false := by
  unfold finish_outcome
  split
  · rfl
  · dsimp only
    rw [h]
    dsimp only
    split
    · split
      · rfl
      · rfl
    · rfl
    · rfl

/-- With one, the verdict is about the exit code and the two conditions, and the details go with a warning. -/
theorem finish_outcome_verdict (d : Decoder) (code : Option Int) {parsed : ParsedOutput} {summary : BackupSummary}
    (other : ParsedOutput) (stderr : Bytes) (known : Bool) (h : parsed.summary = some summary) :
    (finish_outcome d code (some parsed) (some other) stderr known).verdict =
      verdict_of code summary (parsed.vss_fallback || known || other.vss_fallback)
        (parsed.vss_cleanup_failed || other.vss_cleanup_failed) ∧
    ((finish_outcome d code (some parsed) (some other) stderr known).kind = .SucceededWithWarnings →
      let outcome := finish_outcome d code (some parsed) (some other) stderr known
      ⟨outcome.failed_items, outcome.failed_items_omitted⟩ = parsed.failure_details.merge other.failure_details) := by
  unfold finish_outcome verdict_of
  by_cases hcancelled : code = some 130
  · rw [if_pos hcancelled, if_pos hcancelled]
    exact ⟨rfl, nofun⟩
  · rw [if_neg hcancelled, if_neg hcancelled]
    dsimp only [Option.any_some]
    rw [h]
    dsimp only
    generalize (parsed.vss_fallback || known || other.vss_fallback) = fallback
    generalize (parsed.vss_cleanup_failed || other.vss_cleanup_failed) = cleanup
    split
    · cases fallback <;> cases cleanup <;> first | exact ⟨rfl, fun _ => rfl⟩ | exact ⟨rfl, nofun⟩
    · cases fallback <;> cases cleanup <;> exact ⟨rfl, fun _ => rfl⟩
    · rename_i code hzero hthree
      rw [if_neg]
      · exact ⟨rfl, nofun⟩
      · rintro (hcode | hcode)
        · exact hzero (Option.some.inj hcode)
        · exact hthree (Option.some.inj hcode)
    · exact ⟨rfl, nofun⟩

namespace ResticExit

variable (d : Decoder) (exit : ResticExit)

/-- The summaries among the messages of standard output. -/
def summaries : List BackupSummary := (d.messages exit.stdout.bytes).filterMap WireMessage.summary

/-- The messages of both streams. -/
def messages : List WireMessage := d.messages exit.stdout.bytes ++ d.messages exit.stderr.bytes

theorem stdout_summary : (read_json_output d exit.stdout).summary = (exit.summaries d).getLast? := by
  have hfindings := read_json_output_findings d exit.stdout
  rw [foldl_add] at hfindings
  exact (congrArg Findings.summary hfindings).trans (Option.or_none)

theorem read_fallback (reader : BufReader) :
    (read_json_output d reader).vss_fallback = (d.messages reader.bytes).any WireMessage.reports_fallback := by
  have hfindings := read_json_output_findings d reader
  rw [foldl_add] at hfindings
  exact congrArg Findings.vss_fallback hfindings

theorem read_cleanup (reader : BufReader) :
    (read_json_output d reader).vss_cleanup_failed = (d.messages reader.bytes).any WireMessage.reports_cleanup := by
  have hfindings := read_json_output_findings d reader
  rw [foldl_add] at hfindings
  exact congrArg Findings.vss_cleanup_failed hfindings

/-- The verdict on a process, from its messages. -/
theorem outcome_verdict {summary : BackupSummary} (known : Bool) (h : (exit.summaries d).getLast? = some summary) :
    (exit.outcome d known).verdict = verdict_of exit.code summary
      (known || (exit.messages d).any WireMessage.reports_fallback)
      ((exit.messages d).any WireMessage.reports_cleanup) := by
  have hsummary := (exit.stdout_summary d).trans h
  unfold outcome
  rw [(finish_outcome_verdict d _ _ _ _ hsummary).1, read_fallback, read_fallback, read_cleanup, read_cleanup]
  unfold messages
  rw [List.any_append, List.any_append, Bool.or_comm _ known, Bool.or_assoc]

/-- A success is reported with the last summary, and with the warning that its conditions ask for. -/
theorem succeeded_verdict {known : Bool} (h : (exit.outcome d known).kind.succeeded = true) :
    ∃ summary, (exit.summaries d).getLast? = some summary ∧ (exit.code = some 0 ∨ exit.code = some 3) ∧
      (exit.outcome d known).summary = some summary ∧
      (exit.outcome d known).warning_code = warning_of (exit.code = some 3)
        (known || (exit.messages d).any WireMessage.reports_fallback)
        ((exit.messages d).any WireMessage.reports_cleanup) := by
  cases hsummary : (exit.summaries d).getLast? with
  | none =>
    have hnot : (exit.outcome d known).kind.succeeded = false :=
      finish_outcome_without_summary d _ _ _ _ ((exit.stdout_summary d).trans hsummary)
    rw [h] at hnot
    cases hnot
  | some summary =>
    have hverdict := exit.outcome_verdict d known hsummary
    have hcode : exit.code = some 0 ∨ exit.code = some 3 := by
      by_contra hcode
      have houtcome := congrArg Prod.fst hverdict
      unfold verdict_of at houtcome
      rw [if_neg hcode] at houtcome
      have houtcome : (exit.outcome d known).kind.run_outcome = .Cancelled ∨
          (exit.outcome d known).kind.run_outcome = .Failed := by
        split at houtcome
        · exact .inl houtcome
        · exact .inr houtcome
      cases hkind : (exit.outcome d known).kind with
      | Succeeded | SucceededWithWarnings =>
        rw [hkind] at houtcome
        rcases houtcome with houtcome | houtcome
        · cases houtcome
        · cases houtcome
      | Failed _ | Cancelled =>
        rw [hkind] at h
        cases h
    have hnot : exit.code ≠ some 130 := by
      rintro hcancelled
      rw [hcancelled] at hcode
      rcases hcode with hcode | hcode
      · cases hcode
      · cases hcode
    unfold verdict_of at hverdict
    rw [if_neg hnot, if_pos hcode] at hverdict
    obtain ⟨-, hrest⟩ := Prod.mk.inj hverdict
    obtain ⟨hsummary', hwarning⟩ := Prod.mk.inj hrest
    exact ⟨summary, rfl, hcode, hsummary', hwarning⟩

/-- A warning about a snapshot that could not be created says so. -/
theorem warning_names_fallback (partial_source vss_cleanup_failed : Bool) :
    ∃ code, warning_of partial_source true vss_cleanup_failed = some code ∧ containsText code "vss_fallback" = true := by
  cases partial_source <;> cases vss_cleanup_failed <;> exact ⟨_, rfl, by decide +kernel⟩

theorem warning_names_cleanup (partial_source vss_fallback : Bool) :
    ∃ code, warning_of partial_source vss_fallback true = some code ∧ containsText code "cleanup_failed" = true := by
  cases partial_source <;> cases vss_fallback <;> exact ⟨_, rfl, by decide +kernel⟩

/-- What a reported success rests on: the exit code of a backup, and the last
summary on standard output. It names every VSS condition that a message of
either stream reports, and an exit code of 3 makes it one with warnings. With a
summary, nothing but the exit code and the messages of the streams decides on it:
not the pieces in which the streams are read, nor lines that are too long or no
messages. A line includes its terminator. -/
theorem success_has_evidence (known : Bool) :
    ((exit.outcome d known).kind.succeeded = true →
      (exit.code = some 0 ∨ exit.code = some 3) ∧
      ∃ summary, (exit.summaries d).getLast? = some summary ∧ (exit.outcome d known).summary = some summary) ∧
    ((exit.outcome d known).kind.succeeded = true → (exit.messages d).any WireMessage.reports_fallback = true →
      ∃ code, (exit.outcome d known).warning_code = some code ∧ containsText code "vss_fallback" = true) ∧
    ((exit.outcome d known).kind.succeeded = true → (exit.messages d).any WireMessage.reports_cleanup = true →
      ∃ code, (exit.outcome d known).warning_code = some code ∧ containsText code "cleanup_failed" = true) ∧
    (exit.code = some 3 → exit.summaries d ≠ [] →
      (exit.outcome d known).kind = .SucceededWithWarnings ∧ (exit.outcome d known).warning_code.isSome = true) ∧
    (∀ other : ResticExit, other.code = exit.code → exit.summaries d ≠ [] →
      d.messages other.stdout.bytes = d.messages exit.stdout.bytes →
      d.messages other.stderr.bytes = d.messages exit.stderr.bytes →
      (other.outcome d known).verdict = (exit.outcome d known).verdict) := by
  have last (h : exit.summaries d ≠ []) : ∃ summary, (exit.summaries d).getLast? = some summary :=
    Option.isSome_iff_exists.1 (List.getLast?_isSome.2 h)
  refine ⟨fun h => ?_, fun h hfallback => ?_, fun h hcleanup => ?_, fun hcode hsummaries => ?_,
    fun other hcode hsummaries hstdout hstderr => ?_⟩
  · obtain ⟨summary, hsummary, hcode, hreported, -⟩ := exit.succeeded_verdict d h
    exact ⟨hcode, summary, hsummary, hreported⟩
  · obtain ⟨summary, -, -, -, hwarning⟩ := exit.succeeded_verdict d h
    rw [hwarning, hfallback, Bool.or_true]
    exact warning_names_fallback _ _
  · obtain ⟨summary, -, -, -, hwarning⟩ := exit.succeeded_verdict d h
    rw [hwarning, hcleanup]
    exact warning_names_cleanup _ _
  · obtain ⟨summary, hsummary⟩ := last hsummaries
    have hverdict := exit.outcome_verdict d known hsummary
    have hwarns (fallback cleanup : Bool) : ∃ code, verdict_of (some 3) summary fallback cleanup =
        (.SucceededWithWarnings, some summary, some code) := by
      cases fallback <;> cases cleanup <;> exact ⟨_, rfl⟩
    obtain ⟨code, hof⟩ := hwarns (known || (exit.messages d).any WireMessage.reports_fallback)
      ((exit.messages d).any WireMessage.reports_cleanup)
    rw [hcode, hof] at hverdict
    obtain ⟨hkind, hrest⟩ := Prod.mk.inj hverdict
    constructor
    · cases houtcome : (exit.outcome d known).kind with
      | SucceededWithWarnings => rfl
      | _ =>
        rw [houtcome] at hkind
        cases hkind
    · rw [(Prod.mk.inj hrest).2]
      rfl
  · obtain ⟨summary, hsummary⟩ := last hsummaries
    have hmessages : other.messages d = exit.messages d := by
      unfold messages
      rw [hstdout, hstderr]
    have hother : (other.summaries d).getLast? = some summary := by
      rw [← hsummary]
      unfold summaries
      rw [hstdout]
    rw [other.outcome_verdict d known hother, exit.outcome_verdict d known hsummary, hcode, hmessages]

namespace SnapshotFailed

def summaryLine : Bytes := Text.as_bytes "\x7b\"message_type\":\"summary\"\x7d\n"

def errorLine : Bytes := Text.as_bytes
  "\x7b\"message_type\":\"error\",\"error\":\x7b\"message\":\"failed to create snapshot for [C:]\"\x7d\x7d\n"

/-- A library that knows the two lines. -/
def decoder : Decoder where
  from_slice line :=
    if line = summaryLine then some { message_type := "summary" }
    else if line = errorLine then some { message_type := "error", error := some "failed to create snapshot for [C:]" }
    else none
  from_utf8_lossy _ := ""
  closes line message h := by
    have closed (text : Bytes) (line : Bytes) (heq : line = text ++ 0x7d :: [0x0a]) : ClosesValue line :=
      ⟨text, 0x7d, [0x0a], heq, .inl rfl, fun byte hbyte => .inr (.inr (.inl (List.mem_singleton.1 hbyte)))⟩
    by_cases hsummary : line = summaryLine
    · exact closed (Text.as_bytes "\x7b\"message_type\":\"summary\"") line (hsummary.trans (by decide))
    · by_cases herror : line = errorLine
      · exact closed (Text.as_bytes
          "\x7b\"message_type\":\"error\",\"error\":\x7b\"message\":\"failed to create snapshot for [C:]\"\x7d") line
          (herror.trans (by decide))
      · rw [if_neg hsummary, if_neg herror] at h
        cases h

/-- The error comes on the other stream, in two pieces. -/
def ended : ResticExit where
  code := some 0
  stdout := [⟨Text.as_bytes "no message\n" ++ summaryLine, by decide⟩]
  stderr := [⟨errorLine.take 20, by decide⟩, ⟨errorLine.drop 20, by decide⟩]

theorem fallback_is_reported : (ended.outcome decoder false).kind = .SucceededWithWarnings ∧
    ∃ code, (ended.outcome decoder false).warning_code = some code ∧ containsText code "vss_fallback" = true := by
  have hkind : (ended.outcome decoder false).kind = .SucceededWithWarnings := by decide +kernel
  have hsucceeded : (ended.outcome decoder false).kind.succeeded = true := by rw [hkind]; rfl
  exact ⟨hkind, (success_has_evidence decoder ended false).2.1 hsucceeded (by decide +kernel)⟩

end SnapshotFailed

end ResticExit

end ResticPal
