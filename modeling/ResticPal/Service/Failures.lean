import ResticPal.Service.Output
/-!
# The source failures that an outcome shows

A backup can succeed although restic could not read some of its sources: it
then reports each of them on a line of one of its streams.

- `read_json_output_failures`: the details of a stream say whether one of its lines
  reports a failure.
- `failures_are_shown_iff`: a success that restic reported failures for is no plain one
  and has details exactly when it exits with 3 or meets a VSS condition.
- `MissingSource.missing_source_disappears`: a clean exit with a reported failure.
-/

open Lib

namespace ResticPal

open Text (Bytes)

/-! ## Details -/

/-- The retained items and the omitted ones. -/
def BackupFailureDetails.count (details : BackupFailureDetails) : Nat := details.items.length + details.omitted.toNat

def BackupOutcome.failure_count (outcome : BackupOutcome) : Nat :=
  outcome.failed_items.length + outcome.failed_items_omitted.toNat

theorem saturating_add_pos (a b : UInt64) :
    0 < (saturating_add a b).toNat ↔ 0 < a.toNat ∨ 0 < b.toNat := by
  unfold saturating_add
  split
  · rename_i h
    rw [UInt64.toNat_add, Nat.mod_eq_of_lt h]
    omega
  · rename_i h
    have hmax : (0xffffffffffffffff : UInt64).toNat = 2 ^ 64 - 1 := rfl
    rw [hmax]
    omega

theorem push_count_pos (details : BackupFailureDetails) (item : String) : 0 < (details.push item).count := by
  unfold BackupFailureDetails.push BackupFailureDetails.count
  split
  · rename_i h
    have hmem : item ∈ details.items := by simpa using h
    have := List.length_pos_of_mem hmem
    omega
  · split
    · have := (saturating_add_pos details.omitted 1).2 (.inr Nat.one_pos)
      dsimp only
      omega
    · simp only [List.length_append, List.length_singleton]
      omega

theorem foldl_push_count_pos (items : List String) (details : BackupFailureDetails) :
    0 < (items.foldl BackupFailureDetails.push details).count ↔ 0 < details.count ∨ items ≠ [] := by
  induction items generalizing details with
  | nil => simp
  | cons item items ih =>
    rw [List.foldl_cons, ih]
    simp [push_count_pos]

theorem merge_count_pos (details other : BackupFailureDetails) :
    0 < (details.merge other).count ↔ 0 < details.count ∨ 0 < other.count := by
  have hpushed := foldl_push_count_pos other.items details
  have hadd := saturating_add_pos (other.items.foldl BackupFailureDetails.push details).omitted other.omitted
  have hitems : other.items ≠ [] ↔ 0 < other.items.length := List.length_pos_iff.symm
  unfold BackupFailureDetails.merge
  unfold BackupFailureDetails.count at hpushed ⊢
  dsimp only
  rw [hitems] at hpushed
  omega

/-! ## Reported failures -/

/-- An error message about a source, not about a VSS snapshot. -/
def WireMessage.reports_item (message : WireMessage) : Bool :=
  message.message_type == "error" && !is_vss_fallback_error (message.error.getD "") &&
    !is_vss_cleanup_error (message.error.getD "")

/-- The line ends in "does not exist, skipping" and line breaks. -/
def IsMissingItemLine (line : Bytes) : Prop :=
  ∃ item breaks, line = item ++ Text.as_bytes " does not exist, skipping" ++ breaks ∧
    ∀ byte ∈ breaks, byte = 0x0a ∨ byte = 0x0d

/-- The line reports that a source could not be read. -/
def ReportsFailure (d : Decoder) (line : Bytes) : Prop :=
  line.length ≤ MAX_JSON_LINE_BYTES ∧
    (IsMissingItemLine line ∨ (d.from_slice line).any WireMessage.reports_item = true)

/-- The line is a message that reports a failure, or text that names a missing item. -/
def Decoder.names_failure (d : Decoder) (line : Bytes) : Bool :=
  line.length ≤ MAX_JSON_LINE_BYTES &&
    ((parse_plain_missing_item line).isSome || (d.from_slice line).any WireMessage.reports_item)

def OutputEvent.isFailure : OutputEvent → Bool
  | .FailureItem _ | .FailureItemOmitted => true
  | _ => false

theorem event_isFailure (message : WireMessage) : message.event.any OutputEvent.isFailure = message.reports_item := by
  unfold WireMessage.event WireMessage.reports_item
  by_cases hstatus : message.message_type = "status"
  · simp [hstatus, OutputEvent.isFailure]
  · by_cases hsummary : message.message_type = "summary"
    · simp [hsummary, OutputEvent.isFailure]
    · by_cases herror : message.message_type = "error"
      · by_cases hfallback : is_vss_fallback_error (message.error.getD "") = true
        · simp [herror, hfallback, OutputEvent.isFailure]
        · by_cases hcleanup : is_vss_cleanup_error (message.error.getD "") = true
          · simp [herror, hfallback, hcleanup, OutputEvent.isFailure]
          · cases hitem : message.item <;> simp [herror, hfallback, hcleanup, OutputEvent.isFailure]
      · simp [hstatus, hsummary, herror]

theorem parse_output_event_isFailure (d : Decoder) (line : Bytes) :
    ((parse_output_event d line).toOption.join.any OutputEvent.isFailure) =
      ((parse_plain_missing_item line).isSome || (d.from_slice line).any WireMessage.reports_item) := by
  unfold parse_output_event
  cases hplain : parse_plain_missing_item line with
  | some item => rfl
  | none =>
    cases d.from_slice line with
    | none => rfl
    | some message => exact event_isFailure message

/-- One line. -/
theorem record_line_count_pos (d : Decoder) (parsed : ParsedOutput) (line : Bytes) :
    0 < (parsed.record_line d line).failure_details.count ↔
      0 < parsed.failure_details.count ∨ d.names_failure line = true := by
  unfold ParsedOutput.record_line Decoder.names_failure
  by_cases hlength : line.length ≤ MAX_JSON_LINE_BYTES
  · rw [decide_eq_true hlength, Bool.true_and, ← parse_output_event_isFailure]
    simp only [ParsedOutput.record, Bool.not_true, Bool.false_eq_true, if_false]
    cases parse_output_event d line with
    | error => simp [Except.toOption]
    | ok event =>
      cases event with
      | none => simp [Except.toOption]
      | some event =>
        cases event with
        | FailureItem item => exact iff_of_true (push_count_pos _ item) (.inr rfl)
        | FailureItemOmitted =>
          have hpos := (saturating_add_pos parsed.failure_details.omitted 1).2 (.inr Nat.one_pos)
          exact iff_of_true (Nat.add_pos_right _ hpos) (.inr rfl)
        | _ => simp [Except.toOption, OutputEvent.isFailure]
  · rw [decide_eq_false hlength]
    simp [ParsedOutput.record]

theorem read_json_output_failures (d : Decoder) (reader : BufReader) :
    0 < (read_json_output d reader).failure_details.count ↔ (Lines.lines LF reader.bytes).any d.names_failure = true := by
  have hfold (lines : List Bytes) (parsed : ParsedOutput) :
      0 < (lines.foldl (ParsedOutput.record_line d) parsed).failure_details.count ↔
        0 < parsed.failure_details.count ∨ lines.any d.names_failure = true := by
    induction lines generalizing parsed with
    | nil => simp
    | cons line lines ih =>
      rw [List.foldl_cons, ih, record_line_count_pos, List.any_cons, Bool.or_eq_true, or_assoc]
  rw [read_json_output_eq, hfold]
  exact or_iff_right (Nat.lt_irrefl 0)

/-! ## The outcome -/

theorem warning_of_isSome (partial_source vss_fallback vss_cleanup_failed : Bool) :
    (warning_of partial_source vss_fallback vss_cleanup_failed).isSome =
      (partial_source || vss_fallback || vss_cleanup_failed) := by
  cases partial_source <;> cases vss_fallback <;> cases vss_cleanup_failed <;> rfl

namespace ResticExit

variable (d : Decoder) (exit : ResticExit)

/-- The lines of both streams. -/
def lines : List Bytes := Lines.lines LF exit.stdout.bytes ++ Lines.lines LF exit.stderr.bytes

/-- Exit code 3, or a VSS condition. -/
def Warns (known_vss_fallback : Bool) : Prop :=
  exit.code = some 3 ∨ known_vss_fallback = true ∨ (exit.messages d).any WireMessage.reports_fallback = true ∨
    (exit.messages d).any WireMessage.reports_cleanup = true

variable {d exit} {known : Bool}

theorem succeeded_kind (h : (exit.outcome d known).kind.succeeded = true) :
    (exit.outcome d known).kind = .SucceededWithWarnings ↔ exit.Warns d known := by
  obtain ⟨summary, hsummary, hcode, -, -⟩ := exit.succeeded_verdict d h
  have hkind := congrArg Prod.fst (exit.outcome_verdict d known hsummary)
  have hnot : exit.code ≠ some 130 := by
    intro hcancelled
    rw [hcancelled] at hcode
    rcases hcode with hcode | hcode
    · cases hcode
    · cases hcode
  have hwarns : exit.Warns d known ↔ (warning_of (exit.code = some 3)
      (known || (exit.messages d).any WireMessage.reports_fallback)
      ((exit.messages d).any WireMessage.reports_cleanup)).isSome = true := by
    rw [warning_of_isSome, Bool.or_eq_true, Bool.or_eq_true, Bool.or_eq_true, decide_eq_true_eq, Warns, or_assoc, or_assoc]
  unfold verdict_of at hkind
  rw [if_neg hnot, if_pos hcode] at hkind
  rw [hwarns]
  dsimp only [BackupOutcome.verdict] at hkind
  split at hkind
  · rename_i hsome
    refine iff_of_true ?_ hsome
    cases houtcome : (exit.outcome d known).kind with
    | SucceededWithWarnings => rfl
    | _ =>
      rw [houtcome] at hkind
      cases hkind
  · rename_i hnone
    refine iff_of_false ?_ hnone
    intro houtcome
    rw [houtcome] at hkind
    cases hkind

theorem warned_failure_count (h : (exit.outcome d known).kind = .SucceededWithWarnings) :
    0 < (exit.outcome d known).failure_count ↔ exit.lines.any d.names_failure = true := by
  obtain ⟨summary, hsummary, -⟩ := exit.succeeded_verdict d (by rw [h]; rfl)
  have hdetails := (finish_outcome_verdict d exit.code (read_json_output d exit.stderr) _ known
    ((exit.stdout_summary d).trans hsummary)).2 h
  have hcount : (exit.outcome d known).failure_count = _ := congrArg BackupFailureDetails.count hdetails
  rw [hcount, merge_count_pos, read_json_output_failures, read_json_output_failures, lines, List.any_append, Bool.or_eq_true]

/-- For every success: that it shows a failure if restic reported one is to say that it
exits with 3 or meets a VSS condition, and that one of the reports is a message or names
the missing item in UTF-8, if restic reported one. A line includes its terminator. -/
theorem failures_are_shown_iff (h : (exit.outcome d known).kind.succeeded = true) :
    ((∃ line ∈ exit.lines, ReportsFailure d line) →
      (exit.outcome d known).kind ≠ .Succeeded ∧ 1 ≤ (exit.outcome d known).failure_count) ↔
    ((∃ line ∈ exit.lines, ReportsFailure d line) →
      exit.Warns d known ∧ ∃ line ∈ exit.lines, d.names_failure line = true) := by
  refine imp_congr_right (fun _ => ?_)
  have hwarns := succeeded_kind h
  constructor
  · rintro ⟨hkind, hcount⟩
    have hwarned : (exit.outcome d known).kind = .SucceededWithWarnings := by
      cases houtcome : (exit.outcome d known).kind with
      | Succeeded => exact absurd houtcome hkind
      | SucceededWithWarnings => rfl
      | Failed _ | Cancelled =>
        rw [houtcome] at h
        cases h
    exact ⟨hwarns.1 hwarned, List.any_eq_true.1 ((warned_failure_count hwarned).1 hcount)⟩
  · rintro ⟨hw, hnamed⟩
    have hwarned := hwarns.2 hw
    refine ⟨?_, (warned_failure_count hwarned).2 (List.any_eq_true.2 hnamed)⟩
    rw [hwarned]
    nofun

namespace MissingSource

open SnapshotFailed (decoder summaryLine)

def missingLine : Bytes := Text.as_bytes "D:\\music does not exist, skipping\n"

/-- One of the sources is gone. -/
def ended (code : Int) : ResticExit where
  code := some code
  stdout := [⟨summaryLine, by decide⟩]
  stderr := [⟨missingLine, by decide⟩]

theorem missing_is_reported (code : Int) : ∃ line ∈ (ended code).lines, ReportsFailure decoder line := by
  refine ⟨missingLine, ?_, by decide +kernel, .inl ⟨Text.as_bytes "D:\\music", [0x0a], by decide +kernel, ?_⟩⟩
  · show missingLine ∈ [summaryLine, missingLine]
    exact List.mem_cons_of_mem _ List.mem_cons_self
  · intro byte hbyte
    exact .inl (List.mem_singleton.1 hbyte)

theorem partial_source_is_shown : ((ended 3).outcome decoder false).kind ≠ .Succeeded ∧
    1 ≤ ((ended 3).outcome decoder false).failure_count := by
  have hsucceeded : ((ended 3).outcome decoder false).kind.succeeded = true := by decide +kernel
  have hnamed : (ended 3).lines.any decoder.names_failure = true := by decide +kernel
  exact (failures_are_shown_iff hsucceeded).2 (fun _ => ⟨.inl rfl, List.any_eq_true.1 hnamed⟩) (missing_is_reported 3)

/-- With exit code 0 the failure is dropped. -/
theorem missing_source_disappears : (∃ line ∈ (ended 0).lines, ReportsFailure decoder line) ∧
    ((ended 0).outcome decoder false).kind = .Succeeded ∧ ((ended 0).outcome decoder false).failure_count = 0 :=
  ⟨missing_is_reported 0, by decide +kernel, by decide +kernel⟩

end MissingSource

end ResticExit

end ResticPal
