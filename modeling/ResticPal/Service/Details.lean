import ResticPal.Service.Failures
import ResticPal.Service.Recording
/-!
# Failed items, from restic's output to the history

`executor.rs` collects the failures that the two streams of restic report and merges
them; `history.rs` stores the result with the run and shows it again. The collected
details are a `Tally` whose counter saturates.

- `Tallies.merge`: what the details of two streams keep.
- `Holds.of_run`: what the tables hold after any sequence of appends.
- `failure_details_are_exact`: the counts, and that what was stored is read back as long
  as the history keeps the run.
- `DroppedDetails.details_are_lost`: a history that does not.
-/

open Lib Lib.Window

namespace ResticPal

open Text (Bytes)

/-! ## Collecting -/

/-- A failure that an event reports. -/
def OutputEvent.report : OutputEvent → Option (Report String)
  | .FailureItem item => some (.named item)
  | .FailureItemOmitted => some .unnamed
  | _ => none

/-- A failure that a line reports. -/
def Decoder.report (d : Decoder) (line : Bytes) : Option (Report String) :=
  if line.length ≤ MAX_JSON_LINE_BYTES then (parse_output_event d line).toOption.join.bind OutputEvent.report else none

/-- What one reported failure does to the details. -/
def BackupFailureDetails.record (details : BackupFailureDetails) : Report String → BackupFailureDetails
  | .named item => details.push item
  | .unnamed => { details with omitted := saturating_add details.omitted 1 }

/-- The details of a stream of failures. -/
def BackupFailureDetails.collect (reports : List (Report String)) : BackupFailureDetails :=
  reports.foldl record {}

theorem record_line_details (d : Decoder) (parsed : ParsedOutput) (line : Bytes) :
    (parsed.record_line d line).failure_details =
      (d.report line).elim parsed.failure_details parsed.failure_details.record := by
  unfold ParsedOutput.record_line Decoder.report
  by_cases hlength : line.length ≤ MAX_JSON_LINE_BYTES
  · rw [decide_eq_true hlength, if_pos hlength]
    simp only [ParsedOutput.record, Bool.not_true, Bool.false_eq_true, if_false]
    cases parse_output_event d line with
    | error => rfl
    | ok event =>
      cases event with
      | none => rfl
      | some event => cases event <;> rfl
  · rw [decide_eq_false hlength, if_neg hlength]
    rfl

/-- The details of an output are those of the failures that its lines report. -/
theorem read_json_output_details (d : Decoder) (reader : BufReader) :
    (read_json_output d reader).failure_details = .collect ((Lines.lines LF reader.bytes).filterMap d.report) := by
  have hfold (lines : List Bytes) (parsed : ParsedOutput) :
      (lines.foldl (ParsedOutput.record_line d) parsed).failure_details =
        (lines.filterMap d.report).foldl BackupFailureDetails.record parsed.failure_details := by
    induction lines generalizing parsed with
    | nil => rfl
    | cons line lines ih =>
      rw [List.foldl_cons, ih, record_line_details]
      cases hreport : d.report line with
      | none => rw [List.filterMap_cons_none hreport, Option.elim_none]
      | some report => rw [List.filterMap_cons_some hreport, Option.elim_some, List.foldl_cons]
  rw [read_json_output_eq, hfold]
  rfl

/-! ## Details as a tally -/

namespace Tallies

variable {details other : BackupFailureDetails} {tally others : Tally String}

theorem record (h : Tallies details tally) (reports : List (Report String)) :
    Tallies (reports.foldl BackupFailureDetails.record details)
      (reports.foldl (Tally.record is_safe_backup_failed_item MAX_BACKUP_FAILED_ITEMS) tally) := by
  induction reports generalizing details tally with
  | nil => exact h
  | cons report reports ih =>
    cases report with
    | named item => exact ih (h.push item)
    | unnamed => exact ih h.counted

theorem merge (h : Tallies details tally) (hother : Tallies other others) :
    Tallies (details.merge other) (tally.merge is_safe_backup_failed_item MAX_BACKUP_FAILED_ITEMS others) := by
  obtain ⟨hitems, homitted⟩ := h.foldl_push others.items
  have hothers := hother.omitted
  unfold BackupFailureDetails.merge Tally.merge
  rw [hother.items]
  refine ⟨hitems, ?_⟩
  dsimp only
  rw [toNat_saturating_add, homitted, hothers]
  omega

end Tallies

/-! ## Storing -/

/-- It changes nothing but the counter, of which it leaves what fits the column. -/
theorem normalize_failure_details_eq {items : List String} (h : Presentable items) (omitted : UInt64) :
    normalize_failure_details items omitted = ⟨items, min omitted (UInt64.ofNat (I64_MAX - items.length))⟩ := by
  have hstart := Tallies.start omitted
  have hbounded : Tally.Bounded is_safe_backup_failed_item MAX_BACKUP_FAILED_ITEMS
      ((⟨[], omitted.toNat⟩ : Tally String).items ++ items) := h
  obtain ⟨hitems, homitted⟩ := hstart.foldl_push items
  rw [hbounded.foldl_push_eq] at hitems homitted
  have hsame : (items.foldl BackupFailureDetails.push ⟨[], omitted⟩).omitted = omitted :=
    UInt64.toNat_inj.1 (homitted.trans hstart.omitted.symm)
  rw [normalize_failure_details, foldl_normalize_item items ⟨[], omitted⟩, hitems, hsame]
  rfl

/-! ## Any sequence of appends -/

instance : Std.Total RawRunRecord.Before where
  total a b := by
    unfold RawRunRecord.Before
    omega

instance : IsTrans RawRunRecord RawRunRecord.Before where
  trans a b c := by
    unfold RawRunRecord.Before
    omega

namespace Stores

variable {tables : HistoryTables} {runs : List (Int × CompletedBackupRun)}

/-- Pruning keeps the runs that the query names. -/
theorem prune_filter (h : Stores tables runs) : Stores tables.prune (runs.filter (fun e => e.1 ∈ tables.newest)) := by
  constructor
  · show (tables.backup_runs.entries.filter _) = _
    rw [h.backup_runs, List.filter_map]
    rfl
  · show (tables.failed_items.filter _) = _
    have hitems (l : List (Int × CompletedBackupRun)) (hl : ∀ e ∈ l, e ∈ runs) :
        (l.flatMap (fun e => e.2.stored_items e.1)).filter
          (fun failed => !(tables.backup_runs.contains failed.run_id && decide (failed.run_id ∉ tables.newest))) =
          (l.filter (fun e => e.1 ∈ tables.newest)).flatMap (fun e => e.2.stored_items e.1) := by
      induction l with
      | nil => rfl
      | cons e l ih =>
        obtain ⟨he, hl⟩ := List.forall_mem_cons.1 hl
        have hcontains : tables.backup_runs.contains e.1 = true := by
          rw [BTreeMap.contains, h.get? he]
          rfl
        rw [List.flatMap_cons, List.filter_append, ih hl]
        by_cases hnewest : e.1 ∈ tables.newest
        · rw [List.filter_cons_of_pos (by simpa using hnewest), List.flatMap_cons, List.filter_eq_self.2]
          intro row hrow
          simp [stored_items_run_id e row hrow, hnewest]
        · rw [List.filter_cons_of_neg (by simpa using hnewest), List.filter_eq_nil_iff.2, List.nil_append]
          intro row hrow
          simp [stored_items_run_id e row hrow, hnewest, hcontains]
    rw [h.failed_items]
    exact hitems runs fun _ he => he

/-- The run with the largest id is kept when fewer than 200 others completed later. -/
theorem mem_newest_iff {id : Int} {run : CompletedBackupRun} (h : Stores tables (runs ++ [(id, run)])) :
    id ∈ tables.newest ↔
      runs.countP (fun e => run.stored.completed_at_ms < e.2.stored.completed_at_ms) < MAX_STORED_RUNS := by
  have hsorted := h.sorted
  have hids : ∀ e ∈ runs, e.1 < id := fun e he =>
    (List.pairwise_append.1 hsorted).2.2 e he _ List.mem_cons_self
  have hmem : tables.select id run.stored ∈ tables.rows := by
    rw [h.rows_eq]
    exact List.mem_map.2 ⟨(id, run), List.mem_append_right _ List.mem_cons_self, rfl⟩
  have hne : tables.rows.Pairwise (fun a b => ¬ (a.Before b ∧ b.Before a)) := by
    rw [h.rows_eq, List.pairwise_map]
    refine hsorted.imp ?_
    intro a b hlt
    simp only [RawRunRecord.Before, HistoryTables.select]
    omega
  have hnewest : id ∈ tables.newest ↔
      tables.select id run.stored ∈ (tables.rows.insertionSort RawRunRecord.Before).take MAX_STORED_RUNS := by
    rw [HistoryTables.newest, List.mem_map]
    constructor
    · rintro ⟨row, hrow, hid⟩
      have hrows := (List.mem_insertionSort _).1 (List.mem_of_mem_take hrow)
      rw [h.rows_eq] at hrows
      obtain ⟨e, he, rfl⟩ := List.mem_map.1 hrows
      rcases List.mem_append.1 he with he | he
      · exact absurd hid (hids e he).ne
      · rw [List.mem_singleton.1 he] at hrow
        exact hrow
    · intro hrow
      exact ⟨_, hrow, rfl⟩
  have hcount : tables.rows.countP (fun row => ¬ (tables.select id run.stored).Before row) =
      runs.countP (fun e => run.stored.completed_at_ms < e.2.stored.completed_at_ms) := by
    have hself : (tables.select id run.stored).Before (tables.select id run.stored) := .inr ⟨rfl, Int.le_refl _⟩
    rw [h.rows_eq, List.countP_map, List.countP_append]
    have hlast : [(id, run)].countP ((fun row => decide ¬ (tables.select id run.stored).Before row) ∘
        fun e => tables.select e.1 e.2.stored) = 0 := by
      rw [List.countP_eq_zero]
      simpa using hself
    rw [hlast, Nat.add_zero]
    refine List.countP_congr ?_
    intro e he
    have hid := hids e he
    rw [Function.comp_apply, decide_eq_true_iff, decide_eq_true_iff]
    simp only [RawRunRecord.Before, HistoryTables.select]
    omega
  rw [hnewest, mem_take_insertionSort _ hne hmem, hcount]

end Stores

/-- What a database holds after `runs`, whenever they completed: some of them, under the
ids that count them. -/
structure Holds (runs : List CompletedBackupRun) (database : HistoryDatabase) : Prop where
  sequence : database.sqlite_sequence = runs.length
  stored : ∃ stored : List (Int × CompletedBackupRun), stored.Sublist (number runs) ∧ Stores database.tables stored

/-- Fewer than 200 of the stored runs completed later. -/
def HistoryDatabase.Keeps (database : HistoryDatabase) (run : CompletedBackupRun) : Prop :=
  database.tables.backup_runs.entries.countP (fun entry => run.completed_at.timestamp_millis < entry.2.completed_at_ms) <
    MAX_STORED_RUNS

instance (database : HistoryDatabase) (run : CompletedBackupRun) : Decidable (database.Keeps run) :=
  inferInstanceAs (Decidable (_ < _))

namespace Holds

variable {runs : List CompletedBackupRun} {database after : HistoryDatabase} {run : CompletedBackupRun}
  {record : BackupRunRecord}

/-- An append stores its run when fewer than 200 of the others completed later. -/
theorem append (h : Holds runs database) (happend : database.append run = (after, .ok record)) :
    (∃ stored : List (Int × CompletedBackupRun), stored.Sublist (number (runs ++ [run])) ∧ Stores after.tables stored ∧
      (((runs.length : Int) + 1, run) ∈ stored ↔ database.Keeps run)) ∧
    after.sqlite_sequence = (runs.length : Int) + 1 ∧ run.record record.id = .ok record ∧
      record.id.toNat = runs.length + 1 ∧ runs.length + 1 ≤ I64_MAX := by
  obtain ⟨stored, hsub, hstores⟩ := h.stored
  have hids : ∀ e ∈ stored, e.1 ≤ runs.length := fun e he => (mem_number (hsub.subset he)).2
  obtain ⟨tables, hinserted, rfl, hrecord, hid, hbound⟩ := HistoryDatabase.append_eq h.sequence hstores hids happend
  refine ⟨⟨_, ?_, hinserted.prune_filter, ?_⟩, rfl, hrecord, hid, hbound⟩
  · rw [number_snoc]
    exact (List.filter_sublist).trans (hsub.append_right _)
  · have hkeeps : database.Keeps run ↔ ((runs.length : Int) + 1) ∈ tables.newest := by
      rw [hinserted.mem_newest_iff, HistoryDatabase.Keeps, hstores.backup_runs, List.countP_map]
      rfl
    rw [hkeeps, List.mem_filter, decide_eq_true_iff, and_iff_right]
    exact List.mem_append_right _ List.mem_cons_self

theorem of_run (h : Run HistoryDatabase.step (fun _ _ => True) .new runs database) : Holds runs database := by
  refine h.inv_labels Holds ?_ ⟨rfl, [], List.Sublist.refl _, rfl, rfl⟩
  intro runs database run after hholds _ hstep
  unfold HistoryDatabase.step at hstep
  split at hstep
  · rename_i happend
    obtain rfl := Option.some.inj hstep
    obtain ⟨⟨stored, hsub, hstores, -⟩, hsequence, -⟩ := hholds.append happend
    exact ⟨by rw [hsequence, List.length_append]; rfl, stored, hsub, hstores⟩
  · cases hstep

end Holds

/-! ## End to end -/

/-- The details as they are stored: the omissions are capped so that all failures together
fit a signed column. -/
def BackupFailureDetails.stored (details : BackupFailureDetails) : StoredRunFailureDetails where
  items := details.items
  omitted := UInt64.ofNat (min details.omitted.toNat (I64_MAX - details.items.length))

theorem failure_details_stored {run : CompletedBackupRun} {details : BackupFailureDetails} (h : Presentable details.items)
    (hitems : run.failed_items = details.items) (homitted : run.failed_items_omitted = details.omitted) :
    run.failure_details = details.stored := by
  have hcap : min details.omitted (UInt64.ofNat (I64_MAX - details.items.length)) =
      UInt64.ofNat (min details.omitted.toNat (I64_MAX - details.items.length)) := by
    have hfits : (UInt64.ofNat (I64_MAX - details.items.length)).toNat = I64_MAX - details.items.length := by
      rw [UInt64.toNat_ofNat', Nat.mod_eq_of_lt]
      unfold I64_MAX
      omega
    show (if details.omitted ≤ UInt64.ofNat (I64_MAX - details.items.length) then details.omitted
      else UInt64.ofNat (I64_MAX - details.items.length)) = _
    split
    · rename_i hle
      rw [UInt64.le_iff_toNat_le, hfits] at hle
      rw [Nat.min_eq_left hle, UInt64.ofNat_toNat]
    · rename_i hlt
      rw [UInt64.le_iff_toNat_le, hfits] at hlt
      rw [Nat.min_eq_right (Nat.le_of_not_le hlt)]
  rw [CompletedBackupRun.failure_details, hitems, homitted, normalize_failure_details_eq h, hcap]
  rfl

theorem record_failed_item_count {run : CompletedBackupRun} {id : UInt64} {record : BackupRunRecord}
    (h : run.record id = .ok record) :
    record.failed_item_count.toNat = run.failure_details.items.length + run.failure_details.omitted.toNat := by
  have hcounts : run.failure_details.omitted.toNat + run.failure_details.items.length ≤ I64_MAX := normalize_omitted_le _ _
  obtain ⟨started_at, hstarted⟩ := timestamp_of_millis run.started_at
  obtain ⟨completed_at, hcompleted⟩ := timestamp_of_millis run.completed_at
  unfold CompletedBackupRun.record at h
  rw [hstarted, hcompleted] at h
  obtain rfl := Except.ok.inj h
  dsimp only
  unfold I64_MAX at hcounts
  rw [toNat_saturating_add, UInt64.toNat_ofNat', Nat.mod_eq_of_lt (by omega), Nat.min_eq_left]
  unfold U64_MAX
  omega

/-- What is read back of a run that was just recorded. -/
theorem Holds.read_back {runs : List CompletedBackupRun} {database after : HistoryDatabase} {run : CompletedBackupRun}
    {record : BackupRunRecord} (h : Holds runs database) (happend : database.append run = (after, .ok record)) :
    record.failed_item_count.toNat = run.failure_details.items.length + run.failure_details.omitted.toNat ∧
    after.tables.failure_details record.id = .ok (if database.Keeps run then some run.failure_details else none) ∧
    ∀ limit records, (HistoryFile.database after.tables).recent limit = .ok records →
      ∀ shown ∈ records, shown.id = record.id →
        shown.failed_item_count.toNat = run.failure_details.items.length + run.failure_details.omitted.toNat := by
  obtain ⟨⟨stored, hsub, hstores, hkept⟩, -, hrecord, hid, hbound⟩ := h.append happend
  have hid' : (record.id.toNat : Int) = (runs.length : Int) + 1 := by rw [hid, Nat.cast_add_one]
  have hown : ∀ e ∈ stored, e.1 = record.id.toNat → e = ((record.id.toNat : Int), run) := by
    intro e he heq
    have hnumber := hsub.subset he
    rw [number_snoc] at hnumber
    rcases List.mem_append.1 hnumber with hold | hnew
    · have hle := (mem_number hold).2
      omega
    · rw [hid']
      exact List.mem_singleton.1 hnew
  rw [← hid'] at hkept
  refine ⟨record_failed_item_count hrecord, ?_, ?_⟩
  · by_cases hkeeps : database.Keeps run
    · rw [if_pos hkeeps]
      exact hstores.failure_details_eq (hkept.2 hkeeps) (hid ▸ hbound)
    · have hmissing : after.tables.backup_runs.get? record.id.toNat = none := by
        rw [Option.eq_none_iff_forall_not_mem]
        intro row hrow
        have hentry := (BTreeMap.lookupEntry_some after.tables.backup_runs.sorted).1 hrow
        rw [hstores.backup_runs] at hentry
        obtain ⟨e, he, heq⟩ := List.mem_map.1 hentry
        exact hkeeps (hkept.1 (hown e he (Prod.ext_iff.1 heq).1 ▸ he))
      rw [if_neg hkeeps, HistoryTables.failure_details, if_neg (by omega), hmissing]
  · intro limit records hrecent shown hmem hshown
    have hpos : ∀ e ∈ stored, 0 ≤ e.1 := fun e he => Int.le_trans (by decide) (mem_number (hsub.subset he)).1
    obtain ⟨read, hread, -, hread_ids⟩ := hstores.recent_ok hpos limit
    obtain rfl := Except.ok.inj (hread.symm.trans hrecent)
    obtain ⟨e, he, hread_id, hread_count⟩ := hread_ids shown hmem
    have hrange := mem_number (hsub.subset he)
    rw [List.length_append, List.length_singleton] at hrange
    have hnat : ((UInt64.ofNat e.1.toNat).toNat : Int) = e.1 := by
      rw [UInt64.toNat_ofNat', Nat.mod_eq_of_lt]
      · omega
      · unfold I64_MAX at hbound
        omega
    rw [hread_count, hown e he (by rw [← hshown, hread_id, hnat])]

/-- What a stream's details say of its failures. -/
theorem collect_tally (reports : List (Report String)) :
    ∃ tally, Tallies (.collect reports) tally ∧
      Tally.Bounded is_safe_backup_failed_item MAX_BACKUP_FAILED_ITEMS tally.items ∧
      tally.Accounts (reports.filterMap Report.item?).toFinset reports.length := by
  have hstart : Tallies {} {} := ⟨rfl, rfl⟩
  have haccounts : (({} : Tally String)).Accounts ∅ 0 := ⟨fun _ h => absurd h List.not_mem_nil, Nat.le_refl _, Nat.le_refl _⟩
  refine ⟨_, hstart.record reports, Tally.bounded_nil.record reports, ?_⟩
  simpa using haccounts.record is_safe_backup_failed_item MAX_BACKUP_FAILED_ITEMS reports

/-- The details of two streams: at most 100 items, different and safe; those reported are at
most the retained and the omitted ones, as long as the counter has not stopped, and these
are at most the reports. Stored by any append to any history, the run's summary counts
them, and they are read back, the omissions capped, exactly when fewer than 200 of the
stored runs completed later. -/
theorem failure_details_are_exact (first second : List (Report String)) :
    let details := (BackupFailureDetails.collect first).merge (.collect second)
    Presentable details.items ∧
    (details.omitted.toNat < U64_MAX → ((first ++ second).filterMap Report.item?).toFinset.card ≤ details.count) ∧
    details.count ≤ (first ++ second).length ∧
    ∀ (runs : List CompletedBackupRun) (database after : HistoryDatabase) (run : CompletedBackupRun) (record : BackupRunRecord),
      Run HistoryDatabase.step (fun _ _ => True) .new runs database →
      run.failed_items = details.items → run.failed_items_omitted = details.omitted →
      database.append run = (after, .ok record) →
      record.failed_item_count.toNat = details.stored.items.length + details.stored.omitted.toNat ∧
      (after.tables.failure_details record.id = .ok (some details.stored) ↔ database.Keeps run) ∧
      ∀ limit records, (HistoryFile.database after.tables).recent limit = .ok records →
        ∀ shown ∈ records, shown.id = record.id →
          shown.failed_item_count.toNat = details.stored.items.length + details.stored.omitted.toNat := by
  intro details
  obtain ⟨tally, htallies, hbounded, haccounts⟩ := collect_tally first
  obtain ⟨others, hothers, hotherbounded, hotheraccounts⟩ := collect_tally second
  have hmerged : Tallies details _ := htallies.merge hothers
  have hmergedbounded := hbounded.foldl_push others.items
  have hpresentable : Presentable details.items := by
    rw [hmerged.items]
    exact hmergedbounded
  obtain ⟨-, hreported, hreports⟩ := haccounts.merge hotheraccounts hotherbounded.nodup is_safe_backup_failed_item
    MAX_BACKUP_FAILED_ITEMS
  have homitted := hmerged.omitted
  have hitems := congrArg List.length hmerged.items
  refine ⟨hpresentable, ?_, ?_, ?_⟩
  · intro hbelow
    rw [List.filterMap_append, List.toFinset_append, BackupFailureDetails.count]
    omega
  · rw [List.length_append, BackupFailureDetails.count]
    omega
  · intro runs database after run record hrun hfailed hcount happend
    have hstored : run.failure_details = details.stored := failure_details_stored hpresentable hfailed hcount
    have hread := (Holds.of_run hrun).read_back happend
    rw [hstored] at hread
    refine ⟨hread.1, ?_, hread.2.2⟩
    rw [hread.2.1]
    by_cases hkeeps : database.Keeps run
    · rw [if_pos hkeeps]
      exact iff_of_true rfl hkeeps
    · rw [if_neg hkeeps]
      exact iff_of_false (by simp) hkeeps

namespace DroppedDetails

def locked : String := "C:\\Users\\Example\\locked.txt"

/-- The file is named on one stream; the other names it again and reports another failure
without a name. -/
def stdout : List (Report String) := [.named locked]
def stderr : List (Report String) := [.named locked, .unnamed]

def details : BackupFailureDetails := (BackupFailureDetails.collect stdout).merge (.collect stderr)

example : details.items = [locked] ∧ details.omitted = 1 := by decide

/-- A run with these details. -/
def run (completed_at : DateTime) : CompletedBackupRun :=
  { ClockSetBack.run completed_at with failed_items := details.items, failed_items_omitted := details.omitted }

/-- The first run of a history. -/
theorem details_are_read_back : ∃ after record, HistoryDatabase.new.append (run ClockSetBack.noon) = (after, .ok record) ∧
    after.tables.failure_details record.id = .ok (some ⟨[locked], 1⟩) ∧ record.failed_item_count.toNat = 2 := by
  obtain ⟨after, record, happend⟩ := KeepsNewest.new.append_ok (by decide) (run ClockSetBack.noon)
  obtain ⟨hcount, hread, -⟩ := (failure_details_are_exact stdout stderr).2.2.2 [] .new after (run ClockSetBack.noon) record
    .nil rfl rfl happend
  have hkeeps : HistoryDatabase.new.Keeps (run ClockSetBack.noon) := by decide
  have hstored : details.stored = ⟨[locked], 1⟩ := by decide
  refine ⟨after, record, happend, ?_, ?_⟩
  · rw [← hstored]
    exact hread.2 hkeeps
  · exact hcount.trans (by show details.stored.items.length + details.stored.omitted.toNat = 2; rw [hstored]; rfl)

/-- The clock is set back from noon to midnight before the last of 201 runs: its record
counts two failures, and their details are not found. -/
theorem details_are_lost : ∃ database after record,
    Run HistoryDatabase.step (fun _ _ => True) .new (List.replicate MAX_STORED_RUNS (ClockSetBack.run ClockSetBack.noon))
      database ∧
    database.append (run .UNIX_EPOCH) = (after, .ok record) ∧ record.failed_item_count.toNat = 2 ∧
    after.tables.failure_details record.id = .ok none := by
  obtain ⟨database, hrun⟩ := exists_replicate (ClockSetBack.run ClockSetBack.noon) (show MAX_STORED_RUNS ≤ I64_MAX by decide)
  have hkeeps := KeepsNewest.run hrun
  obtain ⟨after, record, happend⟩ := hkeeps.append_ok (by rw [List.length_replicate]; decide) (run .UNIX_EPOCH)
  have hlength : database.tables.backup_runs.entries.length = MAX_STORED_RUNS := by
    rw [hkeeps.tables.backup_runs, List.length_map, kept, window_length, number_length, List.length_replicate]
    rfl
  have hdropped : ¬ database.Keeps (run .UNIX_EPOCH) := by
    rw [HistoryDatabase.Keeps, List.countP_eq_length.2, hlength]
    · exact Nat.lt_irrefl _
    · intro entry hentry
      rw [hkeeps.stored_eq entry hentry]
      decide
  have hall : Run HistoryDatabase.step (fun _ _ => True) .new _ database := hrun.mono (fun _ _ _ => trivial)
  obtain ⟨hcount, hread, -⟩ := (Holds.of_run hall).read_back happend
  rw [if_neg hdropped] at hread
  have hstored : (run .UNIX_EPOCH).failure_details = ⟨[locked], 1⟩ := by decide
  rw [hstored] at hcount
  exact ⟨database, after, record, hall, happend, hcount, hread⟩

end DroppedDetails

end ResticPal
