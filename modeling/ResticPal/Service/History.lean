import Mathlib.Data.List.Sort
import ResticPal.Core.Status
import ResticPal.Lib.BTreeMap
import ResticPal.Rust.Text
/-!
# The history of backup runs

`resticpal-service/src/history.rs`: the two tables of `state.db`, and `recent`,
which reads the runs and of the failed items only how many there are.
`recent_eq_of_summary` says that nothing else of the tables shows.
-/

open Lib

namespace ResticPal

def MAX_HISTORY_RESULTS : Nat := 100
def MAX_IDENTIFIER_BYTES : Nat := 128

/-- What `recent` can fail with. Opening, protecting and initializing the database fails as a whole. -/
inductive HistoryError where
  | Unusable
  | Database
  | InvalidTimestamp (milliseconds : Int)
  | InvalidOutcome (value : String)
  | InvalidUnsignedValue (field : String)
  deriving DecidableEq

/-- A row of `backup_runs`, apart from its id. -/
structure StoredRun where
  started_at_ms : Int
  completed_at_ms : Int
  outcome : String
  error_code : Option String := none
  files_processed : Option Int := none
  bytes_processed : Option Int := none
  data_added : Option Int := none
  snapshot_id : Option String := none
  failed_items_omitted : Int := 0
  deriving DecidableEq

/-- A row of `backup_run_failed_items`. -/
structure FailedItem where
  run_id : Int
  ordinal : Int
  item : String
  deriving DecidableEq

structure HistoryTables where
  backup_runs : BTreeMap Int StoredRun
  failed_items : List FailedItem

/-- `state.db`. -/
inductive HistoryFile where
  | missing
  | unusable
  | database (tables : HistoryTables)

/-- A row of the query of `recent`. -/
structure RawRunRecord where
  id : Int
  started_at_ms : Int
  completed_at_ms : Int
  outcome : String
  error_code : Option String
  files_processed : Option Int
  bytes_processed : Option Int
  data_added : Option Int
  snapshot_id : Option String
  failed_item_count : Int
  deriving DecidableEq

/-! ## The query -/

/-- SQLite's `length` of a text: its characters before the first NUL. -/
def sql_length (text : String) : Nat := (text.toList.takeWhile (· ≠ '\x00')).length

/-- `CASE WHEN length(text) <= 128 THEN text END`. -/
def at_most_128 (text : Option String) : Option String := text.filter (fun text => sql_length text ≤ 128)

def HistoryTables.failed_item_count (tables : HistoryTables) (id : Int) : Nat :=
  tables.failed_items.countP (fun failed => failed.run_id = id)

/-- What the query selects of one run. -/
def HistoryTables.select (tables : HistoryTables) (id : Int) (run : StoredRun) : RawRunRecord where
  id
  started_at_ms := run.started_at_ms
  completed_at_ms := run.completed_at_ms
  outcome := run.outcome
  error_code := at_most_128 run.error_code
  files_processed := run.files_processed
  bytes_processed := run.bytes_processed
  data_added := run.data_added
  snapshot_id := at_most_128 run.snapshot_id
  failed_item_count := run.failed_items_omitted + tables.failed_item_count id

def HistoryTables.rows (tables : HistoryTables) : List RawRunRecord :=
  tables.backup_runs.entries.map (fun entry => tables.select entry.1 entry.2)

/-- `ORDER BY completed_at_ms DESC, id DESC`. -/
def RawRunRecord.Before (a b : RawRunRecord) : Prop :=
  b.completed_at_ms < a.completed_at_ms ∨ a.completed_at_ms = b.completed_at_ms ∧ b.id ≤ a.id

instance : DecidableRel RawRunRecord.Before := fun _ _ => inferInstanceAs (Decidable (_ ∨ _ ∧ _))

/-! ## Decoding -/

def parse_outcome : String → Except HistoryError BackupRunOutcome
  | "succeeded" => .ok .Succeeded
  | "succeeded_with_warnings" => .ok .SucceededWithWarnings
  | "failed" => .ok .Failed
  | "cancelled" => .ok .Cancelled
  | value => .error (.InvalidOutcome value)

/-- `is_ascii_alphanumeric`, `_` or `-`. -/
def is_identifier_byte (byte : UInt8) : Bool :=
  (0x30 ≤ byte && byte ≤ 0x39) || (0x41 ≤ byte && byte ≤ 0x5a) || (0x61 ≤ byte && byte ≤ 0x7a) ||
    byte == 0x5f || byte == 0x2d

def sanitize_identifier (value : String) : Option String :=
  let bytes := Text.as_bytes value
  if bytes.isEmpty || bytes.length > MAX_IDENTIFIER_BYTES || !bytes.all is_identifier_byte then none else some value

def timestamp (milliseconds : Int) : Except HistoryError DateTime :=
  match DateTime.timestamp_millis_opt milliseconds with
  | some time => .ok time
  | none => .error (.InvalidTimestamp milliseconds)

def from_sql_integer (value : Int) (field : String) : Except HistoryError UInt64 :=
  if 0 ≤ value then .ok (UInt64.ofNat value.toNat) else .error (.InvalidUnsignedValue field)

/-- `value.map(|value| from_sql_integer(value, field)).transpose()`. -/
def from_sql_optional (value : Option Int) (field : String) : Except HistoryError (Option UInt64) :=
  match value with
  | some value => (from_sql_integer value field).map some
  | none => .ok none

/-- `row.get`, and `BackupRunRecord::try_from`. The sum of the query is no integer where it overflows. -/
def RawRunRecord.decode (run : RawRunRecord) : Except HistoryError BackupRunRecord := do
  if 2 ^ 63 ≤ run.failed_item_count then throw .Database
  let id ← from_sql_integer run.id "id"
  let started_at ← timestamp run.started_at_ms
  let completed_at ← timestamp run.completed_at_ms
  let outcome ← parse_outcome run.outcome
  let files_processed ← from_sql_optional run.files_processed "files_processed"
  let bytes_processed ← from_sql_optional run.bytes_processed "bytes_processed"
  let data_added ← from_sql_optional run.data_added "data_added"
  let failed_item_count ← from_sql_integer run.failed_item_count "failed_item_count"
  return {
    id, started_at, completed_at, outcome, files_processed, bytes_processed, data_added, failed_item_count
    error_code := run.error_code.bind sanitize_identifier
    snapshot_id := run.snapshot_id.bind sanitize_identifier }

/-- `BackupHistoryStore::recent`. -/
def HistoryFile.recent (limit : Nat) : HistoryFile → Except HistoryError (List BackupRunRecord)
  | .missing => .ok []
  | .unusable => .error .Unusable
  | .database tables =>
    ((tables.rows.insertionSort RawRunRecord.Before).take (max 1 (min limit MAX_HISTORY_RESULTS))).mapM
      RawRunRecord.decode

/-! ## What shows of the tables -/

/-- The summary of each run, by its id; `none` where the history cannot be read. -/
def HistoryFile.summary : HistoryFile → Option (Int → Option RawRunRecord)
  | .missing => some (fun _ => none)
  | .unusable => none
  | .database tables => some (fun id => (tables.backup_runs.get? id).map (tables.select id))

theorem lookupEntry_select (select : Int → StoredRun → RawRunRecord) (entries : List (Int × StoredRun)) (id : Int) :
    BTreeMap.lookupEntry id (entries.map fun entry => (entry.1, select entry.1 entry.2)) =
      (BTreeMap.lookupEntry id entries).map (select id) := by
  induction entries with
  | nil => rfl
  | cons entry entries ih =>
    simp only [List.map_cons, BTreeMap.lookupEntry]
    by_cases hid : id = entry.1
    · subst hid
      simp
    · rw [if_neg hid, if_neg hid, ih]

/-- The rows of the query, with their ids, in the order of the table. -/
theorem rows_eq_of_summary {tables others : HistoryTables}
    (h : ∀ id, (tables.backup_runs.get? id).map (tables.select id) = (others.backup_runs.get? id).map (others.select id)) :
    tables.rows = others.rows := by
  let keyed (tables : HistoryTables) : List (Int × RawRunRecord) :=
    tables.backup_runs.entries.map fun entry => (entry.1, tables.select entry.1 entry.2)
  have sorted (tables : HistoryTables) : (keyed tables).Pairwise (fun a b => a.1 < b.1) :=
    List.pairwise_map.2 tables.backup_runs.sorted
  have heq : keyed tables = keyed others := by
    refine BTreeMap.entries_ext (sorted tables) (sorted others) fun id => ?_
    rw [lookupEntry_select, lookupEntry_select]
    exact h id
  have rows (tables : HistoryTables) : tables.rows = (keyed tables).map Prod.snd := by
    rw [List.map_map]
    rfl
  rw [rows, rows, heq]

/-- Histories with the same summaries show the same runs. -/
theorem recent_eq_of_summary {file other : HistoryFile} (h : file.summary = other.summary) (limit : Nat) :
    file.recent limit = other.recent limit := by
  have empty {tables : HistoryTables} (h : ∀ id, (tables.backup_runs.get? id).map (tables.select id) = none) :
      (HistoryFile.database tables).recent limit = .ok [] := by
    have hrows : tables.rows = [] := @rows_eq_of_summary tables ⟨∅, []⟩ h
    rw [HistoryFile.recent, hrows, List.insertionSort_nil, List.take_nil]
    rfl
  cases file with
  | missing =>
    cases other with
    | missing => rfl
    | unusable => cases h
    | database tables => exact (empty fun id => (congrFun (Option.some.inj h) id).symm).symm
  | unusable =>
    cases other with
    | unusable => rfl
    | _ => cases h
  | database tables =>
    cases other with
    | missing => exact empty fun id => congrFun (Option.some.inj h) id
    | unusable => cases h
    | database others =>
      rw [HistoryFile.recent, HistoryFile.recent, rows_eq_of_summary fun id => congrFun (Option.some.inj h) id]

end ResticPal
