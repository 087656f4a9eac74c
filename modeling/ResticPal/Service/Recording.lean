import ResticPal.Lib.Runs
import ResticPal.Lib.Tally
import ResticPal.Lib.Window
import ResticPal.Service.History
import ResticPal.Service.Output
/-!
# Recording runs

`resticpal-service/src/history.rs`: `append` inserts a run and its failed items and
prunes the table to `MAX_STORED_RUNS`, in one transaction; `failure_details` reads the
items of a run back. SQLite's part is the order of a query, the keys of an
`AUTOINCREMENT` column and `ON DELETE CASCADE`.

- `KeepsNewest.append`: what the tables hold after an append, exactly.
- `newest_runs_are_kept`: the last 200 runs are stored and found, as long as a full
  history drops its oldest run.
- `ClockSetBack.new_run_is_dropped`, `recent_zero_shows_one`: a history that does not,
  and a limit that is not kept.
-/

open Lib Lib.Window

namespace ResticPal

def MAX_STORED_RUNS : Nat := 200

/-- `u64::MAX`. -/
def U64_MAX : Nat := 2 ^ 64 - 1

/-- `i64::MAX`. -/
def I64_MAX : Nat := 2 ^ 63 - 1

structure CompletedBackupRun where
  started_at : DateTime
  completed_at : DateTime
  outcome : BackupRunOutcome
  error_code : Option String
  files_processed : Option UInt64
  bytes_processed : Option UInt64
  data_added : Option UInt64
  snapshot_id : Option String
  failed_items : List String
  failed_items_omitted : UInt64

structure StoredRunFailureDetails where
  items : List String
  omitted : UInt64
  deriving DecidableEq

/-! ## Encoding -/

/-- `timestamp_millis`, which rounds down. -/
def DateTime.timestamp_millis (time : DateTime) : Int := time.nanos / 1000000

def outcome_name : BackupRunOutcome → String
  | .Succeeded => "succeeded"
  | .SucceededWithWarnings => "succeeded_with_warnings"
  | .Failed => "failed"
  | .Cancelled => "cancelled"

def to_sql_integer (value : UInt64) : Int := if value.toNat ≤ I64_MAX then value.toNat else I64_MAX

def normalize_sql_unsigned (value : UInt64) : UInt64 := min value (UInt64.ofNat I64_MAX)

/-- The body of the loop of `normalize_failure_details`. -/
def normalize_item (details : StoredRunFailureDetails) (item : String) : StoredRunFailureDetails :=
  if details.items.contains item then details
  else if details.items.length ≥ MAX_BACKUP_FAILED_ITEMS || !is_safe_backup_failed_item item then
    { details with omitted := saturating_add details.omitted 1 }
  else { details with items := details.items ++ [item] }

def normalize_failure_details (items : List String) (omitted : UInt64) : StoredRunFailureDetails :=
  let normalized := items.foldl normalize_item ⟨[], omitted⟩
  { normalized with omitted := min normalized.omitted (UInt64.ofNat (I64_MAX - normalized.items.length)) }

namespace CompletedBackupRun

def failure_details (run : CompletedBackupRun) : StoredRunFailureDetails :=
  normalize_failure_details run.failed_items run.failed_items_omitted

/-- The row that `append` inserts. -/
def stored (run : CompletedBackupRun) : StoredRun where
  started_at_ms := run.started_at.timestamp_millis
  completed_at_ms := run.completed_at.timestamp_millis
  outcome := outcome_name run.outcome
  error_code := run.error_code.bind sanitize_identifier
  files_processed := (run.files_processed.map normalize_sql_unsigned).map to_sql_integer
  bytes_processed := (run.bytes_processed.map normalize_sql_unsigned).map to_sql_integer
  data_added := (run.data_added.map normalize_sql_unsigned).map to_sql_integer
  snapshot_id := run.snapshot_id.bind sanitize_identifier
  failed_items_omitted := to_sql_integer run.failure_details.omitted

/-- The rows of its failed items. -/
def stored_items (id : Int) (run : CompletedBackupRun) : List FailedItem :=
  run.failure_details.items.mapIdx (fun ordinal item => ⟨id, ordinal, item⟩)

/-- The record that `append` returns. -/
def record (id : UInt64) (run : CompletedBackupRun) : Except HistoryError BackupRunRecord := do
  let started_at ← timestamp run.started_at.timestamp_millis
  let completed_at ← timestamp run.completed_at.timestamp_millis
  return {
    id, started_at, completed_at
    outcome := run.outcome
    error_code := run.error_code.bind sanitize_identifier
    files_processed := run.files_processed.map normalize_sql_unsigned
    bytes_processed := run.bytes_processed.map normalize_sql_unsigned
    data_added := run.data_added.map normalize_sql_unsigned
    snapshot_id := run.snapshot_id.bind sanitize_identifier
    failed_item_count := saturating_add (UInt64.ofNat run.failure_details.items.length) run.failure_details.omitted }

end CompletedBackupRun

/-! ## The store -/

/-- `SELECT id FROM backup_runs ORDER BY completed_at_ms DESC, id DESC LIMIT 200`. -/
def HistoryTables.newest (tables : HistoryTables) : List Int :=
  ((tables.rows.insertionSort RawRunRecord.Before).take MAX_STORED_RUNS).map RawRunRecord.id

/-- `prune`. A deleted run takes its failed items with it. -/
def HistoryTables.prune (tables : HistoryTables) : HistoryTables where
  backup_runs := tables.backup_runs.filterKeys (fun id => id ∈ tables.newest)
  failed_items := tables.failed_items.filter
    (fun failed => !(tables.backup_runs.contains failed.run_id && failed.run_id ∉ tables.newest))

/-- `state.db`, with the largest id that was ever given out. -/
structure HistoryDatabase where
  tables : HistoryTables
  sqlite_sequence : Int

namespace HistoryDatabase

def new : HistoryDatabase := ⟨⟨∅, []⟩, 0⟩

/-- `BackupHistoryStore::append`. An id that is no `i64` is a database error, and a failed
transaction changes nothing. -/
def append (database : HistoryDatabase) (run : CompletedBackupRun) :
    HistoryDatabase × Except HistoryError BackupRunRecord :=
  let rowid := database.sqlite_sequence + 1
  if I64_MAX < rowid then (database, .error .Database)
  else match from_sql_integer rowid "id" with
    | .error error => (database, .error error)
    | .ok id =>
      let inserted : HistoryTables := {
        backup_runs := database.tables.backup_runs.insert rowid run.stored
        failed_items := database.tables.failed_items ++ run.stored_items rowid }
      (⟨inserted.prune, rowid⟩, run.record id)

/-- An append without a database error. -/
def step (database : HistoryDatabase) (run : CompletedBackupRun) : Option HistoryDatabase :=
  match database.append run with
  | (after, .ok _) => some after
  | (_, .error _) => none

end HistoryDatabase

/-- The items that `failure_details` shows of those it reads. -/
def shown_items (rows : List FailedItem) : List String :=
  rows.foldl (fun items row =>
    if is_safe_backup_failed_item row.item && !items.contains row.item then items ++ [row.item] else items) []

/-- `BackupHistoryStore::failure_details`, on an open database. -/
def HistoryTables.failure_details (tables : HistoryTables) (run_id : UInt64) :
    Except HistoryError (Option StoredRunFailureDetails) :=
  if I64_MAX < run_id.toNat then .ok none
  else match tables.backup_runs.get? run_id.toNat with
    | none => .ok none
    | some run => do
      let omitted ← from_sql_integer run.failed_items_omitted "failed_items_omitted"
      let stored_count ← from_sql_integer (tables.failed_item_count run_id.toNat) "failed_item_count"
      let rows := ((tables.failed_items.filter (fun failed => failed.run_id = (run_id.toNat : Int))).insertionSort
        (fun a b => a.ordinal ≤ b.ordinal)).take MAX_BACKUP_FAILED_ITEMS
      let items := shown_items rows
      let retained := UInt64.ofNat items.length
      return some ⟨items, saturating_add omitted (if retained ≤ stored_count then stored_count - retained else 0)⟩

/-! ## Normalized details -/

/-- Items that are safe, different and few. -/
abbrev Presentable (items : List String) : Prop :=
  Tally.Bounded is_safe_backup_failed_item MAX_BACKUP_FAILED_ITEMS items

/-- The details are the tally, with a counter that stops at its largest value. -/
structure Tallies (details : BackupFailureDetails) (tally : Tally String) : Prop where
  items : details.items = tally.items
  omitted : details.omitted.toNat = min tally.omitted U64_MAX

theorem toNat_saturating_add (a b : UInt64) : (saturating_add a b).toNat = min (a.toNat + b.toNat) U64_MAX := by
  unfold saturating_add U64_MAX
  split
  · rename_i h
    rw [UInt64.toNat_add, Nat.mod_eq_of_lt h]
    omega
  · rename_i h
    have hmax : (0xffffffffffffffff : UInt64).toNat = 2 ^ 64 - 1 := rfl
    rw [hmax]
    omega

namespace Tallies

variable {details : BackupFailureDetails} {tally : Tally String}

theorem start (omitted : UInt64) : Tallies ⟨[], omitted⟩ ⟨[], omitted.toNat⟩ := by
  refine ⟨rfl, ?_⟩
  have hlt := omitted.toNat_lt
  dsimp only
  unfold U64_MAX
  omega

theorem counted (h : Tallies details tally) :
    Tallies { details with omitted := saturating_add details.omitted 1 } { tally with omitted := tally.omitted + 1 } := by
  refine ⟨h.items, ?_⟩
  have homitted := h.omitted
  rw [toNat_saturating_add, UInt64.toNat_one, homitted]
  dsimp only
  omega

theorem push (h : Tallies details tally) (item : String) :
    Tallies (details.push item) (tally.push is_safe_backup_failed_item MAX_BACKUP_FAILED_ITEMS item) := by
  unfold BackupFailureDetails.push Tally.push
  rw [h.items]
  by_cases hmem : item ∈ tally.items
  · rw [if_pos (List.contains_iff_mem.2 hmem), if_pos hmem]
    exact h
  · rw [if_neg (mt List.contains_iff_mem.1 hmem), if_neg hmem]
    by_cases hkept : is_safe_backup_failed_item item = true ∧ tally.items.length < MAX_BACKUP_FAILED_ITEMS
    · rw [if_pos hkept, if_neg (by simp [hkept.1, hkept.2])]
      exact ⟨rfl, h.omitted⟩
    · have homitted : (!is_safe_backup_failed_item item || decide (tally.items.length ≥ MAX_BACKUP_FAILED_ITEMS)) = true := by
        rcases Decidable.not_and_iff_not_or_not.1 hkept with hunsafe | hfull
        · rw [Bool.eq_false_iff.2 hunsafe]
          rfl
        · rw [decide_eq_true (Nat.not_lt.1 hfull), Bool.or_true]
      rw [if_neg hkept, if_pos homitted]
      have hcounted := h.counted
      rw [h.items] at hcounted
      exact hcounted

theorem foldl_push (h : Tallies details tally) (items : List String) :
    Tallies (items.foldl BackupFailureDetails.push details)
      (items.foldl (Tally.push is_safe_backup_failed_item MAX_BACKUP_FAILED_ITEMS) tally) := by
  induction items generalizing details tally with
  | nil => exact h
  | cons item items ih => exact ih (h.push item)

end Tallies

/-- The second normalisation is the same collection. -/
theorem normalize_item_eq (details : BackupFailureDetails) (item : String) :
    normalize_item ⟨details.items, details.omitted⟩ item = ⟨(details.push item).items, (details.push item).omitted⟩ := by
  unfold normalize_item BackupFailureDetails.push
  dsimp only
  rw [Bool.or_comm]
  split
  · rfl
  · split <;> rfl

theorem foldl_normalize_item (items : List String) (details : BackupFailureDetails) :
    items.foldl normalize_item ⟨details.items, details.omitted⟩ =
      ⟨(items.foldl BackupFailureDetails.push details).items, (items.foldl BackupFailureDetails.push details).omitted⟩ := by
  induction items generalizing details with
  | nil => rfl
  | cons item items ih => rw [List.foldl_cons, normalize_item_eq, ih, List.foldl_cons]

theorem normalize_presentable (items : List String) (omitted : UInt64) :
    Presentable (normalize_failure_details items omitted).items := by
  show Presentable (items.foldl normalize_item ⟨[], omitted⟩).items
  rw [foldl_normalize_item items ⟨[], omitted⟩, ((Tallies.start omitted).foldl_push items).items]
  exact Tally.bounded_nil.foldl_push items

theorem toNat_min_le (a b : UInt64) : (min a b).toNat ≤ b.toNat := by
  show (if a ≤ b then a else b).toNat ≤ b.toNat
  split
  · rename_i h
    exact UInt64.le_iff_toNat_le.1 h
  · exact Nat.le_refl _

/-- The counts of a run fit the column, together. -/
theorem normalize_omitted_le (items : List String) (omitted : UInt64) :
    (normalize_failure_details items omitted).omitted.toNat + (normalize_failure_details items omitted).items.length ≤
      I64_MAX := by
  have hlength := (normalize_presentable items omitted).length
  unfold normalize_failure_details at hlength ⊢
  dsimp only at hlength ⊢
  generalize items.foldl normalize_item ⟨[], omitted⟩ = details at hlength ⊢
  have hmin : (min details.omitted (UInt64.ofNat (I64_MAX - details.items.length))).toNat ≤ I64_MAX - details.items.length := by
    refine Nat.le_trans (toNat_min_le _ _) ?_
    rw [UInt64.toNat_ofNat']
    exact Nat.mod_le _ _
  unfold MAX_BACKUP_FAILED_ITEMS at hlength
  unfold I64_MAX at hmin ⊢
  omega

theorem saturating_add_zero (a : UInt64) : saturating_add a 0 = a := by
  have hlt := a.toNat_lt
  unfold saturating_add
  rw [if_pos (by simpa using hlt), UInt64.add_zero]

theorem to_sql_integer_eq {value : UInt64} (h : value.toNat ≤ I64_MAX) : to_sql_integer value = value.toNat := if_pos h

theorem to_sql_integer_nonneg (value : UInt64) : 0 ≤ to_sql_integer value := by
  unfold to_sql_integer
  split
  · omega
  · exact Int.natCast_nonneg _

theorem from_sql_integer_toNat (value : UInt64) (field : String) : from_sql_integer value.toNat field = .ok value := by
  rw [from_sql_integer, if_pos (Int.natCast_nonneg _), Int.toNat_natCast, UInt64.ofNat_toNat]

/-- Rows of presentable items are shown as they are. -/
theorem shown_items_eq {items : List String} (h : Presentable items) (id : Int) :
    shown_items (items.mapIdx (fun ordinal item => ⟨id, ordinal, item⟩)) = items := by
  have hfold (items shown : List String) (hsafe : ∀ item ∈ items, is_safe_backup_failed_item item = true)
      (hnodup : (shown ++ items).Nodup) :
      items.foldl (fun shown item => if is_safe_backup_failed_item item && !shown.contains item then shown ++ [item] else shown)
        shown = shown ++ items := by
    induction items generalizing shown with
    | nil => rw [List.foldl_nil, List.append_nil]
    | cons item items ih =>
      have hnew : ¬ shown.contains item = true := by
        rw [List.contains_iff_mem]
        exact fun hmem => (List.nodup_append.1 hnodup).2.2 item hmem item List.mem_cons_self rfl
      have hcond : (is_safe_backup_failed_item item && !shown.contains item) = true := by
        rw [hsafe item List.mem_cons_self, Bool.eq_false_iff.2 hnew]
        rfl
      rw [List.foldl_cons, if_pos hcond, ih _ (fun other hother => hsafe other (List.mem_cons_of_mem _ hother))]
      · rw [List.append_assoc, List.singleton_append]
      · rw [List.append_assoc, List.singleton_append]
        exact hnodup
  have hitems : (items.mapIdx (fun ordinal item => (⟨id, ordinal, item⟩ : FailedItem))).map FailedItem.item = items := by
    simp [List.mapIdx_eq_zipIdx_map, Function.comp_def]
  have hrows := hfold items [] h.acceptable h.nodup
  unfold shown_items
  rw [← hitems, List.foldl_map] at hrows
  rw [hrows, hitems]
  rfl

theorem timestamp_of_millis (time : DateTime) : ∃ rounded, timestamp time.timestamp_millis = .ok rounded := by
  obtain ⟨nanos, lower, upper⟩ := time
  have hbounds : -8334601228800 * 1000000000 ≤ nanos / 1000000 * 1000000 ∧
      nanos / 1000000 * 1000000 ≤ 8210266876799 * 1000000000 + 999999999 := by omega
  rw [timestamp, DateTime.timestamp_millis, DateTime.timestamp_millis_opt, dif_pos hbounds]
  exact ⟨_, rfl⟩

theorem parse_outcome_name (outcome : BackupRunOutcome) : parse_outcome (outcome_name outcome) = .ok outcome := by
  cases outcome <;> rfl

theorem from_sql_optional_ok (value : Option UInt64) (field : String) :
    ∃ read, from_sql_optional ((value.map normalize_sql_unsigned).map to_sql_integer) field = .ok read := by
  cases value with
  | none => exact ⟨none, rfl⟩
  | some value =>
    rw [Option.map_some, Option.map_some, from_sql_optional, from_sql_integer, if_pos (to_sql_integer_nonneg _)]
    exact ⟨_, rfl⟩

theorem mapM_ok {α β ε : Type} {f : α → Except ε β} {p : β → Prop} {l : List α} (h : ∀ a ∈ l, ∃ b, f a = .ok b ∧ p b) :
    ∃ bs, l.mapM f = .ok bs ∧ bs.length = l.length ∧ ∀ b ∈ bs, p b := by
  induction l with
  | nil => exact ⟨[], rfl, rfl, nofun⟩
  | cons a l ih =>
    obtain ⟨b, hb, hpb⟩ := h a List.mem_cons_self
    obtain ⟨bs, hbs, hlength, hp⟩ := ih fun c hc => h c (List.mem_cons_of_mem _ hc)
    refine ⟨b :: bs, ?_, congrArg (· + 1) hlength, List.forall_mem_cons.2 ⟨hpb, hp⟩⟩
    rw [List.mapM_cons, hb, hbs]
    rfl

/-! ## What the tables hold -/

/-- The runs that a history of the last 200 keeps, with their ids. -/
def kept (runs : List CompletedBackupRun) : List (Int × CompletedBackupRun) := window MAX_STORED_RUNS (number runs)

/-- The tables that hold given runs. -/
structure Stores (tables : HistoryTables) (runs : List (Int × CompletedBackupRun)) : Prop where
  backup_runs : tables.backup_runs.entries = runs.map (fun e => (e.1, e.2.stored))
  failed_items : tables.failed_items = runs.flatMap (fun e => e.2.stored_items e.1)

theorem stored_items_run_id (e : Int × CompletedBackupRun) : ∀ row ∈ e.2.stored_items e.1, row.run_id = e.1 := by
  intro row hrow
  obtain ⟨ordinal, hlt, rfl⟩ := List.mem_mapIdx.1 hrow
  rfl

namespace Stores

variable {tables : HistoryTables} {runs keep : List (Int × CompletedBackupRun)}

theorem sorted (h : Stores tables runs) : runs.Pairwise (fun a b => a.1 < b.1) := by
  have hsorted := tables.backup_runs.sorted
  rw [h.backup_runs] at hsorted
  exact (List.pairwise_map.1 hsorted :)

theorem get? (h : Stores tables runs) {e : Int × CompletedBackupRun} (he : e ∈ runs) :
    tables.backup_runs.get? e.1 = some e.2.stored := by
  refine (BTreeMap.lookupEntry_some tables.backup_runs.sorted).2 ?_
  rw [h.backup_runs]
  exact List.mem_map.2 ⟨e, he, rfl⟩

theorem rows_eq (h : Stores tables runs) : tables.rows = runs.map (fun e => tables.select e.1 e.2.stored) := by
  rw [HistoryTables.rows, h.backup_runs, List.map_map]
  rfl

/-- The items of a stored run. -/
theorem items (h : Stores tables runs) {e : Int × CompletedBackupRun} (he : e ∈ runs) :
    tables.failed_items.filter (fun failed => failed.run_id = e.1) = e.2.stored_items e.1 := by
  rw [h.failed_items]
  exact filter_flatMap_eq (fun e => e.2.stored_items e.1) FailedItem.run_id stored_items_run_id
    (h.sorted.imp (fun hlt => hlt.ne)) he

theorem failed_item_count (h : Stores tables runs) {e : Int × CompletedBackupRun} (he : e ∈ runs) :
    tables.failed_item_count e.1 = e.2.failure_details.items.length := by
  rw [HistoryTables.failed_item_count, List.countP_eq_length_filter, h.items he]
  exact List.length_mapIdx

/-- No failed item without its run. -/
theorem no_orphans (h : Stores tables runs) {failed : FailedItem} (hf : failed ∈ tables.failed_items) :
    (tables.backup_runs.get? failed.run_id).isSome = true := by
  rw [h.failed_items] at hf
  obtain ⟨e, he, hrow⟩ := List.mem_flatMap.1 hf
  rw [stored_items_run_id e failed hrow, h.get? he]
  rfl

/-- A run and its items go in behind the others. -/
theorem insert (h : Stores tables runs) {id : Int} (hid : ∀ e ∈ runs, e.1 < id) (run : CompletedBackupRun) :
    Stores ⟨tables.backup_runs.insert id run.stored, tables.failed_items ++ run.stored_items id⟩ (runs ++ [(id, run)]) := by
  constructor
  · show BTreeMap.insertEntry id run.stored tables.backup_runs.entries = _
    have hlast : ∀ entry ∈ tables.backup_runs.entries, entry.1 < id := by
      intro entry hentry
      rw [h.backup_runs] at hentry
      obtain ⟨e, he, rfl⟩ := List.mem_map.1 hentry
      exact hid e he
    rw [BTreeMap.insertEntry_last hlast, h.backup_runs, List.map_append]
    rfl
  · rw [h.failed_items, List.flatMap_append, List.flatMap_singleton]

/-- Pruning keeps what the query names. -/
theorem prune (dropped : List (Int × CompletedBackupRun)) (h : Stores tables (dropped ++ keep))
    (hnewest : ∀ id, id ∈ tables.newest ↔ id ∈ keep.map Prod.fst) : Stores tables.prune keep := by
  have hsorted := h.sorted
  have hkeep : ∀ e ∈ keep, e.1 ∈ tables.newest := by
    intro e he
    rw [hnewest]
    exact List.mem_map.2 ⟨e, he, rfl⟩
  have hdropped : ∀ e ∈ dropped, e.1 ∉ tables.newest := by
    intro e he hmem
    rw [hnewest] at hmem
    obtain ⟨k, hk, heq⟩ := List.mem_map.1 hmem
    have hlt := (List.pairwise_append.1 hsorted).2.2 e he k hk
    rw [heq] at hlt
    exact lt_irrefl _ hlt
  constructor
  · show (tables.backup_runs.entries.filter _) = _
    rw [h.backup_runs, List.map_eq_flatMap, List.map_eq_flatMap]
    refine filter_flatMap_append _ ?_ ?_
    · intro e he row hrow
      rw [List.mem_singleton.1 hrow]
      exact decide_eq_false (hdropped e he)
    · intro e he row hrow
      rw [List.mem_singleton.1 hrow]
      exact decide_eq_true (hkeep e he)
  · show (tables.failed_items.filter _) = _
    rw [h.failed_items]
    refine filter_flatMap_append _ ?_ ?_
    · intro e he row hrow
      have hstored := h.get? (List.mem_append_left keep he)
      simp [stored_items_run_id e row hrow, BTreeMap.contains, hstored, hdropped e he]
    · intro e he row hrow
      simp [stored_items_run_id e row hrow, hkeep e he]

theorem prune_get?_none {id : Int} (h : id ∉ tables.newest) : tables.prune.backup_runs.get? id = none := by
  rw [Option.eq_none_iff_forall_not_mem]
  intro run hrun
  have hmem := (BTreeMap.lookupEntry_some tables.prune.backup_runs.sorted).1 hrun
  exact h (of_decide_eq_true (List.mem_filter.1 hmem).2)

/-- The ids of sorted rows. -/
theorem mem_sorted_ids {l : List (Int × CompletedBackupRun)} (id : Int) :
    id ∈ ((l.map (fun e => tables.select e.1 e.2.stored)).insertionSort RawRunRecord.Before).map RawRunRecord.id ↔
      id ∈ l.map Prod.fst := by
  simp only [List.mem_map, List.mem_insertionSort]
  constructor
  · rintro ⟨row, ⟨e, he, rfl⟩, rfl⟩
    exact ⟨e, he, rfl⟩
  · rintro ⟨e, he, rfl⟩
    exact ⟨_, ⟨e, he, rfl⟩, rfl⟩

/-- A table that is not too large keeps all. -/
theorem newest_of_le (h : Stores tables runs) (hle : runs.length ≤ MAX_STORED_RUNS) (id : Int) :
    id ∈ tables.newest ↔ id ∈ runs.map Prod.fst := by
  rw [HistoryTables.newest, h.rows_eq, take_insertionSort_of_le _ (by rw [List.length_map]; exact hle)]
  exact mem_sorted_ids id

/-- A table with one run too many drops the first, when none completed before it. -/
theorem newest_of_oldest {oldest : Int × CompletedBackupRun} (h : Stores tables (oldest :: keep))
    (hlength : keep.length = MAX_STORED_RUNS)
    (hcompleted : ∀ e ∈ keep, oldest.2.stored.completed_at_ms ≤ e.2.stored.completed_at_ms) (id : Int) :
    id ∈ tables.newest ↔ id ∈ keep.map Prod.fst := by
  have hlast : ∀ row ∈ keep.map (fun e => tables.select e.1 e.2.stored),
      ¬ (tables.select oldest.1 oldest.2.stored).Before row := by
    intro row hrow
    obtain ⟨e, he, rfl⟩ := List.mem_map.1 hrow
    have hid := (List.pairwise_cons.1 h.sorted).1 e he
    have hcompleted := hcompleted e he
    simp only [RawRunRecord.Before, HistoryTables.select]
    omega
  have hrows : (keep.map (fun e => tables.select e.1 e.2.stored)).length = MAX_STORED_RUNS := by
    rw [List.length_map, hlength]
  rw [HistoryTables.newest, h.rows_eq, List.map_cons, ← hrows, take_insertionSort_cons _ hlast]
  exact mem_sorted_ids id

/-- A table with one run too many drops the new one, when it completed before all others. -/
theorem newest_of_earlier {new : Int × CompletedBackupRun} (h : Stores tables (keep ++ [new]))
    (hlength : keep.length = MAX_STORED_RUNS)
    (hcompleted : ∀ e ∈ keep, new.2.stored.completed_at_ms < e.2.stored.completed_at_ms) (id : Int) :
    id ∈ tables.newest ↔ id ∈ keep.map Prod.fst := by
  have hlast : ∀ row ∈ keep.map (fun e => tables.select e.1 e.2.stored),
      row.Before (tables.select new.1 new.2.stored) := by
    intro row hrow
    obtain ⟨e, he, rfl⟩ := List.mem_map.1 hrow
    exact .inl (hcompleted e he)
  have hrows : (keep.map (fun e => tables.select e.1 e.2.stored)).length = MAX_STORED_RUNS := by
    rw [List.length_map, hlength]
  rw [HistoryTables.newest, h.rows_eq, List.map_append, ← hrows, List.map_singleton, take_insertionSort_snoc _ hlast]
  exact mem_sorted_ids id

/-! ## What is read back -/

/-- A stored run can be decoded. -/
theorem decode_ok (h : Stores tables runs) (hpos : ∀ e ∈ runs, 0 ≤ e.1) {e : Int × CompletedBackupRun} (he : e ∈ runs) :
    ∃ record, (tables.select e.1 e.2.stored).decode = .ok record ∧ record.id = UInt64.ofNat e.1.toNat ∧
      record.failed_item_count.toNat = e.2.failure_details.items.length + e.2.failure_details.omitted.toNat := by
  have hcounts : e.2.failure_details.omitted.toNat + e.2.failure_details.items.length ≤ I64_MAX := normalize_omitted_le _ _
  have homitted : e.2.stored.failed_items_omitted = e.2.failure_details.omitted.toNat :=
    to_sql_integer_eq (Nat.le_trans (Nat.le_add_right _ _) hcounts)
  have hcount : (tables.select e.1 e.2.stored).failed_item_count =
      (e.2.failure_details.omitted.toNat + e.2.failure_details.items.length : Nat) := by
    rw [HistoryTables.select, homitted, h.failed_item_count he, Nat.cast_add]
  have hfits : ¬ 2 ^ 63 ≤ (tables.select e.1 e.2.stored).failed_item_count := by
    rw [hcount]
    unfold I64_MAX at hcounts
    omega
  have hnonneg : 0 ≤ (tables.select e.1 e.2.stored).failed_item_count := by
    rw [hcount]
    exact Int.natCast_nonneg _
  obtain ⟨started_at, hstarted⟩ := timestamp_of_millis e.2.started_at
  obtain ⟨completed_at, hcompleted⟩ := timestamp_of_millis e.2.completed_at
  obtain ⟨files, hfiles⟩ := from_sql_optional_ok e.2.files_processed "files_processed"
  obtain ⟨bytes, hbytes⟩ := from_sql_optional_ok e.2.bytes_processed "bytes_processed"
  obtain ⟨data, hdata⟩ := from_sql_optional_ok e.2.data_added "data_added"
  have hid : from_sql_integer e.1 "id" = .ok (UInt64.ofNat e.1.toNat) := if_pos (hpos e he)
  have hread : from_sql_integer (tables.select e.1 e.2.stored).failed_item_count "failed_item_count" =
      .ok (UInt64.ofNat (tables.select e.1 e.2.stored).failed_item_count.toNat) := if_pos hnonneg
  have hexact : (UInt64.ofNat (tables.select e.1 e.2.stored).failed_item_count.toNat).toNat =
      e.2.failure_details.items.length + e.2.failure_details.omitted.toNat := by
    rw [hcount, Int.toNat_natCast, UInt64.toNat_ofNat', Nat.mod_eq_of_lt, Nat.add_comm]
    unfold I64_MAX at hcounts
    omega
  unfold RawRunRecord.decode
  rw [if_neg hfits, hread]
  generalize UInt64.ofNat (tables.select e.1 e.2.stored).failed_item_count.toNat = count at hexact ⊢
  simp only [HistoryTables.select, CompletedBackupRun.stored, hid, hstarted, hcompleted, hfiles, hbytes, hdata,
    parse_outcome_name]
  exact ⟨_, rfl, rfl, hexact⟩

/-- The newest stored runs are shown, as many as asked for. -/
theorem recent_ok (h : Stores tables runs) (hpos : ∀ e ∈ runs, 0 ≤ e.1) (limit : Nat) :
    ∃ records, (HistoryFile.database tables).recent limit = .ok records ∧
      records.length = min (max 1 (min limit MAX_HISTORY_RESULTS)) runs.length ∧
      ∀ record ∈ records, ∃ e ∈ runs, record.id = UInt64.ofNat e.1.toNat ∧
        record.failed_item_count.toNat = e.2.failure_details.items.length + e.2.failure_details.omitted.toNat := by
  rw [HistoryFile.recent, h.rows_eq]
  have hdecode : ∀ row ∈ ((runs.map (fun e => tables.select e.1 e.2.stored)).insertionSort RawRunRecord.Before).take
      (max 1 (min limit MAX_HISTORY_RESULTS)),
      ∃ record, row.decode = .ok record ∧ ∃ e ∈ runs, record.id = UInt64.ofNat e.1.toNat ∧
        record.failed_item_count.toNat = e.2.failure_details.items.length + e.2.failure_details.omitted.toNat := by
    intro row hrow
    obtain ⟨e, he, rfl⟩ := List.mem_map.1 ((List.mem_insertionSort _).1 (List.mem_of_mem_take hrow))
    obtain ⟨record, hrecord, hread⟩ := h.decode_ok hpos he
    exact ⟨record, hrecord, e, he, hread⟩
  obtain ⟨records, hrecords, hlength, hids⟩ := mapM_ok hdecode
  refine ⟨records, hrecords, ?_, hids⟩
  rw [hlength, List.length_take, List.length_insertionSort, List.length_map]

/-- The details of a stored run are the normalized ones. -/
theorem failure_details_eq (h : Stores tables runs) {id : UInt64} {run : CompletedBackupRun} (he : ((id.toNat : Int), run) ∈ runs)
    (hid : id.toNat ≤ I64_MAX) : tables.failure_details id = .ok (some run.failure_details) := by
  have hcounts : run.failure_details.omitted.toNat + run.failure_details.items.length ≤ I64_MAX := normalize_omitted_le _ _
  have hpresentable : Presentable run.failure_details.items := normalize_presentable _ _
  have homitted : run.stored.failed_items_omitted = run.failure_details.omitted.toNat :=
    to_sql_integer_eq (Nat.le_trans (Nat.le_add_right _ _) hcounts)
  have hordered : (run.stored_items id.toNat).Pairwise (fun a b => a.ordinal ≤ b.ordinal) := by
    unfold CompletedBackupRun.stored_items
    rw [List.pairwise_iff_getElem]
    intro i j hi hj hij
    rw [List.getElem_mapIdx, List.getElem_mapIdx]
    exact Int.ofNat_le.2 (Nat.le_of_lt hij)
  have hrows : ((tables.failed_items.filter (fun failed => failed.run_id = (id.toNat : Int))).insertionSort
      (fun a b => a.ordinal ≤ b.ordinal)).take MAX_BACKUP_FAILED_ITEMS = run.stored_items id.toNat := by
    rw [h.items he, hordered.insertionSort_eq, List.take_of_length_le]
    rw [CompletedBackupRun.stored_items, List.length_mapIdx]
    exact hpresentable.length
  have hcount : from_sql_integer (tables.failed_item_count id.toNat) "failed_item_count" =
      .ok (UInt64.ofNat run.failure_details.items.length) := by
    rw [h.failed_item_count he, from_sql_integer, if_pos (Int.natCast_nonneg _), Int.toNat_natCast]
  unfold HistoryTables.failure_details
  rw [if_neg (Nat.not_lt.2 hid), h.get? he]
  dsimp only
  rw [homitted, from_sql_integer_toNat, hcount, hrows, CompletedBackupRun.stored_items, shown_items_eq hpresentable]
  show Except.ok (some (StoredRunFailureDetails.mk _ (saturating_add _ (if _ ≤ _ then _ - _ else 0)))) = _
  rw [if_pos (UInt64.le_refl _), UInt64.sub_self, saturating_add_zero]

end Stores

/-! ## Sequences of appends -/

/-- A full history drops its oldest run: none that it holds completed before that one, and
neither did the new run. -/
def DropsOldest (database : HistoryDatabase) (run : CompletedBackupRun) : Prop :=
  MAX_STORED_RUNS ≤ database.tables.backup_runs.length →
    ∀ oldest ∈ database.tables.backup_runs.entries.head?,
      (∀ entry ∈ database.tables.backup_runs.entries, oldest.2.completed_at_ms ≤ entry.2.completed_at_ms) ∧
      oldest.2.completed_at_ms ≤ run.completed_at.timestamp_millis

/-- What a database holds after `runs`. -/
structure KeepsNewest (runs : List CompletedBackupRun) (database : HistoryDatabase) : Prop where
  sequence : database.sqlite_sequence = runs.length
  tables : Stores database.tables (kept runs)

theorem KeepsNewest.new : KeepsNewest [] .new := ⟨rfl, rfl, rfl⟩

theorem mem_kept {runs : List CompletedBackupRun} {e : Int × CompletedBackupRun} (h : e ∈ kept runs) :
    1 ≤ e.1 ∧ e.1 ≤ runs.length :=
  mem_number (mem_of_mem_window h)

theorem record_ok (run : CompletedBackupRun) (id : UInt64) : ∃ record, run.record id = .ok record ∧ record.id = id := by
  obtain ⟨started_at, hstarted⟩ := timestamp_of_millis run.started_at
  obtain ⟨completed_at, hcompleted⟩ := timestamp_of_millis run.completed_at
  unfold CompletedBackupRun.record
  rw [hstarted, hcompleted]
  exact ⟨_, rfl, rfl⟩

/-- A history that is not full keeps all runs. -/
theorem Stores.prune_room {tables : HistoryTables} {runs : List CompletedBackupRun} {run : CompletedBackupRun}
    (h : Stores tables (kept runs ++ [((runs.length : Int) + 1, run)])) (hroom : runs.length < MAX_STORED_RUNS) :
    Stores tables.prune (kept (runs ++ [run])) := by
  have hkept : kept runs = number runs := window_eq_self (by rw [number_length]; exact Nat.le_of_lt hroom)
  have hnext : kept (runs ++ [run]) = number runs ++ [((runs.length : Int) + 1, run)] := by
    rw [kept, number_snoc, window_eq_self]
    rw [List.length_append, number_length]
    exact hroom
  rw [hkept] at h
  rw [hnext]
  refine Stores.prune [] h (h.newest_of_le ?_)
  rw [List.length_append, number_length]
  exact hroom

/-- A full one drops its oldest. -/
theorem Stores.prune_full {tables : HistoryTables} {runs : List CompletedBackupRun} {run : CompletedBackupRun}
    (h : Stores tables (kept runs ++ [((runs.length : Int) + 1, run)])) (hfull : MAX_STORED_RUNS ≤ runs.length)
    (holdest : ∀ oldest ∈ (kept runs).head?,
      (∀ e ∈ kept runs, oldest.2.stored.completed_at_ms ≤ e.2.stored.completed_at_ms) ∧
      oldest.2.stored.completed_at_ms ≤ run.stored.completed_at_ms) :
    Stores tables.prune (kept (runs ++ [run])) := by
  have hlength : (kept runs).length = MAX_STORED_RUNS := by
    rw [kept, window_length, number_length]
    exact Nat.min_eq_left hfull
  have hnext : kept (runs ++ [run]) = (kept runs).tail ++ [((runs.length : Int) + 1, run)] := by
    rw [kept, number_snoc, window_snoc (by rw [number_length]; exact hfull) (by decide)]
    rfl
  rw [hnext]
  cases hkept : kept runs with
  | nil =>
    rw [hkept] at hlength
    cases hlength
  | cons oldest rest =>
    rw [hkept] at h hlength holdest
    obtain ⟨hheld, hnew⟩ := holdest oldest rfl
    refine Stores.prune [oldest] h (newest_of_oldest h ?_ ?_)
    · rw [List.length_append, List.tail_cons]
      exact hlength
    · intro e he
      rcases List.mem_append.1 he with he | he
      · exact hheld e (List.mem_cons_of_mem _ he)
      · rw [List.mem_singleton.1 he]
        exact hnew

/-- What an append does. -/
theorem HistoryDatabase.append_eq {database after : HistoryDatabase} {stored : List (Int × CompletedBackupRun)} {n : Nat}
    {run : CompletedBackupRun} {record : BackupRunRecord} (hsequence : database.sqlite_sequence = n)
    (hstores : Stores database.tables stored) (hids : ∀ e ∈ stored, e.1 ≤ n)
    (happend : database.append run = (after, .ok record)) :
    ∃ tables, Stores tables (stored ++ [((n : Int) + 1, run)]) ∧ after = ⟨tables.prune, (n : Int) + 1⟩ ∧
      run.record record.id = .ok record ∧ record.id.toNat = n + 1 ∧ n + 1 ≤ I64_MAX := by
  have hrowid : from_sql_integer ((n : Int) + 1) "id" = .ok (UInt64.ofNat (n + 1)) := by
    rw [from_sql_integer, if_pos (by omega)]
    rfl
  unfold HistoryDatabase.append at happend
  dsimp only at happend
  rw [hsequence, hrowid] at happend
  split at happend
  · cases (Prod.mk.inj happend).2
  · obtain ⟨rfl, hrecord⟩ := Prod.mk.inj happend
    have hbound : n + 1 ≤ I64_MAX := by omega
    obtain ⟨returned, hreturned, hid⟩ := record_ok run (UInt64.ofNat (n + 1))
    obtain rfl := Except.ok.inj (hrecord.symm.trans hreturned)
    rw [hid]
    refine ⟨_, hstores.insert (fun e he => Int.lt_add_one_of_le (hids e he)) run, rfl, hrecord, ?_, hbound⟩
    rw [UInt64.toNat_ofNat', Nat.mod_eq_of_lt]
    unfold I64_MAX at hbound
    omega

theorem KeepsNewest.append_eq {runs : List CompletedBackupRun} {database after : HistoryDatabase} {run : CompletedBackupRun}
    {record : BackupRunRecord} (h : KeepsNewest runs database) (happend : database.append run = (after, .ok record)) :
    ∃ tables, Stores tables (kept runs ++ [((runs.length : Int) + 1, run)]) ∧
      after = ⟨tables.prune, (runs.length : Int) + 1⟩ ∧ record.id.toNat = runs.length + 1 ∧ runs.length + 1 ≤ I64_MAX := by
  obtain ⟨tables, hinserted, hafter, -, hid, hbound⟩ :=
    HistoryDatabase.append_eq h.sequence h.tables (fun e he => (mem_kept he).2) happend
  exact ⟨tables, hinserted, hafter, hid, hbound⟩

/-- The condition, for the runs that are held. -/
theorem KeepsNewest.oldest {runs : List CompletedBackupRun} {database : HistoryDatabase} {run : CompletedBackupRun}
    (h : KeepsNewest runs database) (hok : DropsOldest database run) (hfull : MAX_STORED_RUNS ≤ runs.length) :
    ∀ oldest ∈ (kept runs).head?,
      (∀ e ∈ kept runs, oldest.2.stored.completed_at_ms ≤ e.2.stored.completed_at_ms) ∧
      oldest.2.stored.completed_at_ms ≤ run.stored.completed_at_ms := by
  have hlength : MAX_STORED_RUNS ≤ database.tables.backup_runs.length := by
    rw [BTreeMap.length, h.tables.backup_runs, List.length_map, kept, window_length, number_length]
    exact Nat.le_min.2 ⟨Nat.le_refl _, hfull⟩
  intro oldest holdest
  have hentries := h.tables.backup_runs
  obtain ⟨hheld, hnew⟩ := hok hlength (oldest.1, oldest.2.stored) (by rw [hentries, List.head?_map, holdest]; rfl)
  refine ⟨?_, hnew⟩
  intro e he
  exact hheld (e.1, e.2.stored) (by rw [hentries]; exact List.mem_map.2 ⟨e, he, rfl⟩)

theorem KeepsNewest.append {runs : List CompletedBackupRun} {database after : HistoryDatabase} {run : CompletedBackupRun}
    {record : BackupRunRecord} (h : KeepsNewest runs database) (hok : DropsOldest database run)
    (happend : database.append run = (after, .ok record)) :
    KeepsNewest (runs ++ [run]) after ∧ record.id.toNat = runs.length + 1 ∧ runs.length + 1 ≤ I64_MAX := by
  obtain ⟨tables, hinserted, rfl, hid, hbound⟩ := h.append_eq happend
  refine ⟨⟨by rw [List.length_append]; rfl, ?_⟩, hid, hbound⟩
  by_cases hfull : MAX_STORED_RUNS ≤ runs.length
  · exact hinserted.prune_full hfull (h.oldest hok hfull)
  · exact hinserted.prune_room (Nat.not_le.1 hfull)

theorem KeepsNewest.run {runs : List CompletedBackupRun} {database : HistoryDatabase}
    (h : Run HistoryDatabase.step DropsOldest .new runs database) : KeepsNewest runs database := by
  refine h.inv_labels KeepsNewest ?_ .new
  intro runs database run after hkeeps hok hstep
  unfold HistoryDatabase.step at hstep
  split at hstep
  · rename_i happend
    obtain rfl := Option.some.inj hstep
    exact (hkeeps.append hok happend).1
  · cases hstep

/-- In every sequence of appends in which a full history drops its oldest run: the run just
recorded is stored and its details are found, the stored runs are the last 200, the ids
count the appends, every failed item belongs to a stored run, and no more runs are shown
than asked for, when that is at least one. -/
theorem newest_runs_are_kept {runs : List CompletedBackupRun} {database after : HistoryDatabase} {run : CompletedBackupRun}
    {record : BackupRunRecord} (h : Run HistoryDatabase.step DropsOldest .new runs database)
    (hok : DropsOldest database run) (happend : database.append run = (after, .ok record)) :
    after.tables.backup_runs.get? record.id.toNat = some run.stored ∧
    after.tables.failure_details record.id = .ok (some run.failure_details) ∧
    after.tables.backup_runs.entries =
      (window MAX_STORED_RUNS (number (runs ++ [run]))).map (fun e => (e.1, e.2.stored)) ∧
    record.id.toNat = runs.length + 1 ∧
    (∀ failed ∈ after.tables.failed_items, (after.tables.backup_runs.get? failed.run_id).isSome = true) ∧
    (∀ limit, 1 ≤ limit → ∃ records, (HistoryFile.database after.tables).recent limit = .ok records ∧
      records.length ≤ limit ∧ ∀ shown ∈ records, (after.tables.backup_runs.get? shown.id.toNat).isSome = true) := by
  obtain ⟨hkeeps, hid, hbound⟩ := (KeepsNewest.run h).append hok happend
  have hlast : ((record.id.toNat : Int), run) ∈ kept (runs ++ [run]) := by
    rw [kept, number_snoc, hid, Nat.cast_add_one]
    exact mem_window_snoc (by decide) _ _
  refine ⟨hkeeps.tables.get? hlast, hkeeps.tables.failure_details_eq hlast (hid ▸ hbound), hkeeps.tables.backup_runs, hid,
    fun failed hfailed => hkeeps.tables.no_orphans hfailed, ?_⟩
  intro limit hlimit
  obtain ⟨records, hrecords, hcount, hshown⟩ :=
    hkeeps.tables.recent_ok (fun e he => Int.le_trans (by decide) (mem_kept he).1) limit
  refine ⟨records, hrecords, ?_, ?_⟩
  · rw [hcount]
    omega
  · intro shown hmem
    obtain ⟨e, he, hshown, -⟩ := hshown shown hmem
    have hrange := mem_kept he
    rw [List.length_append, List.length_singleton] at hrange
    have hnat : ((UInt64.ofNat e.1.toNat).toNat : Int) = e.1 := by
      rw [UInt64.toNat_ofNat', Nat.mod_eq_of_lt]
      · omega
      · unfold I64_MAX at hbound
        omega
    rw [hshown, hnat, hkeeps.tables.get? he]
    rfl

/-! ## Histories with one completion time -/

theorem KeepsNewest.append_ok {runs : List CompletedBackupRun} {database : HistoryDatabase} (h : KeepsNewest runs database)
    (hroom : runs.length + 1 ≤ I64_MAX) (run : CompletedBackupRun) :
    ∃ after record, database.append run = (after, .ok record) := by
  unfold HistoryDatabase.append
  dsimp only
  rw [h.sequence, if_neg (by omega), from_sql_integer, if_pos (by omega)]
  obtain ⟨record, hrecord, -⟩ := record_ok run (UInt64.ofNat ((runs.length : Int) + 1).toNat)
  dsimp only
  rw [hrecord]
  exact ⟨_, _, rfl⟩

/-- A history of one run, recorded many times. -/
theorem KeepsNewest.stored_eq {run : CompletedBackupRun} {n : Nat} {database : HistoryDatabase}
    (h : KeepsNewest (List.replicate n run) database) : ∀ entry ∈ database.tables.backup_runs.entries, entry.2 = run.stored := by
  intro entry hentry
  rw [h.tables.backup_runs] at hentry
  obtain ⟨e, he, rfl⟩ := List.mem_map.1 hentry
  rw [List.eq_of_mem_replicate (mem_of_mem_number (mem_of_mem_window he))]

theorem KeepsNewest.drops_oldest {run : CompletedBackupRun} {n : Nat} {database : HistoryDatabase}
    (h : KeepsNewest (List.replicate n run) database) : DropsOldest database run := by
  intro _ oldest holdest
  rw [h.stored_eq oldest (List.mem_of_mem_head? holdest)]
  refine ⟨?_, Int.le_refl _⟩
  intro entry hentry
  rw [h.stored_eq entry hentry]

theorem exists_replicate (run : CompletedBackupRun) {n : Nat} (hn : n ≤ I64_MAX) :
    ∃ database, Run HistoryDatabase.step DropsOldest .new (List.replicate n run) database := by
  induction n with
  | zero => exact ⟨_, .nil⟩
  | succ n ih =>
    obtain ⟨database, hrun⟩ := ih (Nat.le_of_succ_le hn)
    have hkeeps := KeepsNewest.run hrun
    obtain ⟨after, record, happend⟩ := hkeeps.append_ok (by rw [List.length_replicate]; exact hn) run
    refine ⟨after, ?_⟩
    rw [List.replicate_succ']
    exact .snoc hrun hkeeps.drops_oldest (by rw [HistoryDatabase.step, happend])

namespace ClockSetBack

/-- A run without a summary. -/
def run (completed_at : DateTime) : CompletedBackupRun where
  started_at := completed_at
  completed_at := completed_at
  outcome := .Failed
  error_code := some "restic_repository_unreachable"
  files_processed := none
  bytes_processed := none
  data_added := none
  snapshot_id := none
  failed_items := []
  failed_items_omitted := 0

def noon : DateTime := ⟨43200 * 1000000000, by decide, by decide⟩

/-- One run more than the history holds. -/
theorem last_of_many_is_kept : ∃ database after record,
    Run HistoryDatabase.step DropsOldest .new (List.replicate MAX_STORED_RUNS (run noon)) database ∧
    database.append (run noon) = (after, .ok record) ∧ after.tables.backup_runs.get? record.id.toNat = some (run noon).stored := by
  obtain ⟨database, hrun⟩ := exists_replicate (run noon) (show MAX_STORED_RUNS ≤ I64_MAX by decide)
  obtain ⟨after, record, happend⟩ := (KeepsNewest.run hrun).append_ok (by rw [List.length_replicate]; decide) (run noon)
  exact ⟨database, after, record, hrun, happend,
    (newest_runs_are_kept hrun (KeepsNewest.run hrun).drops_oldest happend).1⟩

/-- The clock is set back from noon to midnight between the last two of 201 runs: the last
one is not stored, and its details are not found. And `recent(0)` shows a run. -/
theorem new_run_is_dropped : ∃ database after record,
    Run HistoryDatabase.step (fun _ _ => True) .new (List.replicate MAX_STORED_RUNS (run noon)) database ∧
    database.append (run .UNIX_EPOCH) = (after, .ok record) ∧
    after.tables.backup_runs.get? record.id.toNat = none ∧ after.tables.failure_details record.id = .ok none ∧
    ∃ shown, (HistoryFile.database database.tables).recent 0 = .ok [shown] := by
  obtain ⟨database, hrun⟩ := exists_replicate (run noon) (show MAX_STORED_RUNS ≤ I64_MAX by decide)
  have hkeeps := KeepsNewest.run hrun
  obtain ⟨after, record, happend⟩ := hkeeps.append_ok (by rw [List.length_replicate]; decide) (run .UNIX_EPOCH)
  obtain ⟨tables, hinserted, hafter, hid, hbound⟩ := hkeeps.append_eq happend
  rw [List.length_replicate] at hinserted hafter hid hbound
  have hlength : (kept (List.replicate MAX_STORED_RUNS (run noon))).length = MAX_STORED_RUNS := by
    rw [kept, window_length, number_length, List.length_replicate]
    rfl
  have hearlier : ∀ e ∈ kept (List.replicate MAX_STORED_RUNS (run noon)),
      (run .UNIX_EPOCH).stored.completed_at_ms < e.2.stored.completed_at_ms := by
    intro e he
    rw [List.eq_of_mem_replicate (mem_of_mem_number (mem_of_mem_window he))]
    decide
  have hgone : after.tables.backup_runs.get? record.id.toNat = none := by
    rw [hafter, hid]
    refine Stores.prune_get?_none ?_
    rw [hinserted.newest_of_earlier hlength hearlier]
    intro hmem
    obtain ⟨e, he, heq⟩ := List.mem_map.1 hmem
    have hle := (mem_kept he).2
    rw [heq, List.length_replicate] at hle
    exact absurd hle (by decide)
  obtain ⟨records, hrecords, hcount, -⟩ :=
    hkeeps.tables.recent_ok (fun e he => Int.le_trans (by decide) (mem_kept he).1) 0
  rw [hlength] at hcount
  obtain ⟨shown, rfl⟩ := List.length_eq_one_iff.1 hcount
  refine ⟨database, after, record, ?_, happend, hgone, ?_, shown, hrecords⟩
  · exact hrun.mono (fun _ _ _ => trivial)
  · rw [HistoryTables.failure_details, if_neg (by rw [hid]; omega), hgone]

end ClockSetBack

end ResticPal
