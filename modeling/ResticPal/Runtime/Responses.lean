import Mathlib.Algebra.Order.BigOperators.Group.List
import ResticPal.Protocol.Json
import ResticPal.Runtime.Ipc
import ResticPal.Service.Recording
/-!
# Responses in frames

`write_frame` refuses a response of more than 1 MiB. Whether one fits depends on the
sizes of what it carries, in JSON.

- `failure_details_fit_a_frame`: the details of a run always fit.
-/

open Lib

namespace ResticPal

open Text (Bytes)
open JsonString (quote object fieldSize)

/-! ## Failure details -/

theorem failed_item_size_le {item : String} (h : is_safe_backup_failed_item item = true) :
    item.utf8ByteSize + JsonString.escapeCosts item ≤ 2 * MAX_BACKUP_FAILED_ITEM_BYTES := by
  unfold is_safe_backup_failed_item at h
  simp only [Bool.and_eq_true, decide_eq_true_eq, Bool.not_eq_true', List.any_eq_false] at h
  obtain ⟨⟨-, hlength⟩, hchars⟩ := h
  have hcontrol : ∀ c ∈ item.toList, JsonString.isControl c = false := by
    intro c hc
    have hsafe := hchars c hc
    simp only [Bool.or_eq_true, not_or, is_control, Bool.not_eq_true] at hsafe
    exact hsafe.1.1.1
  have hcosts := JsonString.escapeCosts_le hcontrol
  unfold Text.len at hlength
  omega

theorem failed_items_size_le {items : List String} (hlength : items.length ≤ MAX_BACKUP_FAILED_ITEMS)
    (hsafe : ∀ item ∈ items, is_safe_backup_failed_item item = true) :
    (json_strings items).utf8ByteSize ≤ MAX_BACKUP_FAILED_ITEMS * (2 * MAX_BACKUP_FAILED_ITEM_BYTES + 3) + 2 := by
  have hsum : (items.map (fun item => item.utf8ByteSize + JsonString.escapeCosts item)).sum ≤
      items.length * (2 * MAX_BACKUP_FAILED_ITEM_BYTES) := by
    have hmap := List.sum_le_card_nsmul (items.map (fun item => item.utf8ByteSize + JsonString.escapeCosts item))
      (2 * MAX_BACKUP_FAILED_ITEM_BYTES) (by
        intro size hsize
        obtain ⟨item, hitem, rfl⟩ := List.mem_map.1 hsize
        exact failed_item_size_le (hsafe item hitem))
    rwa [List.length_map, Nat.nsmul_eq_mul] at hmap
  rw [utf8ByteSize_json_strings]
  have hbytes : MAX_BACKUP_FAILED_ITEM_BYTES = 4096 := rfl
  have hitems : MAX_BACKUP_FAILED_ITEMS = 100 := rfl
  rw [hbytes] at hsum ⊢
  rw [hitems] at hlength ⊢
  omega

theorem failure_details_size_le {details : BackupRunFailureDetails} (hlength : details.items.length ≤ MAX_BACKUP_FAILED_ITEMS)
    (hsafe : ∀ item ∈ details.items, is_safe_backup_failed_item item = true) (json : MessageJson) (request_id : UInt64) :
    (json.response (.new request_id (.RunFailureDetails details))).utf8ByteSize ≤ MAX_FRAME_BYTES := by
  have hitems := failed_items_size_le hlength hsafe
  have hrequest := MessageJson.id_size_le request_id
  have hrun := MessageJson.id_size_le details.run_id
  have homitted := MessageJson.id_size_le details.omitted
  have hnames : (quote "run_id").utf8ByteSize = 8 ∧ (quote "items").utf8ByteSize = 7 ∧ (quote "omitted").utf8ByteSize = 9 ∧
      (quote "type").utf8ByteSize = 6 ∧ (quote "details").utf8ByteSize = 9 ∧
      (quote "run_failure_details").utf8ByteSize = 21 := by decide
  obtain ⟨hrun_id, hitems_name, homitted_name, htype, hdetails, hkind⟩ := hnames
  rw [MessageJson.utf8ByteSize_response, MessageJson.payload, BackupRunFailureDetails.json, JsonString.utf8ByteSize_object]
  simp only [List.map_cons, List.map_nil, List.sum_cons, List.sum_nil, List.length_cons, List.length_nil, fieldSize,
    JsonString.utf8ByteSize_object, hrun_id, hitems_name, homitted_name, htype, hdetails, hkind]
  unfold MessageJson.id_size at *
  unfold MAX_BACKUP_FAILED_ITEMS MAX_BACKUP_FAILED_ITEM_BYTES at hitems
  unfold MAX_FRAME_BYTES
  omega

/-- What `failure_details` shows of any table is safe, and no more than it reads. -/
theorem shown_items_safe (rows : List FailedItem) :
    (shown_items rows).length ≤ rows.length ∧ ∀ item ∈ shown_items rows, is_safe_backup_failed_item item = true := by
  have hfold (rows : List FailedItem) (items : List String) (hsafe : ∀ item ∈ items, is_safe_backup_failed_item item = true) :
      let shown := rows.foldl (fun items row =>
        if is_safe_backup_failed_item row.item && !items.contains row.item then items ++ [row.item] else items) items
      shown.length ≤ items.length + rows.length ∧ ∀ item ∈ shown, is_safe_backup_failed_item item = true := by
    induction rows generalizing items with
    | nil => exact ⟨Nat.le_refl _, hsafe⟩
    | cons row rows ih =>
      dsimp only
      rw [List.foldl_cons, List.length_cons]
      split
      · rename_i hshown
        rw [Bool.and_eq_true] at hshown
        obtain ⟨hlength, hall⟩ := ih (items ++ [row.item]) (by
          intro item hitem
          rcases List.mem_append.1 hitem with hitem | hitem
          · exact hsafe item hitem
          · rw [List.mem_singleton.1 hitem]
            exact hshown.1)
        rw [List.length_append, List.length_singleton] at hlength
        exact ⟨by omega, hall⟩
      · obtain ⟨hlength, hall⟩ := ih items hsafe
        exact ⟨by omega, hall⟩
  have hshown := hfold rows [] (fun _ h => absurd h List.not_mem_nil)
  rw [List.length_nil, Nat.zero_add] at hshown
  exact hshown

theorem failure_details_safe {tables : HistoryTables} {run_id : UInt64} {details : StoredRunFailureDetails}
    (h : tables.failure_details run_id = .ok (some details)) :
    details.items.length ≤ MAX_BACKUP_FAILED_ITEMS ∧ ∀ item ∈ details.items, is_safe_backup_failed_item item = true := by
  unfold HistoryTables.failure_details at h
  split at h
  · cases h
  · split at h
    · cases h
    · rename_i run hrun
      cases homitted : from_sql_integer run.failed_items_omitted "failed_items_omitted" with
      | error error =>
        rw [homitted] at h
        cases h
      | ok omitted =>
        cases hcount : from_sql_integer (tables.failed_item_count run_id.toNat) "failed_item_count" with
        | error error =>
          rw [homitted, hcount] at h
          cases h
        | ok stored_count =>
          rw [homitted, hcount] at h
          obtain rfl := Option.some.inj (Except.ok.inj h)
          obtain ⟨hlength, hsafe⟩ := shown_items_safe (((tables.failed_items.filter
            (fun failed => failed.run_id = (run_id.toNat : Int))).insertionSort
              (fun a b => a.ordinal ≤ b.ordinal)).take MAX_BACKUP_FAILED_ITEMS)
          exact ⟨Nat.le_trans hlength (List.length_take_le _ _), hsafe⟩

/-- A list of at most 100 safe items, with whatever counts and numbers, fits a frame; so does
what the history shows of a run. -/
theorem failure_details_fit_a_frame (json : MessageJson) (request_id run_id : UInt64) (written : Bytes) :
    (∀ (items : List String) (omitted : UInt64), items.length ≤ MAX_BACKUP_FAILED_ITEMS →
      (∀ item ∈ items, is_safe_backup_failed_item item = true) →
      let response := Response.new request_id (.RunFailureDetails { run_id, items, omitted })
      (json.response response).utf8ByteSize ≤ MAX_FRAME_BYTES ∧ (write_frame json.codec written response).2 = .ok ()) ∧
    (∀ (tables : HistoryTables) (details : StoredRunFailureDetails) (runtime : ServiceRuntime) (io : RequestIo),
      tables.failure_details run_id = .ok (some details) →
      runtime.history_store = true → io.failure_details = some (some (details.items, details.omitted)) →
      let payload := runtime.get_run_failure_details run_id io
      payload = .RunFailureDetails { run_id, items := details.items, omitted := details.omitted } ∧
      (json.response (.new request_id payload)).utf8ByteSize ≤ MAX_FRAME_BYTES ∧
      (write_frame json.codec written (.new request_id payload)).2 = .ok ()) := by
  have hfits (details : BackupRunFailureDetails) (hlength : details.items.length ≤ MAX_BACKUP_FAILED_ITEMS)
      (hsafe : ∀ item ∈ details.items, is_safe_backup_failed_item item = true) :
      (json.response (.new request_id (.RunFailureDetails details))).utf8ByteSize ≤ MAX_FRAME_BYTES ∧
        (write_frame json.codec written (.new request_id (.RunFailureDetails details))).2 = .ok () := by
    have hsize := failure_details_size_le hlength hsafe json request_id
    exact ⟨hsize, (json.write_frame_iff written _).2 hsize⟩
  constructor
  · intro items omitted hlength hsafe
    exact hfits { run_id, items, omitted } hlength hsafe
  · intro tables details runtime io hdetails hstore hio
    obtain ⟨hlength, hsafe⟩ := failure_details_safe hdetails
    have hpayload : runtime.get_run_failure_details run_id io =
        .RunFailureDetails { run_id, items := details.items, omitted := details.omitted } := by
      rw [ServiceRuntime.get_run_failure_details, hstore, hio]
      rfl
    dsimp only
    rw [hpayload]
    exact ⟨rfl, hfits { run_id, items := details.items, omitted := details.omitted } hlength hsafe⟩

namespace LongestDetails

/-- An item that the encoder doubles. -/
def item : String := String.ofList (List.replicate MAX_BACKUP_FAILED_ITEM_BYTES '\\')

theorem item_safe : is_safe_backup_failed_item item = true := by
  have hlength : Text.len item = MAX_BACKUP_FAILED_ITEM_BYTES := by
    have hsize : Char.utf8Size '\\' = 1 := by decide
    rw [Text.len, item, JsonString.utf8ByteSize_replicate, hsize, Nat.mul_one]
  have hne : Text.is_empty item = false := by
    rw [Text.is_empty, beq_eq_false_iff_ne]
    intro hempty
    rw [hempty] at hlength
    exact absurd hlength (by decide)
  unfold is_safe_backup_failed_item
  rw [hne, hlength, decide_eq_true (Nat.le_refl _), item, String.toList_ofList, List.any_replicate]
  decide

def json : MessageJson := ⟨fun _ => "", fun _ => "", fun _ => none⟩

def runtime : ServiceRuntime := configuration_error ⟨none, .missing⟩ none .missing .missing .UNIX_EPOCH

/-- A run with 100 copies of a backslash, of which one is kept. -/
def run : CompletedBackupRun := { ClockSetBack.run .UNIX_EPOCH with failed_items := List.replicate 100 "\\" }

theorem longest_details_fit :
    (write_frame json.codec [] (.new 45 (.RunFailureDetails
      ⟨1, List.replicate MAX_BACKUP_FAILED_ITEMS item, 0xffffffffffffffff⟩))).2 = .ok () ∧
    ∃ after record details, HistoryDatabase.new.append run = (after, .ok record) ∧
      after.tables.failure_details record.id = .ok (some details) ∧
      (write_frame json.codec [] (.new 45 (runtime.get_run_failure_details record.id
        { RequestIo.quiet .UNIX_EPOCH with failure_details := some (some (details.items, details.omitted)) }))).2 = .ok () := by
  constructor
  · exact ((failure_details_fit_a_frame json 45 1 []).1 _ 0xffffffffffffffff (by rw [List.length_replicate])
      (fun other hother => List.eq_of_mem_replicate hother ▸ item_safe)).2
  · obtain ⟨after, record, happend⟩ := KeepsNewest.new.append_ok (by decide) run
    obtain ⟨hkeeps, hid, hbound⟩ := KeepsNewest.new.append (by intro hfull; exact absurd hfull (by decide)) happend
    have hmem : ((record.id.toNat : Int), run) ∈ kept ([] ++ [run]) := by
      rw [hid]
      exact List.mem_singleton.2 rfl
    have hdetails := hkeeps.tables.failure_details_eq hmem (hid ▸ hbound)
    exact ⟨after, record, _, happend, hdetails,
      ((failure_details_fit_a_frame json 45 record.id []).2 after.tables _ runtime _ hdetails rfl rfl).2.2⟩

end LongestDetails

end ResticPal
