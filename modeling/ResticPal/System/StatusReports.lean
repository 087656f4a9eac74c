import ResticPal.System.ManagementWorker
/-!
# Reports to the management server

The part of `start_management_worker` that tells a management server the state of
the service, and `ManagementClient::report_status`. A pass of the worker's loop
is one step; what it meets is a `ReportPass`.

- `server_is_kept_informed`: whatever the configuration, the service and the
  network do, after each pass the last report is the one of the state just seen,
  or it failed and another attempt follows; attempts are paced.

Times are in seconds.
-/

open Lib

namespace ResticPal

/-- What reaches the server. -/
structure StatusReport where
  url : String
  authorization : String
  device_id : String
  state : BackupState
  deriving DecidableEq

/-- `report_status`; `sent` is whether the server takes the request. -/
def report_status (config : LocalManagementConfig) (credentials : CredentialStore) (state : BackupState) (sent : Bool) :
    Option StatusReport := do
  let url ← config.status_url
  let device_id ← config.device_id
  let token_ref ← config.status_token_ref
  let authorization ← (bearer_token (some credentials) token_ref).toOption
  if sent then some { url, authorization, device_id, state } else none

/-- The worker's variables, as far as they concern reports. -/
structure StatusReporter where
  source_identity : Option LocalManagementConfig
  next_report : Instant
  report_failures : UInt32
  last_observed_state : Option BackupState

def StatusReporter.new (now : Instant) : StatusReporter := ⟨none, now, 0, none⟩

/-- What a pass meets. -/
structure ReportPass where
  /-- The management section of the configuration file, where it can be read. -/
  management : Option LocalManagementConfig
  now : Instant
  /-- `ServiceRuntime::status`. -/
  state : BackupState
  credentials : Option CredentialStore
  sent : Bool

/-- An attempt to report. -/
structure ReportAttempt where
  management : LocalManagementConfig
  now : Instant
  state : BackupState
  delivered : Option StatusReport
  deriving DecidableEq

def report_cadence (state : BackupState) : Nat := if state.isRunning then 5 * 60 else 6 * 60 * 60

def report_retry (report_failures : UInt32) : Nat := 60 * 2 ^ min (report_failures.toNat - 1) 6

namespace StatusReporter

/-- The worker forgets what it knows of another source. -/
def identify (r : StatusReporter) (management : LocalManagementConfig) (now : Instant) : StatusReporter :=
  if r.source_identity = some management then r else ⟨some management, now, 0, none⟩

/-- A new state is reported at once. -/
def observe (r : StatusReporter) (now : Instant) (state : BackupState) : StatusReporter :=
  if r.last_observed_state = some state then r else { r with next_report := now, last_observed_state := some state }

/-- The attempt that is due, and when the next one is. -/
def report (r : StatusReporter) (management : LocalManagementConfig) (p : ReportPass) : StatusReporter × Option ReportAttempt :=
  if p.now < r.next_report then (r, none)
  else
    let delivered := p.credentials.bind fun store => report_status management store p.state p.sent
    let attempt : ReportAttempt := { management, now := p.now, state := p.state, delivered }
    if delivered.isSome then ({ r with report_failures := 0, next_report := p.now + report_cadence p.state }, some attempt)
    else
      let report_failures := failures_after r.report_failures .Failed
      ({ r with report_failures, next_report := p.now + report_retry report_failures }, some attempt)

def pass (r : StatusReporter) (p : ReportPass) : StatusReporter × Option ReportAttempt :=
  match p.management with
  | none => (r, none)
  | some management =>
    if management.mode = .Disabled then ({ r with source_identity := none, last_observed_state := none }, none)
    else
      let r := r.identify management p.now
      if management.status_url.isSome then (r.observe p.now p.state).report management p else (r, none)

end StatusReporter

/-- The worker, and all its attempts so far. -/
structure ReportLog where
  reporter : StatusReporter
  attempts : List ReportAttempt

def ReportLog.step (s : ReportLog) (p : ReportPass) : Option ReportLog :=
  some ⟨(s.reporter.pass p).1, s.attempts ++ (s.reporter.pass p).2.toList⟩

def ReportLog.new (now : Instant) : ReportLog := ⟨.new now, []⟩

/-! ## The last attempt -/

/-- What follows an attempt: the usual pace, or the next attempt of a failed one. -/
structure Scheduled (r : StatusReporter) (a : ReportAttempt) : Prop where
  source : r.source_identity = some a.management
  state : r.last_observed_state = some a.state
  delivered : a.delivered.isSome = true → r.report_failures = 0 ∧ r.next_report = a.now + report_cadence a.state
  failed : a.delivered = none → r.report_failures ≠ 0 ∧ r.next_report = a.now + report_retry r.report_failures
  content : ∀ report ∈ a.delivered, report.state = a.state ∧ a.management.status_url = some report.url ∧
    a.management.device_id = some report.device_id

/-- A state that the worker has seen is the one of its last attempt. -/
def Informed (s : ReportLog) : Prop :=
  s.reporter.last_observed_state ≠ none → ∃ a, s.attempts.getLast? = some a ∧ Scheduled s.reporter a

theorem failures_after_ne_zero (report_failures : UInt32) : failures_after report_failures .Failed ≠ 0 := by
  change (if report_failures = 4294967295 then report_failures else report_failures + 1) ≠ 0
  split
  · rename_i hmax
    rw [hmax]
    decide
  · rename_i hmax
    have hlt : report_failures.toNat ≠ 4294967295 := fun h => hmax (UInt32.toNat_inj.1 h)
    have hbound := report_failures.toNat_lt
    intro hzero
    have hsum := congrArg UInt32.toNat hzero
    rw [UInt32.toNat_add] at hsum
    change (report_failures.toNat + 1) % 2 ^ 32 = 0 at hsum
    omega

theorem report_status_content {config : LocalManagementConfig} {store : CredentialStore} {state : BackupState} {sent : Bool}
    {report : StatusReport} (h : report_status config store state sent = some report) :
    report.state = state ∧ config.status_url = some report.url ∧ config.device_id = some report.device_id := by
  simp only [report_status, Option.bind_eq_bind, Option.bind_eq_some_iff] at h
  obtain ⟨url, hurl, device_id, hdevice, _, -, authorization, -, h⟩ := h
  split at h
  · cases h
    exact ⟨rfl, hurl, hdevice⟩
  · cases h

namespace StatusReporter

variable {r : StatusReporter} {management : LocalManagementConfig} {p : ReportPass}

/-- An attempt that is due, for a state that has been seen. -/
theorem report_due (hsource : r.source_identity = some management) (hstate : r.last_observed_state = some p.state)
    (hdue : r.next_report ≤ p.now) :
    ∃ a, (r.report management p).2 = some a ∧ a.management = management ∧ a.state = p.state ∧
      Scheduled (r.report management p).1 a := by
  unfold report
  rw [if_neg (Nat.not_lt.2 hdue)]
  cases hdelivered : p.credentials.bind fun store => report_status management store p.state p.sent with
  | some delivered =>
    obtain ⟨store, -, hreport⟩ := Option.bind_eq_some_iff.1 hdelivered
    refine ⟨_, rfl, rfl, rfl, hsource, hstate, fun _ => ⟨rfl, rfl⟩, nofun, ?_⟩
    rintro _ ⟨⟩
    exact report_status_content hreport
  | none => exact ⟨_, rfl, rfl, rfl, hsource, hstate, nofun, fun _ => ⟨failures_after_ne_zero _, rfl⟩, nofun⟩

theorem report_early (h : p.now < r.next_report) : r.report management p = (r, none) := if_pos h

theorem identify_source : (r.identify management p.now).source_identity = some management := by
  unfold identify
  split
  · assumption
  · rfl

/-- A pass that finds a server to report to: the state is not new and its time has not come, or there is an attempt. -/
theorem pass_reports (hm : p.management = some management) (hmode : management.mode ≠ .Disabled)
    (hurl : management.status_url.isSome = true) :
    (r.source_identity = some management ∧ r.last_observed_state = some p.state ∧ p.now < r.next_report ∧ r.pass p = (r, none)) ∨
    ((r.source_identity = some management → r.last_observed_state = some p.state → r.next_report ≤ p.now) ∧
      ∃ a, (r.pass p).2 = some a ∧ a.management = management ∧ a.state = p.state ∧ Scheduled (r.pass p).1 a) := by
  have hpass : r.pass p = ((r.identify management p.now).observe p.now p.state).report management p := by
    unfold pass
    rw [hm]
    dsimp only
    rw [if_neg hmode, if_pos hurl]
  rw [hpass]
  by_cases hseen : (r.identify management p.now).last_observed_state = some p.state
  · have hsource : r.source_identity = some management := by
      by_contra hne
      rw [identify, if_neg hne] at hseen
      cases hseen
    have hsame : (r.identify management p.now).observe p.now p.state = r := by
      rw [observe, if_pos hseen, identify, if_pos hsource]
    rw [identify, if_pos hsource] at hseen
    rw [hsame]
    rcases Nat.lt_or_ge p.now r.next_report with hearly | hdue
    · exact .inl ⟨hsource, hseen, hearly, report_early hearly⟩
    · exact .inr ⟨fun _ _ => hdue, report_due hsource hseen hdue⟩
  · refine .inr ⟨fun hsource hstate => ?_, ?_⟩
    · rw [identify, if_pos hsource] at hseen
      exact absurd hstate hseen
    · rw [observe, if_neg hseen]
      exact report_due identify_source rfl (Nat.le_refl _)

end StatusReporter

theorem Informed.step {s s' : ReportLog} {p : ReportPass} (h : Informed s) (hs : s.step p = some s') : Informed s' := by
  obtain rfl := Option.some.inj hs
  intro hobserved
  dsimp only at hobserved ⊢
  cases hm : p.management with
  | none =>
    have hpass : s.reporter.pass p = (s.reporter, none) := by rw [StatusReporter.pass, hm]
    rw [hpass] at hobserved ⊢
    simpa using h hobserved
  | some management =>
    by_cases hmode : management.mode = .Disabled
    · rw [StatusReporter.pass, hm] at hobserved
      dsimp only at hobserved
      rw [if_pos hmode] at hobserved
      exact absurd rfl hobserved
    · by_cases hurl : management.status_url.isSome = true
      · rcases StatusReporter.pass_reports hm hmode hurl with ⟨-, -, -, hpass⟩ | ⟨-, a, hattempt, -, -, hscheduled⟩
        · rw [hpass] at hobserved ⊢
          simpa using h hobserved
        · exact ⟨a, by rw [hattempt]; simp, hscheduled⟩
      · have hpass : s.reporter.pass p = (s.reporter.identify management p.now, none) := by
          rw [StatusReporter.pass, hm]
          dsimp only
          rw [if_neg hmode, if_neg hurl]
        rw [hpass] at hobserved ⊢
        unfold StatusReporter.identify at hobserved ⊢
        split
        · rename_i hsource
          rw [if_pos hsource] at hobserved
          simpa using h hobserved
        · rename_i hsource
          rw [if_neg hsource] at hobserved
          exact absurd rfl hobserved

/-! ## What the server knows -/

theorem report_retry_bounds (report_failures : UInt32) :
    60 ≤ report_retry report_failures ∧ report_retry report_failures ≤ 64 * 60 := by
  unfold report_retry
  have hlow : 1 ≤ 2 ^ min (report_failures.toNat - 1) 6 := Nat.one_le_two_pow
  have hhigh : 2 ^ min (report_failures.toNat - 1) 6 ≤ 2 ^ 6 := Nat.pow_le_pow_right (by decide) (Nat.min_le_right _ _)
  omega

theorem report_cadence_bounds (state : BackupState) : 60 ≤ report_cadence state ∧ report_cadence state ≤ 6 * 60 * 60 := by
  unfold report_cadence
  split
  · decide
  · decide

/-- The next attempt is neither before its time nor far away. -/
theorem Scheduled.bounds {r : StatusReporter} {a : ReportAttempt} (h : Scheduled r a) :
    a.now + 60 ≤ r.next_report ∧ r.next_report ≤ a.now + 6 * 60 * 60 ∧
      (a.delivered = none → r.next_report ≤ a.now + 64 * 60) := by
  cases hdelivered : a.delivered with
  | some report =>
    obtain ⟨hlow, hhigh⟩ := report_cadence_bounds a.state
    rw [(h.delivered (by rw [hdelivered]; rfl)).2]
    exact ⟨Nat.add_le_add_left hlow _, Nat.add_le_add_left hhigh _, nofun⟩
  | none =>
    obtain ⟨hlow, hhigh⟩ := report_retry_bounds r.report_failures
    rw [(h.failed hdelivered).2]
    exact ⟨Nat.add_le_add_left hlow _, Nat.add_le_add_left (hhigh.trans (by decide)) _, fun _ => Nat.add_le_add_left hhigh _⟩

/-- In every run, after a pass that finds a server to report to: the last attempt was for this source and the state
just seen, and if it reached the server, with this state under this device's name; if it did not, the next attempt
is at most 64 minutes after it, and else six hours. A pass makes a further attempt for the same source and state
only a minute or more after the last one. -/
theorem server_is_kept_informed {now : Instant} {passes : List ReportPass} {s s' : ReportLog} {p : ReportPass}
    {management : LocalManagementConfig} (h : Run ReportLog.step (fun _ _ => True) (.new now) passes s)
    (hs : s.step p = some s') (hm : p.management = some management) (hmode : management.mode ≠ .Disabled)
    (hurl : management.status_url.isSome = true) :
    (∃ a, s'.attempts.getLast? = some a ∧ a.management = management ∧ a.state = p.state ∧
      (∀ report ∈ a.delivered, report.state = p.state ∧ management.status_url = some report.url ∧
        management.device_id = some report.device_id) ∧
      s'.reporter.next_report ≤ a.now + 6 * 60 * 60 ∧
      (a.delivered = none → s'.reporter.next_report ≤ a.now + 64 * 60)) ∧
    (s'.attempts ≠ s.attempts → s.reporter.source_identity = some management →
      s.reporter.last_observed_state = some p.state → ∃ a ∈ s.attempts.getLast?, a.now + 60 ≤ p.now) := by
  have hinformed : Informed s := h.inv Informed (fun _ _ _ hi _ hs => hi.step hs) fun hnone => absurd rfl hnone
  obtain rfl := Option.some.inj hs
  dsimp only
  rcases StatusReporter.pass_reports hm hmode hurl with ⟨hsource, hstate, -, hpass⟩ | ⟨hpaced, a, hattempt, rfl, hseen, hscheduled⟩
  · obtain ⟨a, hlast, hscheduled⟩ := hinformed (by rw [hstate]; exact nofun)
    obtain ⟨-, hnext, hretry⟩ := hscheduled.bounds
    obtain rfl := Option.some.inj (hsource.symm.trans hscheduled.source)
    have hseen := Option.some.inj (hstate.symm.trans hscheduled.state)
    rw [hpass]
    refine ⟨⟨a, by simpa using hlast, rfl, hseen.symm, ?_, hnext, hretry⟩, fun hne => absurd (by simp) hne⟩
    rw [hseen]
    exact hscheduled.content
  · obtain ⟨-, hnext, hretry⟩ := hscheduled.bounds
    refine ⟨⟨a, by rw [hattempt]; simp, rfl, hseen, ?_, hnext, hretry⟩, fun _ hsource hstate => ?_⟩
    · rw [← hseen]
      exact hscheduled.content
    · obtain ⟨last, hlast, hbefore⟩ := hinformed (by rw [hstate]; exact nofun)
      exact ⟨last, hlast, hbefore.bounds.1.trans (hpaced hsource hstate)⟩

namespace OfflineServer

def management : LocalManagementConfig :=
  { mode := .SignedManifest, status_url := some "https://server/status", device_id := some "device", status_token_ref := some "token" }

def pass (now : Instant) (sent : Bool) : ReportPass :=
  { management := some management, now, state := .Idle, sent
    credentials := some ((∅ : CredentialStore).insert "token" (.contents (Text.as_bytes "secret"))) }

/-- The worker of a server that does not answer at first. -/
def before : Option ReportLog := runList ReportLog.step (fun _ _ => True) (.new 0) [pass 0 false, pass 30 true]

theorem before_isSome : before.isSome := by decide

theorem idle_state_is_reported : ∃ s ∈ before, ∃ s', s.step (pass 60 true) = some s' ∧ s'.attempts.length = 2 ∧
    ∃ a, s'.attempts.getLast? = some a ∧ ∃ report ∈ a.delivered, report.state = .Idle ∧ report.url = "https://server/status" := by
  refine ⟨_, Option.get_mem before_isSome, _, rfl, rfl, ?_⟩
  obtain ⟨⟨a, hlast, -, -, hcontent, -⟩, -⟩ := server_is_kept_informed (.of_isSome before_isSome)
    (rfl : (before.get before_isSome).step (pass 60 true) = some _) rfl (by decide) rfl
  obtain ⟨report, hreport⟩ : ∃ report, a.delivered = some report := by
    cases Option.some.inj hlast
    exact ⟨_, rfl⟩
  obtain ⟨hstate, hurl, -⟩ := hcontent report hreport
  exact ⟨a, hlast, report, hreport, hstate, (Option.some.inj hurl).symm⟩

end OfflineServer

end ResticPal
