import ResticPal.Runtime.Scheduler
/-!
# What an evaluation decides

- `start_is_monotone`: a snapshot that is later and nowhere less favourable than
  one that starts a backup starts one as well, and a due backup that is held
  back has a reason that `evaluate_schedule` can show.
-/

open Lib

namespace ResticPal

namespace Schedule

variable {config : ScheduleConfig} {snapshot : SchedulerSnapshot}

/-- A backup is started when it is due and nothing blocks it. -/
theorem decide_start_iff : (∃ trigger, decide config snapshot = some (.Start trigger)) ↔
    snapshot.backup_running = false ∧ (snapshot.manual_requested = true ∨ next_deadline config snapshot ≤ snapshot.now) ∧
      wake_grace config snapshot = some none ∧ blockers config snapshot none = [] := by
  unfold decide
  cases hr : snapshot.backup_running with
  | true => simp
  | false =>
    by_cases hd : (snapshot.manual_requested || next_deadline config snapshot ≤ snapshot.now) = true
    · have hd' : snapshot.manual_requested = true ∨ next_deadline config snapshot ≤ snapshot.now := by simpa using hd
      simp only [hd, Bool.false_eq_true, if_false, Bool.not_true, true_and, hd']
      rcases Option.eq_none_or_eq_some (wake_grace config snapshot) with hw | ⟨retry_at, hw⟩
      · simp [hw]
      · cases retry_at with
        | some grace_end => simp [hw, blockers]
        | none =>
          cases hb : blockers config snapshot none with
          | nil => simp [hw, hb]
          | cons blocker rest => simp [hw, hb]
    · have hd' : ¬(snapshot.manual_requested = true ∨ next_deadline config snapshot ≤ snapshot.now) := by simpa using hd
      simp [hd, hd']

/-- The blockers apart from the grace period after a resume. -/
theorem blockers_eq_nil : blockers config snapshot none = [] ↔
    (snapshot.network_required = true → snapshot.network_available = true) ∧
    (snapshot.manual_requested = true ∨ snapshot.on_battery = false ∨ config.allow_on_battery = true) ∧
    (snapshot.metered_network = true → config.allow_metered_network = true) := by
  unfold blockers
  cases snapshot.network_required <;> cases snapshot.network_available <;> cases snapshot.manual_requested <;>
    cases snapshot.on_battery <;> cases config.allow_on_battery <;> cases snapshot.metered_network <;>
    cases config.allow_metered_network <;> simp

/-- What a due backup waits for. -/
theorem decide_waiting {trigger : BackupTrigger} {reasons : List ScheduleBlocker} {retry_at : Option DateTime}
    (h : decide config snapshot = some (.Waiting trigger reasons retry_at)) :
    reasons ≠ [] ∧ reasons = blockers config snapshot retry_at ∧ wake_grace config snapshot = some retry_at := by
  unfold decide at h
  split at h
  · cases h
  · simp only at h
    split at h
    · cases h
    · obtain ⟨grace, hw, hd⟩ := Option.bind_eq_some_iff.1 h
      simp only [pure, Option.some.injEq] at hd
      split at hd
      · cases hd
      · rename_i hne
        simp only [ScheduleDecision.Waiting.injEq] at hd
        obtain ⟨-, rfl, rfl⟩ := hd
        exact ⟨by simpa using hne, rfl, hw⟩

theorem decide_alreadyRunning (h : decide config snapshot = some .AlreadyRunning) : snapshot.backup_running = true := by
  by_contra hr
  unfold decide at h
  rw [if_neg hr] at h
  simp only at h
  split at h
  · cases h
  · obtain ⟨retry_at, -, hd⟩ := Option.bind_eq_some_iff.1 h
    simp only [pure, Option.some.injEq] at hd
    split at hd <;> cases hd

/-- A backup that is not due yet. -/
theorem decide_idle {deadline : DateTime} (h : decide config snapshot = some (.Idle deadline)) :
    snapshot.backup_running = false ∧ snapshot.manual_requested = false ∧ deadline = next_deadline config snapshot ∧
      snapshot.now < deadline := by
  unfold decide at h
  split at h
  · cases h
  · rename_i hr
    simp only at h
    split at h
    · rename_i hd
      obtain rfl : next_deadline config snapshot = deadline := by simpa using h
      simp only [Bool.not_eq_true', Bool.or_eq_false_iff, decide_eq_false_iff_not, not_le] at hd
      exact ⟨by simpa using hr, hd.1, rfl, hd.2⟩
    · obtain ⟨retry_at, -, hd⟩ := Option.bind_eq_some_iff.1 h
      simp only [pure, Option.some.injEq] at hd
      split at hd <;> cases hd

theorem wakeGrace_mem_blockers {retry_at : Option DateTime} :
    .WakeGrace ∈ blockers config snapshot retry_at ↔ retry_at.isSome = true := by
  unfold blockers
  cases retry_at <;> simp

/-! ## Favourable snapshots -/

/-- The second snapshot is later, and nowhere less favourable to a backup. -/
structure NoLessFavourable (first second : SchedulerSnapshot) : Prop where
  not_running : first.backup_running = false ∧ second.backup_running = false
  last_success : second.last_success = first.last_success
  later : first.now ≤ second.now
  network_available : first.network_available = true → second.network_available = true
  network_required : second.network_required = true → first.network_required = true
  on_battery : second.on_battery = true → first.on_battery = true
  metered_network : second.metered_network = true → first.metered_network = true
  not_before : ∀ deferral ∈ second.not_before, ∃ longer ∈ first.not_before, deferral ≤ longer
  resumed_at : ∀ resumed ∈ second.resumed_at, ∃ later ∈ first.resumed_at, resumed ≤ later
  manual_requested : first.manual_requested = true → second.manual_requested = true

/-- Every instant a snapshot speaks of. -/
def instants (snapshot : SchedulerSnapshot) : List DateTime :=
  snapshot.now :: (snapshot.last_success.toList ++ snapshot.resumed_at.toList ++ snapshot.not_before.toList)

/-- A year before the end of representable time, or earlier. -/
def Distant (t : DateTime) : Prop := t.nanos + Duration.days 365 ≤ DateTime.MAX_UTC.nanos

instance (t : DateTime) : Decidable (Distant t) := inferInstanceAs (Decidable (_ ≤ _))

/-- The end of the grace period has been reached. -/
theorem wake_grace_over {config : EffectiveConfig} (hv : config.validate = .ok ()) {snapshot : SchedulerSnapshot}
    (hd : ∀ t ∈ instants snapshot, Distant t) :
    wake_grace config.schedule snapshot = some none ↔ snapshot.manual_requested = true ∨
      ∀ resumed ∈ snapshot.resumed_at,
        resumed.nanos + clampSeconds config.schedule.wake_grace_seconds * 1000000000 ≤ snapshot.now.nanos := by
  have hg : config.schedule.wake_grace_seconds.toNat ≤ 86400 := by
    simpa [UInt64.le_iff_toNat_le] using (EffectiveConfig.validate_schedule hv).2.2
  have hnonneg : 0 ≤ clampSeconds config.schedule.wake_grace_seconds := by
    unfold clampSeconds
    omega
  have hclamp : clampSeconds config.schedule.wake_grace_seconds ≤ 86400 := by
    unfold clampSeconds
    omega
  have hseconds : Duration.seconds (clampSeconds config.schedule.wake_grace_seconds) =
      some (clampSeconds config.schedule.wake_grace_seconds * 1000000000) := by
    refine if_pos ?_
    simp only [Duration.maxSeconds]
    omega
  unfold wake_grace
  rcases Option.eq_none_or_eq_some snapshot.resumed_at with hr | ⟨resumed, hr⟩
  · simp [hr]
  · have hdistant : resumed.nanos + 365 * 86400 * 1000000000 ≤ DateTime.MAX_UTC.nanos :=
      hd resumed (by simp [instants, hr])
    have hend : ∃ grace_end : DateTime, resumed.checked_add_signed
        (clampSeconds config.schedule.wake_grace_seconds * 1000000000) = some grace_end := by
      rw [← Option.isSome_iff_exists, Option.isSome_iff_ne_none, Ne,
        DateTime.checked_add_signed_eq_none (by omega)]
      omega
    obtain ⟨grace_end, hend⟩ := hend
    have hnanos := DateTime.checked_add_signed_eq_some.1 hend
    cases hm : snapshot.manual_requested with
    | true => simp [hr]
    | false => simp [hr, hseconds, hend, DateTime.lt_iff, hnanos]

theorem due_of_noLessFavourable {config : EffectiveConfig} (hv : config.validate = .ok ())
    {first second : SchedulerSnapshot} (h : NoLessFavourable first second)
    (hd : ∀ t ∈ instants first, Distant t)
    (hdue : first.manual_requested = true ∨ next_deadline config.schedule first ≤ first.now) :
    second.manual_requested = true ∨ next_deadline config.schedule second ≤ second.now := by
  obtain ⟨hi, hmax, -⟩ := EffectiveConfig.validate_schedule hv
  have hhours : config.schedule.interval_hours.toNat ≤ 24 * 365 := by
    simpa [UInt32.le_iff_toNat_le, MAX_SCHEDULE_INTERVAL_HOURS] using hmax
  cases hm : second.manual_requested with
  | true => exact .inl rfl
  | false =>
    have hm' : first.manual_requested = false := by
      by_contra hne
      rw [h.manual_requested (by simpa using hne)] at hm
      cases hm
    have hle := hdue.resolve_left (by simp [hm'])
    have hlater := DateTime.le_iff.1 h.later
    have split (snapshot : SchedulerSnapshot) (hm : snapshot.manual_requested = false) :
        next_deadline config.schedule snapshot ≤ snapshot.now ↔
          completion_deadline snapshot.last_success snapshot.now config.schedule.interval_hours ≤ snapshot.now ∧
            ∀ deferral ∈ snapshot.not_before, deferral ≤ snapshot.now := by
      unfold next_deadline
      rcases Option.eq_none_or_eq_some snapshot.not_before with hn | ⟨deferral, hn⟩
      · simp [hm, hn]
      · simp [hm, hn]
    rw [split first hm', completion_deadline_le_now hi] at hle
    obtain ⟨hsuccess, hdeferral⟩ := hle
    refine .inr ((split second hm).2 ⟨(completion_deadline_le_now hi).2 fun l hl => ?_, fun deferral hn => ?_⟩)
    · rw [h.last_success] at hl
      have hdistant : l.nanos + 365 * 86400 * 1000000000 ≤ DateTime.MAX_UTC.nanos :=
        hd l (by simp [instants, Option.mem_def.1 hl])
      rcases hsuccess l hl with hold | hover
      · exact .inl (hold.trans hlater)
      · have := min_le_left l.nanos first.now.nanos
        simp only [Duration.hours] at hover
        omega
    · obtain ⟨longer, hfirst, hshort⟩ := h.not_before deferral hn
      exact hshort.trans ((hdeferral longer hfirst).trans h.later)

end Schedule

/-- For a valid configuration: a start is kept by any snapshot that is no less
favourable, whether or not the last success lies in the past; a backup that
waits has a blocker, and a time to try again exactly in the grace period; so
every decision can be recorded. -/
theorem start_is_monotone {config : EffectiveConfig} (hv : config.validate = .ok ()) :
    (∀ first second : SchedulerSnapshot, Schedule.NoLessFavourable first second →
      (∀ t ∈ Schedule.instants first ++ Schedule.instants second, Schedule.Distant t) →
      (∃ trigger, Schedule.decide config.schedule first = some (.Start trigger)) →
      ∃ trigger, Schedule.decide config.schedule second = some (.Start trigger)) ∧
    (∀ snapshot trigger blockers retry_at,
      Schedule.decide config.schedule snapshot = some (.Waiting trigger blockers retry_at) →
      blockers ≠ [] ∧ (retry_at.isSome = true ↔ .WakeGrace ∈ blockers)) ∧
    ∀ snapshot decision state now, Schedule.decide config.schedule snapshot = some decision →
      (record_decision state now decision).isSome = true := by
  refine ⟨fun first second h hd hstart => ?_, fun snapshot trigger reasons retry_at hw => ?_,
    fun snapshot decision state now hdecide => ?_⟩
  · have hd₁ (t : DateTime) (ht : t ∈ Schedule.instants first) := hd t (List.mem_append_left _ ht)
    have hd₂ (t : DateTime) (ht : t ∈ Schedule.instants second) := hd t (List.mem_append_right _ ht)
    rw [Schedule.decide_start_iff, Schedule.blockers_eq_nil, Schedule.wake_grace_over hv hd₁] at hstart
    obtain ⟨-, hdue, hgrace, hnetwork, hbattery, hmetered⟩ := hstart
    have hlater := DateTime.le_iff.1 h.later
    rw [Schedule.decide_start_iff, Schedule.blockers_eq_nil, Schedule.wake_grace_over hv hd₂]
    refine ⟨h.not_running.2, Schedule.due_of_noLessFavourable hv h hd₁ hdue, ?_, ?_, ?_, ?_⟩
    · rcases hgrace with hm | hgrace
      · exact .inl (h.manual_requested hm)
      · refine .inr fun resumed hr => ?_
        obtain ⟨later, hl, hle⟩ := h.resumed_at resumed hr
        have := hgrace later hl
        have := DateTime.le_iff.1 hle
        omega
    · intro hrequired
      exact h.network_available (hnetwork (h.network_required hrequired))
    · rcases hbattery with hm | hmains | hallowed
      · exact .inl (h.manual_requested hm)
      · refine .inr (.inl ?_)
        by_contra hne
        rw [h.on_battery (by simpa using hne)] at hmains
        cases hmains
      · exact .inr (.inr hallowed)
    · intro hm
      exact hmetered (h.metered_network hm)
  · obtain ⟨hne, rfl, -⟩ := Schedule.decide_waiting hw
    exact ⟨hne, Schedule.wakeGrace_mem_blockers.symm⟩
  · cases decision with
    | Waiting trigger reasons retry_at =>
      obtain ⟨hne, -⟩ := Schedule.decide_waiting hdecide
      obtain ⟨blocker, rest, rfl⟩ := List.exists_cons_of_ne_nil hne
      rfl
    | _ => rfl

/-- Requested on battery, a day after the last success. -/
def requestedOnBattery : SchedulerSnapshot :=
  { Schedule.clockWasAhead with
    last_success := some .UNIX_EPOCH
    not_before := some .UNIX_EPOCH
    manual_requested := true
    on_battery := true }

/-- An hour later, on mains. -/
def laterOnMains : SchedulerSnapshot :=
  { requestedOnBattery with now := ⟨90000000000000, by decide, by decide⟩, not_before := none, on_battery := false }

theorem request_starts_on_mains :
    ∃ trigger, Schedule.decide ({} : EffectiveConfig).schedule laterOnMains = some (.Start trigger) :=
  (start_is_monotone (by decide)).1 requestedOnBattery laterOnMains
    ⟨⟨rfl, rfl⟩, rfl, by decide, by decide, by decide, by decide, by decide, by decide, by decide, by decide⟩
    (by decide) ⟨.Manual, by decide⟩

end ResticPal
