import ResticPal.UI.Synchronization
/-!
# Which reloads the coordinator owes

- `converges_to_latest`: an idle coordinator has observed the revision that was passed
  last, as long as no call repeats the observed revision while a reload for another one
  is in flight.
- `forced_reload_kept`: a forced request leads to a forced reload, as long as none throws
  while an unforced request is pending.
- `revisited_revision_is_dropped`, `forced_reload_is_lost`: interleavings in which the
  coordinator does otherwise.
-/

open Lib

namespace ResticPal.UI.Coordinator

variable {t u v : Coordinator} {a : Action} {as : List Action} {c d : Nat} {caller : Caller}

/-- No reload in progress and nothing pending. -/
def Idle (t : Coordinator) : Prop :=
  t.shared.synchronizationInProgress = false ∧ t.shared.synchronizationPending = false

theorem Exclusive.nobody (h : Exclusive t) (hf : t.shared.synchronizationInProgress = false) (c : Nat) : ¬ t.Inside c := by
  intro hc
  exact absurd (hf.symm.trans (h.flag.2 ⟨c, hc⟩)) Bool.false_ne_true

/-! ## The latest revision -/

/-- A call does not pass the observed revision again while a reload for another one is in
flight with nothing pending behind it, unless it is forced. -/
def Settled (t : Coordinator) : Action → Prop
  | .observe revision force =>
    force = false → t.shared.synchronizationPending = false → t.shared.hasObservedRevision = true →
      t.shared.observedRevision = revision → ∀ caller ∈ t.callers, ∀ target ∈ caller.target, target = revision
  | _ => True

/-- Where the latest revision stands: pending, else taken, else observed. -/
structure Following (latest : Option (Option String)) (t : Coordinator) : Prop where
  pending : t.shared.synchronizationPending = true → latest = some t.shared.pendingRevision
  taken : t.shared.synchronizationPending = false → ∀ c target, t.Holds c target → latest = some target
  observed : t.shared.synchronizationPending = false → (∀ c target, ¬ t.Holds c target) →
    ∀ revision ∈ latest, t.shared.hasObservedRevision = true ∧ t.shared.observedRevision = revision

theorem Following.start : Following none start where
  pending h := by cases h
  taken _ c target h := by
    obtain ⟨caller, hc, -⟩ := h
    cases hc
  observed _ _ revision h := by cases h

theorem Following.observe {revision : Option String} {force : Bool}
    {shared : ManagedConfigurationSynchronization} (he : Exclusive t) (hok : Settled t (.observe revision force)) (ho : Observed t.shared revision force shared caller) :
    Following (some revision) { t with shared := shared, callers := t.callers ++ [caller] } := by
  have hnone : caller.target = none := by
    cases ho with
    | _ => rfl
  have hold {c : Nat} {target : Option String} (hc : Holds ⟨shared, t.callers ++ [caller], t.reloads⟩ c target) :
      t.Holds c target := by
    rcases has_append.1 hc with hc | ⟨-, hc⟩
    · exact hc
    · rw [hnone] at hc
      cases hc
  cases ho with
  | baseline hobserved hforce hp hflag =>
    refine ⟨?_, ?_, ?_⟩
    · intro hpending
      exact absurd (hp.symm.trans hpending) Bool.false_ne_true
    · intro _ c target hc
      exact absurd (hold hc).inside (he.nobody hflag c)
    · intro _ _ other hother
      exact ⟨rfl, Option.some.inj hother⟩
  | unchanged hobserved heq hforce hp =>
    refine ⟨?_, ?_, ?_⟩
    · intro hpending
      exact absurd (hp.symm.trans hpending) Bool.false_ne_true
    · intro _ c target hc
      obtain ⟨caller, hcaller, htarget⟩ := hold hc
      rw [hok hforce hp hobserved heq caller (List.mem_of_getElem? hcaller) target htarget]
    · intro _ _ other hother
      exact ⟨hobserved, heq.trans (Option.some.inj hother)⟩
  | queued hflag => exact ⟨fun _ => rfl, (nomatch ·), (nomatch ·)⟩
  | started hflag => exact ⟨fun _ => rfl, (nomatch ·), (nomatch ·)⟩

/-- Only the caller that takes a target holds one afterwards. -/
theorem Exclusive.holds_put_only (he : Exclusive t) (hc : t.Inside c) {shared : ManagedConfigurationSynchronization}
    {reloads : List Reload} {target : Option String} (hd : (put ⟨shared, t.callers, reloads⟩ c caller).Holds d target) :
    d = c ∧ caller.target = some target := by
  rw [Holds, has_put hc] at hd
  split at hd
  · rename_i heq
    exact ⟨heq, hd⟩
  · rename_i hne
    exact absurd (he.only d c (Holds.inside hd) hc) hne

/-- A caller moves on with what it holds, and no revision changes. -/
theorem Following.put_same {last : Option (Option String)} {old : Caller} {reloads : List Reload} (h : Following last t)
    (hc : t.callers[c]? = some old) (hi : old.inside = true) (ht : caller.target = old.target) (inProgress : Bool) :
    Following last
      (put ⟨{ t.shared with synchronizationInProgress := inProgress }, t.callers, reloads⟩ c caller) := by
  refine ⟨h.pending, ?_, ?_⟩
  · intro hp d target hd
    exact h.taken hp d target ((holds_put hc hi ht).1 hd)
  · intro hp hnone
    exact h.observed hp (fun d target hd => hnone d target ((holds_put hc hi ht).2 hd))

theorem Following.move {last : Option (Option String)} (h : Following last t) (he : Exclusive t) (hok : Settled t a)
    (hm : Move t a u) : Following (a.revision <|> last) u := by
  cases hm with
  | observe ho => exact .observe he hok ho
  | finished hc hp =>
    refine h.put_same hc rfl ?_ false
    rfl
  | taken hc hp =>
    refine ⟨(nomatch ·), ?_, ?_⟩
    · intro _ d target hd
      obtain ⟨-, htarget⟩ := he.holds_put_only (.of_caller hc rfl) hd
      rw [← htarget]
      exact h.pending hp
    · intro _ hnone
      exact absurd ((has_put (.of_caller hc rfl)).2 (by rw [if_pos rfl]; rfl)) (hnone _ t.shared.pendingRevision)
  | completed hc => exact h.put_same hc rfl (target_completed _ _ _) t.shared.synchronizationInProgress
  | recorded hc =>
    refine ⟨h.pending, ?_, ?_⟩
    · intro _ d target hd
      cases (he.holds_put_only (.of_caller hc rfl) hd).2
    · intro hp _ revision hlast
      have hheld := h.taken hp _ _ (Has.of_caller hc rfl)
      exact ⟨rfl, Option.some.inj (hheld.symm.trans hlast)⟩
  | preserved hc =>
    have hpending := preserveFailedTarget_pending t.shared
    refine ⟨?_, ?_, ?_⟩
    · intro _
      simp only [put, preserveFailedTarget_revision]
      split
      · rename_i hp
        exact h.pending hp
      · rename_i hp
        exact h.taken (Bool.eq_false_iff.2 hp) _ _ (Has.of_caller hc rfl)
    · intro hp
      exact absurd (hp.symm.trans (hpending _ _)) Bool.false_ne_true
    · intro hp
      exact absurd (hp.symm.trans (hpending _ _)) Bool.false_ne_true

/-- In every interleaving of settled calls, a coordinator with no reload in progress and
nothing pending has observed the revision that the most recent call passed. -/
theorem converges_to_latest (h : Run step Settled start as t) (hidle : t.Idle) {revision : Option String}
    (hlatest : latest as = some revision) :
    t.shared.hasObservedRevision = true ∧ t.shared.observedRevision = revision := by
  have hinv : Exclusive t ∧ Following (latest as) t := by
    refine h.inv_labels (fun as t => Exclusive t ∧ Following (latest as) t) ?_ ⟨.start, .start⟩
    intro as t a u hi hok hs
    rw [latest_snoc]
    exact ⟨hi.1.move (.of_step hs), hi.2.move hi.1 hok (.of_step hs)⟩
  exact hinv.2.observed hidle.2 (fun c target hc => hinv.1.nobody hidle.1 c hc.inside) revision hlatest

instance (t : Coordinator) (a : Action) : Decidable (Settled t a) :=
  match a with
  | .observe revision force =>
    inferInstanceAs (Decidable (force = false → t.shared.synchronizationPending = false →
      t.shared.hasObservedRevision = true → t.shared.observedRevision = revision →
      ∀ caller ∈ t.callers, ∀ target ∈ caller.target, target = revision))
  | .take _ | .complete _ _ | .record _ | .preserve _ => .isTrue trivial

/-- While the reload for a second revision is in flight, a third one is passed. -/
def overtaken : List Action :=
  [.observe (some "1") false, .observe (some "2") false, .take 1, .observe (some "3") false,
    .complete 1 (.returned true), .record 1, .take 1, .complete 1 (.returned true), .record 1, .take 1]

theorem overtaken_isSome : (runList step Settled start overtaken).isSome := by decide

theorem converges_to_latest_overtaken : ∃ t, Run step Settled start overtaken t ∧ t.Idle ∧
    t.shared.hasObservedRevision = true ∧ t.shared.observedRevision = some "3" :=
  ⟨_, Run.of_isSome overtaken_isSome, ⟨rfl, rfl⟩, converges_to_latest (Run.of_isSome overtaken_isSome) ⟨rfl, rfl⟩ rfl⟩

/-- While the reload for a second revision is in flight, the first one is passed again. -/
def revisited : List Action :=
  [.observe (some "1") false, .observe (some "2") false, .take 1, .observe (some "1") false,
    .complete 1 (.returned true), .record 1, .take 1]

theorem revisited_isSome : (runList step (fun _ _ => True) start revisited).isSome := by decide

/-- The call is answered from the observed revision, and the reload then replaces it. -/
theorem revisited_revision_is_dropped : ∃ t, Run step (fun _ _ => True) start revisited t ∧ t.Idle ∧
    latest revisited = some (some "1") ∧ t.shared.observedRevision = some "2" :=
  ⟨_, Run.of_isSome revisited_isSome, ⟨rfl, rfl⟩, rfl, rfl⟩

/-! ## Forced reloads -/

/-- When the target of a forced reload that threw is given back, the pending request is
forced too, or there is none. -/
def KeepsForce (t : Coordinator) : Action → Prop
  | .preserve c => t.callers[c]?.any Caller.givesBackForced = true →
      t.shared.synchronizationPending = true → t.shared.pendingForceSynchronization = true
  | _ => True

instance (t : Coordinator) (a : Action) : Decidable (KeepsForce t a) :=
  match a with
  | .preserve c =>
    inferInstanceAs (Decidable (t.callers[c]?.any Caller.givesBackForced = true →
      t.shared.synchronizationPending = true → t.shared.pendingForceSynchronization = true))
  | .observe _ _ | .take _ | .complete _ _ | .record _ => .isTrue trivial

/-- The log says of every callback in flight that it is. -/
def Logged (t : Coordinator) : Prop :=
  ∀ c target force reload, t.Has (· = .awaiting target force reload) c → t.reloads[reload]? = some ⟨target, force, none⟩

theorem preserveFailedTarget_force (s : ManagedConfigurationSynchronization) (target : Option String) (force : Bool) :
    (s.preserveFailedTarget target force).pendingForceSynchronization =
      if s.synchronizationPending then s.pendingForceSynchronization else force := by
  unfold ManagedConfigurationSynchronization.preserveFailedTarget
  cases s.synchronizationPending with
  | false => rfl
  | true => rfl

theorem completed_ne_awaiting {completion : Completion} (target target' : Option String) (force force' : Bool) (reload : Nat) :
    completed target force completion ≠ .awaiting target' force' reload := by
  rcases completion with (_ | _) | _
  · nofun
  · nofun
  · nofun

/-- A caller moves to where it has no callback in flight. -/
theorem Logged.put (h : Logged t) (hc : t.Inside c) (hcaller : ∀ target force reload, caller ≠ .awaiting target force reload)
    (shared : ManagedConfigurationSynchronization) : Logged (put ⟨shared, t.callers, t.reloads⟩ c caller) := by
  intro d target force reload hd
  rw [has_put hc] at hd
  split at hd
  · exact absurd hd (hcaller target force reload)
  · exact h d target force reload hd

theorem Logged.move (h : Logged t) (he : Exclusive t) (hm : Move t a u) : Logged u := by
  have alone {c d : Nat} {target : Option String} {force : Bool} {reload : Nat} (hc : t.Inside c)
      (hd : t.Has (· = .awaiting target force reload) d) : d = c :=
    he.only d c (hd.mono (by rintro _ rfl; rfl)) hc
  cases hm with
  | observe ho =>
    intro d target force reload hd
    rcases has_append.1 hd with hold | ⟨-, hnew⟩
    · exact h d target force reload hold
    · cases ho with
      | _ => cases hnew
  | finished hc hp => exact h.put (.of_caller hc rfl) (by simp) _
  | taken hc hp =>
    intro d target force reload hd
    rw [has_put (.of_caller hc rfl)] at hd
    split at hd
    · cases hd
      exact List.getElem?_concat_length
    · rename_i hne
      exact absurd (alone (.of_caller hc rfl) hd) hne
  | completed hc =>
    intro d target force reload hd
    rw [has_put (.of_caller hc rfl)] at hd
    split at hd
    · exact absurd hd (completed_ne_awaiting _ _ _ _ _)
    · rename_i hne
      exact absurd (alone (.of_caller hc rfl) hd) hne
  | recorded hc => exact h.put (.of_caller hc rfl) (by simp) _
  | preserved hc => exact h.put (.of_caller hc rfl) (by simp) _

/-- A forced reload, the `n`-th or a later one, that did not throw. -/
def Done (n : Nat) (t : Coordinator) : Prop :=
  ∃ i reload result, n ≤ i ∧ t.reloads[i]? = some reload ∧ reload.force = true ∧
    reload.completion = some (.returned result)

/-- Where a forced request stands that was made when `n` reloads had been started. -/
inductive Owed (n : Nat) (t : Coordinator) : Prop
  | pending : t.shared.synchronizationPending = true → t.shared.pendingForceSynchronization = true → Owed n t
  | inFlight (c : Nat) : t.Has (fun caller => ∃ target reload, caller = .awaiting target true reload ∧ n ≤ reload) c → Owed n t
  | thrown (c : Nat) : t.Has (fun caller => ∃ target exit, caller = .failing target true exit) c → Owed n t
  | done : Done n t → Owed n t

theorem Owed.move {n : Nat} (h : Owed n t) (hn : n ≤ t.reloads.length) (he : Exclusive t) (hl : Logged t)
    (hok : KeepsForce t a) (hm : Move t a u) : Owed n u := by
  cases hm with
  | observe ho =>
    cases h with
    | pending hp hf =>
      cases ho with
      | baseline _ _ hnot => exact absurd (hnot.symm.trans hp) Bool.false_ne_true
      | unchanged _ _ _ hnot => exact absurd (hnot.symm.trans hp) Bool.false_ne_true
      | queued => exact .pending rfl (Bool.or_eq_true_iff.2 (.inl hf))
      | started => exact .pending rfl (Bool.or_eq_true_iff.2 (.inl hf))
    | inFlight c hc => exact .inFlight c (has_append.2 (.inl hc))
    | thrown c hc => exact .thrown c (has_append.2 (.inl hc))
    | done hd => exact .done hd
  | finished hc hnot =>
    cases h with
    | pending hp hf => exact absurd (hnot.symm.trans hp) Bool.false_ne_true
    | inFlight d hd => exact .inFlight d (hd.put_of_not hc rfl (by simp))
    | thrown d hd => exact .thrown d (hd.put_of_not hc rfl (by simp))
    | done hd => exact .done hd
  | @taken c hc hp =>
    cases h with
    | pending _ hf =>
      rw [hf]
      exact .inFlight c ((has_put (.of_caller hc rfl)).2 (by rw [if_pos rfl]; exact ⟨_, _, rfl, hn⟩))
    | inFlight d hd => exact .inFlight d (hd.put_of_not hc rfl (by simp))
    | thrown d hd => exact .thrown d (hd.put_of_not hc rfl (by simp))
    | done hd =>
      obtain ⟨i, reload, result, hi, hreload, hdone⟩ := hd
      exact .done ⟨i, reload, result, hi, List.getElem?_append_left (List.getElem?_eq_some_iff.1 hreload).1 ▸ hreload, hdone⟩
  | @completed c completion target force reload hc =>
    have hlogged := hl c target force reload (.of_caller hc rfl)
    cases h with
    | pending hp hf => exact .pending hp hf
    | inFlight d hd =>
      obtain rfl : d = c := he.only d c (hd.mono (by rintro _ ⟨_, _, rfl, -⟩; rfl)) (.of_caller hc rfl)
      obtain ⟨_, _, heq, hi⟩ := hd.of_eq hc
      cases heq
      cases completion with
      | returned result =>
        have hlt : reload < t.reloads.length := (List.getElem?_eq_some_iff.1 hlogged).1
        exact .done ⟨reload, _, result, hi, List.getElem?_set_self hlt, rfl, rfl⟩
      | threw => exact .thrown d ((has_put (.of_caller hc rfl)).2 (by rw [if_pos rfl]; exact ⟨_, _, rfl⟩))
    | thrown d hd => exact .thrown d (hd.put_of_not hc rfl (by simp))
    | done hd =>
      obtain ⟨i, other, result, hi, hother, hforce, hdone⟩ := hd
      have hne : reload ≠ i := by
        rintro rfl
        rw [hlogged] at hother
        cases hother
        cases hdone
      exact .done ⟨i, other, result, hi, (List.getElem?_set_ne hne).trans hother, hforce, hdone⟩
  | recorded hc =>
    cases h with
    | pending hp hf => exact .pending hp hf
    | inFlight d hd => exact .inFlight d (hd.put_of_not hc rfl (by simp))
    | thrown d hd => exact .thrown d (hd.put_of_not hc rfl (by simp))
    | done hd => exact .done hd
  | @preserved c target force exit hc =>
    have hpending := preserveFailedTarget_pending t.shared target force
    cases h with
    | pending hp hf => exact .pending hpending (by rw [put, preserveFailedTarget_force, if_pos hp]; exact hf)
    | inFlight d hd => exact .inFlight d (hd.put_of_not hc rfl (by simp))
    | thrown d hd =>
      obtain rfl : d = c := he.only d c (hd.mono (by rintro _ ⟨_, _, rfl⟩; rfl)) (.of_caller hc rfl)
      obtain ⟨_, _, heq⟩ := hd.of_eq hc
      cases heq
      refine .pending hpending ?_
      rw [put, preserveFailedTarget_force]
      split
      · rename_i hp
        exact hok (by rw [hc]; rfl) hp
      · rfl
    | done hd => exact .done hd

/-- No step takes a reload out of the log. -/
theorem Move.reloads_length (hm : Move t a u) : t.reloads.length ≤ u.reloads.length := by
  cases hm with
  | taken => simp [put]
  | completed => simp [put]
  | _ => exact Nat.le_refl _

/-- In every interleaving in which no forced reload throws ahead of an unforced request: once
a forced call is made, a coordinator with no reload in progress and nothing pending has
started a forced reload after it that returned. -/
theorem forced_reload_kept {before after : List Action} {revision : Option String}
    (hbefore : Run step KeepsForce start before t) (hcall : t.step (.observe revision true) = some u)
    (hafter : Run step KeepsForce u after v) (hidle : v.Idle) :
    ∃ i reload result, t.reloads.length ≤ i ∧ v.reloads[i]? = some reload ∧ reload.force = true ∧
      reload.completion = some (.returned result) := by
  have hstart : Exclusive t ∧ Logged t := by
    refine hbefore.inv (fun t => Exclusive t ∧ Logged t) ?_ ⟨.start, ?_⟩
    · intro t a u hi _ hs
      exact ⟨hi.1.move (.of_step hs), hi.2.move hi.1 (.of_step hs)⟩
    · rintro c target force reload ⟨caller, hc, -⟩
      cases hc
  have hmove := Move.of_step hcall
  have howed : Owed t.reloads.length u := by
    cases hmove with
    | observe ho =>
      cases ho with
      | queued => exact .pending rfl (Bool.or_true _)
      | started => exact .pending rfl (Bool.or_true _)
      | baseline _ hforce => cases hforce
      | unchanged _ _ hforce => cases hforce
  have hend : Exclusive v ∧ Logged v ∧ t.reloads.length ≤ v.reloads.length ∧ Owed t.reloads.length v := by
    refine hafter.inv (fun v => Exclusive v ∧ Logged v ∧ t.reloads.length ≤ v.reloads.length ∧ Owed t.reloads.length v) ?_
      ⟨hstart.1.move hmove, hstart.2.move hstart.1 hmove, hmove.reloads_length, howed⟩
    rintro v a w ⟨he, hl, hn, ho⟩ hok hs
    have hm := Move.of_step hs
    exact ⟨he.move hm, hl.move he hm, Nat.le_trans hn hm.reloads_length, ho.move hn he hl hok hm⟩
  obtain ⟨he, -, -, ho⟩ := hend
  cases ho with
  | pending hp => exact absurd (hidle.2.symm.trans hp) Bool.false_ne_true
  | inFlight c hc => exact absurd (hc.mono (by rintro _ ⟨_, _, rfl, -⟩; rfl)) (he.nobody hidle.1 c)
  | thrown c hc => exact absurd (hc.mono (by rintro _ ⟨_, _, rfl⟩; rfl)) (he.nobody hidle.1 c)
  | done hd => exact hd

theorem observed_isSome : (start.step (.observe (some "1") false)).isSome := by decide

def observed : Coordinator := (start.step (.observe (some "1") false)).get observed_isSome

theorem enrolled_isSome : (observed.step (.observe (some "2") true)).isSome := by decide

/-- The status after an enrollment is passed with force. -/
def enrolled : Coordinator := (observed.step (.observe (some "2") true)).get enrolled_isSome

/-- The forced reload throws, and the next status is served after it. -/
def retried : List Action :=
  [.take 1, .complete 1 .threw, .preserve 1, .observe (some "2") false, .take 2, .complete 2 (.returned true), .record 2,
    .take 2]

theorem retried_isSome : (runList step KeepsForce enrolled retried).isSome := by decide

theorem forced_reload_kept_retried : ∃ t, Run step KeepsForce enrolled retried t ∧ t.Idle ∧
    ∃ i reload result, observed.reloads.length ≤ i ∧ t.reloads[i]? = some reload ∧ reload.force = true ∧
      reload.completion = some (.returned result) := by
  have hbefore : Run step KeepsForce start [.observe (some "1") false] observed :=
    .snoc .nil trivial (Option.some_get observed_isSome).symm
  exact ⟨_, Run.of_isSome retried_isSome, ⟨rfl, rfl⟩,
    forced_reload_kept hbefore (Option.some_get enrolled_isSome).symm (Run.of_isSome retried_isSome) ⟨rfl, rfl⟩⟩

/-- The forced reload throws while another status is queued behind it. -/
def displaced : List Action :=
  [.take 1, .observe (some "3") false, .complete 1 .threw, .preserve 1, .observe (some "3") false, .take 3,
    .complete 3 (.returned true), .record 3, .take 3]

theorem displaced_isSome : (runList step (fun _ _ => True) enrolled displaced).isSome := by decide

/-- The queued request is not forced, so that the coordinator becomes idle without a
forced reload that returned. -/
theorem forced_reload_is_lost :
    Run step (fun _ _ => True) start [.observe (some "1") false] observed ∧
    observed.step (.observe (some "2") true) = some enrolled ∧
    ∃ t, Run step (fun _ _ => True) enrolled displaced t ∧ t.Idle ∧
      t.reloads = [⟨some "2", true, some .threw⟩, ⟨some "3", false, some (.returned true)⟩] :=
  ⟨.snoc .nil trivial rfl, rfl, _, Run.of_isSome displaced_isSome, ⟨rfl, rfl⟩, rfl⟩

end ResticPal.UI.Coordinator
