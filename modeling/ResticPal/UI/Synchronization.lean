import ResticPal.Lib.Runs
/-!
# The reload coordinator of the user interface

`ManagedConfigurationSynchronization.cs`. Callers of `ObserveAsync` share one object
behind a gate; one of them at a time serves the pending request by awaiting the
callback `synchronize`. Every lock section is one step, and so is every completion
of a callback, so that other callers come in between.

- `Move.of_step`: what a step can do, branch by branch.
- `one_reload_at_a_time`: one callback in flight, the flag is set exactly while
  a caller serves, and a failed target or a newer one stays pending.
-/

open Lib

namespace ResticPal.UI

/-- The fields behind `_gate`. A revision is a `string?`, compared ordinally. -/
structure ManagedConfigurationSynchronization where
  hasObservedRevision : Bool
  observedRevision : Option String
  synchronizationInProgress : Bool
  synchronizationPending : Bool
  pendingRevision : Option String
  pendingForceSynchronization : Bool
deriving DecidableEq, Repr

namespace ManagedConfigurationSynchronization

def new : ManagedConfigurationSynchronization := ⟨false, none, false, false, none, false⟩

/-- The first lock section of `ObserveAsync`: what the call returns at once, or `none`
when it goes on to the servicing loop. -/
def observe (s : ManagedConfigurationSynchronization) (revision : Option String) (forceSynchronization : Bool) :
    ManagedConfigurationSynchronization × Option Bool :=
  if !s.hasObservedRevision && !forceSynchronization && !s.synchronizationPending && !s.synchronizationInProgress then
    ({ s with observedRevision := revision, hasObservedRevision := true }, some true)
  else
    let revisionChanged := !s.hasObservedRevision || s.observedRevision != revision
    if !forceSynchronization && !revisionChanged && !s.synchronizationPending then
      (s, some true)
    else
      let s := { s with
        pendingRevision := revision
        pendingForceSynchronization := s.pendingForceSynchronization || forceSynchronization
        synchronizationPending := true }
      if s.synchronizationInProgress then (s, some false)
      else ({ s with synchronizationInProgress := true }, none)

/-- The lock section at the head of the loop: the target to reload for, or `none` when
the loop is left. -/
def takeTarget (s : ManagedConfigurationSynchronization) :
    ManagedConfigurationSynchronization × Option (Option String × Bool) :=
  if !s.synchronizationPending then ({ s with synchronizationInProgress := false }, none)
  else
    ({ s with synchronizationPending := false, pendingForceSynchronization := false },
      some (s.pendingRevision, s.pendingForceSynchronization))

/-- The lock section after a reload that succeeded. -/
def recordTarget (s : ManagedConfigurationSynchronization) (targetRevision : Option String) :
    ManagedConfigurationSynchronization :=
  { s with observedRevision := targetRevision, hasObservedRevision := true }

def preserveFailedTarget (s : ManagedConfigurationSynchronization) (targetRevision : Option String)
    (targetForceSynchronization : Bool) : ManagedConfigurationSynchronization :=
  let s :=
    if !s.synchronizationPending then
      { s with
        pendingRevision := targetRevision
        pendingForceSynchronization := targetForceSynchronization
        synchronizationPending := true }
    else s
  { s with synchronizationInProgress := false }

end ManagedConfigurationSynchronization

/-- How a `Task<bool>` ends: the callback's, or that of `ObserveAsync`. -/
inductive Completion where
  | returned (result : Bool)
  | threw
deriving DecidableEq, Repr

/-- One call of `synchronize`; `completion` is `none` while it is in flight. -/
structure Reload where
  target : Option String
  force : Bool
  completion : Option Completion
deriving DecidableEq, Repr

/-- Where a call of `ObserveAsync` stands, with its local variables. -/
inductive Caller where
  /-- At the head of the loop. -/
  | looping
  /-- Awaiting the callback, the `reload`-th that was started. -/
  | awaiting (target : Option String) (force : Bool) (reload : Nat)
  /-- The callback returned true; its target is not recorded yet. -/
  | recording (target : Option String)
  /-- Before `PreserveFailedTarget(target, force)`, and how the call ends after it. -/
  | failing (target : Option String) (force : Bool) (exit : Completion)
  | left (exit : Completion)
deriving DecidableEq, Repr

namespace Caller

/-- In the servicing loop. -/
def inside : Caller → Bool
  | .left _ => false
  | _ => true

/-- The callback is in flight. -/
def reloading : Caller → Bool
  | .awaiting _ _ _ => true
  | _ => false

/-- The target that was taken and is neither recorded nor given back yet. -/
def target : Caller → Option (Option String)
  | .awaiting target _ _ => some target
  | .recording target => some target
  | .failing target _ _ => some target
  | _ => none

/-- A forced target is about to be given back. -/
def givesBackForced : Caller → Bool
  | .failing _ force _ => force
  | _ => false

theorem inside_of_reloading {caller : Caller} (h : caller.reloading = true) : caller.inside = true := by
  cases caller with
  | awaiting target force reload => rfl
  | _ => cases h

theorem inside_of_target {caller : Caller} {target : Option String} (h : caller.target = some target) :
    caller.inside = true := by
  cases caller with
  | left exit => cases h
  | _ => rfl

end Caller

/-- The coordinator, the calls made so far and the reloads started so far. -/
structure Coordinator where
  shared : ManagedConfigurationSynchronization
  callers : List Caller
  reloads : List Reload
deriving DecidableEq, Repr

/-- The steps; a caller is named by its place in `callers`. -/
inductive Action where
  | observe (revision : Option String) (force : Bool)
  | take (c : Nat)
  | complete (c : Nat) (completion : Completion)
  | record (c : Nat)
  | preserve (c : Nat)
deriving DecidableEq, Repr

/-- The revision that a call of `ObserveAsync` passes. -/
def Action.revision : Action → Option (Option String)
  | .observe revision _ => some revision
  | _ => none

/-- The revision passed by the most recent call. -/
def latest (as : List Action) : Option (Option String) := (as.filterMap Action.revision).getLast?

/-- The steps since caller `c` last came to the head of its loop. -/
def since (c : Nat) (as : List Action) : List Action :=
  as.foldl (fun later a => if a = .take c then [] else later ++ [a]) []

theorem latest_snoc (as : List Action) (a : Action) : latest (as ++ [a]) = (a.revision <|> latest as) := by
  unfold latest
  rw [List.filterMap_append]
  cases h : a.revision with
  | none => simp [h]
  | some revision => simp [h]

theorem since_snoc {c : Nat} {a : Action} (as : List Action) (h : a ≠ .take c) : since c (as ++ [a]) = since c as ++ [a] := by
  simp only [since, List.foldl_append, List.foldl_cons, List.foldl_nil, if_neg h]

namespace Coordinator

def start : Coordinator := ⟨.new, [], []⟩

def put (t : Coordinator) (c : Nat) (caller : Caller) : Coordinator := { t with callers := t.callers.set c caller }

/-- What a caller does when its callback completes. -/
def completed (target : Option String) (force : Bool) : Completion → Caller
  | .returned true => .recording target
  | .returned false => .failing target false (.returned false)
  | .threw => .failing target force .threw

def step (t : Coordinator) : Action → Option Coordinator
  | .observe revision force =>
    let (shared, result) := t.shared.observe revision force
    let caller := match result with
      | some result => .left (.returned result)
      | none => .looping
    some { t with shared := shared, callers := t.callers ++ [caller] }
  | .take c =>
    match t.callers[c]? with
    | some .looping =>
      match t.shared.takeTarget with
      | (shared, none) => some (put { t with shared := shared } c (.left (.returned true)))
      | (shared, some (target, force)) =>
        some (put { t with shared := shared, reloads := t.reloads ++ [⟨target, force, none⟩] } c
          (.awaiting target force t.reloads.length))
    | _ => none
  | .complete c completion =>
    match t.callers[c]? with
    | some (.awaiting target force reload) =>
      some (put { t with reloads := t.reloads.set reload ⟨target, force, some completion⟩ } c
        (completed target force completion))
    | _ => none
  | .record c =>
    match t.callers[c]? with
    | some (.recording target) => some (put { t with shared := t.shared.recordTarget target } c .looping)
    | _ => none
  | .preserve c =>
    match t.callers[c]? with
    | some (.failing target force exit) =>
      some (put { t with shared := t.shared.preserveFailedTarget target force } c (.left exit))
    | _ => none

/-! ## What a step does -/

/-- The first lock section of a call, by its four exits. -/
inductive Observed (s : ManagedConfigurationSynchronization) (revision : Option String) (force : Bool) :
    ManagedConfigurationSynchronization → Caller → Prop
  | baseline : s.hasObservedRevision = false → force = false → s.synchronizationPending = false →
      s.synchronizationInProgress = false →
      Observed s revision force { s with observedRevision := revision, hasObservedRevision := true } (.left (.returned true))
  | unchanged : s.hasObservedRevision = true → s.observedRevision = revision → force = false →
      s.synchronizationPending = false → Observed s revision force s (.left (.returned true))
  | queued : s.synchronizationInProgress = true →
      Observed s revision force { s with
        pendingRevision := revision
        pendingForceSynchronization := s.pendingForceSynchronization || force
        synchronizationPending := true } (.left (.returned false))
  | started : s.synchronizationInProgress = false →
      Observed s revision force { s with
        pendingRevision := revision
        pendingForceSynchronization := s.pendingForceSynchronization || force
        synchronizationPending := true
        synchronizationInProgress := true } .looping

/-- A step, with the guards that let it happen. -/
inductive Move (t : Coordinator) : Action → Coordinator → Prop
  | observe {revision : Option String} {force : Bool} {shared : ManagedConfigurationSynchronization} {caller : Caller} :
      Observed t.shared revision force shared caller →
      Move t (.observe revision force) { t with shared := shared, callers := t.callers ++ [caller] }
  | finished {c : Nat} : t.callers[c]? = some .looping → t.shared.synchronizationPending = false →
      Move t (.take c)
        (put { t with shared := { t.shared with synchronizationInProgress := false } } c (.left (.returned true)))
  | taken {c : Nat} : t.callers[c]? = some .looping → t.shared.synchronizationPending = true →
      Move t (.take c)
        (put { t with
          shared := { t.shared with synchronizationPending := false, pendingForceSynchronization := false }
          reloads := t.reloads ++ [⟨t.shared.pendingRevision, t.shared.pendingForceSynchronization, none⟩] } c
          (.awaiting t.shared.pendingRevision t.shared.pendingForceSynchronization t.reloads.length))
  | completed {c : Nat} {completion : Completion} {target : Option String} {force : Bool} {reload : Nat} :
      t.callers[c]? = some (.awaiting target force reload) →
      Move t (.complete c completion)
        (put { t with reloads := t.reloads.set reload ⟨target, force, some completion⟩ } c
          (completed target force completion))
  | recorded {c : Nat} {target : Option String} : t.callers[c]? = some (.recording target) →
      Move t (.record c) (put { t with shared := t.shared.recordTarget target } c .looping)
  | preserved {c : Nat} {target : Option String} {force : Bool} {exit : Completion} :
      t.callers[c]? = some (.failing target force exit) →
      Move t (.preserve c) (put { t with shared := t.shared.preserveFailedTarget target force } c (.left exit))

variable {t u : Coordinator} {a : Action} {c d : Nat} {caller : Caller}

theorem Observed.of_observe (s : ManagedConfigurationSynchronization) (revision : Option String) (force : Bool) :
    Observed s revision force (s.observe revision force).1
      (match (s.observe revision force).2 with
        | some result => .left (.returned result)
        | none => .looping) := by
  simp only [ManagedConfigurationSynchronization.observe]
  split
  · rename_i h
    simp only [Bool.and_eq_true, Bool.not_eq_true'] at h
    exact .baseline h.1.1.1 h.1.1.2 h.1.2 h.2
  · split
    · rename_i h
      simp only [Bool.and_eq_true, Bool.not_eq_true', Bool.or_eq_false_iff, Bool.not_eq_false', bne_eq_false_iff_eq] at h
      exact .unchanged h.1.2.1 h.1.2.2 h.1.1 h.2
    · split
      · rename_i h
        exact .queued h
      · rename_i h
        exact .started (Bool.eq_false_iff.2 h)

theorem Move.of_step (h : t.step a = some u) : Move t a u := by
  cases a with
  | observe revision force =>
    cases h
    exact .observe (.of_observe t.shared revision force)
  | take c =>
    simp only [step] at h
    split at h
    · rename_i hc
      unfold ManagedConfigurationSynchronization.takeTarget at h
      split at h
      · rename_i hp
        split at hp
        · rename_i hpending
          cases hp
          cases h
          exact .finished hc (by simpa using hpending)
        · cases hp
      · rename_i hp
        split at hp
        · cases hp
        · rename_i hpending
          cases hp
          cases h
          exact .taken hc (by simpa using hpending)
    · cases h
  | complete c completion =>
    simp only [step] at h
    split at h
    · rename_i hc
      cases h
      exact .completed hc
    · cases h
  | record c =>
    simp only [step] at h
    split at h
    · rename_i hc
      cases h
      exact .recorded hc
    · cases h
  | preserve c =>
    simp only [step] at h
    split at h
    · rename_i hc
      cases h
      exact .preserved hc
    · cases h

/-! ## Who is inside the loop -/

/-- Caller `c` stands where `p` says. -/
def Has (t : Coordinator) (p : Caller → Prop) (c : Nat) : Prop := ∃ caller, t.callers[c]? = some caller ∧ p caller

/-- Caller `c` is inside the servicing loop. -/
def Inside (t : Coordinator) (c : Nat) : Prop := t.Has (fun caller => caller.inside = true) c

/-- Caller `c` has taken `target`. -/
def Holds (t : Coordinator) (c : Nat) (target : Option String) : Prop :=
  t.Has (fun caller => caller.target = some target) c

variable {p : Caller → Prop}

theorem Has.of_caller (h : t.callers[c]? = some caller) (hp : p caller) : t.Has p c := ⟨caller, h, hp⟩

theorem Has.of_eq (hp : t.Has p c) (h : t.callers[c]? = some caller) : p caller := by
  obtain ⟨other, hother, hp⟩ := hp
  rw [h] at hother
  cases hother
  exact hp

theorem Has.mono {q : Caller → Prop} (h : t.Has p c) (hpq : ∀ caller, p caller → q caller) : t.Has q c := by
  obtain ⟨caller, hc, hp⟩ := h
  exact ⟨caller, hc, hpq caller hp⟩

theorem Holds.inside {target : Option String} (h : t.Holds c target) : t.Inside c :=
  Has.mono h (fun _ => Caller.inside_of_target)

theorem has_append {shared : ManagedConfigurationSynchronization} {reloads : List Reload} :
    Has ⟨shared, t.callers ++ [caller], reloads⟩ p c ↔ t.Has p c ∨ (c = t.callers.length ∧ p caller) := by
  unfold Has
  rcases Nat.lt_trichotomy c t.callers.length with h | h | h
  · simp only [List.getElem?_append_left h]
    exact ⟨.inl, fun h' => h'.elim id (fun h' => absurd h'.1 (Nat.ne_of_lt h))⟩
  · subst h
    simp
  · have hout : (t.callers ++ [caller])[c]? = none := by
      rw [List.getElem?_eq_none_iff, List.length_append]
      exact h
    simp only [hout, List.getElem?_eq_none (Nat.le_of_lt h)]
    simp [Nat.ne_of_gt h]

theorem has_put {shared : ManagedConfigurationSynchronization} {reloads : List Reload} (hc : t.Inside c) :
    (put ⟨shared, t.callers, reloads⟩ c caller).Has p d ↔ if d = c then p caller else t.Has p d := by
  obtain ⟨old, hold, -⟩ := hc
  have hlt : c < t.callers.length := (List.getElem?_eq_some_iff.1 hold).1
  unfold Has put
  split
  · rename_i h
    subst h
    simp [List.getElem?_set_self hlt]
  · rename_i h
    simp only [List.getElem?_set_ne (Ne.symm h)]

/-- The step of a caller that `p` is not about. -/
theorem Has.put_of_not {shared : ManagedConfigurationSynchronization} {reloads : List Reload} {old : Caller}
    (hd : t.Has p d) (hc : t.callers[c]? = some old) (hi : old.inside = true) (hold : ¬ p old) :
    (put ⟨shared, t.callers, reloads⟩ c caller).Has p d := by
  rw [has_put (.of_caller hc hi), if_neg]
  · exact hd
  · rintro rfl
    exact hold (hd.of_eq hc)

/-- A caller that moves on with what it holds. -/
theorem holds_put {shared : ManagedConfigurationSynchronization} {reloads : List Reload} {old : Caller}
    {target : Option String} (hc : t.callers[c]? = some old) (hi : old.inside = true)
    (ht : caller.target = old.target) :
    (put ⟨shared, t.callers, reloads⟩ c caller).Holds d target ↔ t.Holds d target := by
  rw [Holds, has_put (.of_caller hc hi)]
  split
  · rename_i hd
    subst hd
    rw [ht]
    exact ⟨fun h => Has.of_caller hc h, fun h => Has.of_eq h hc⟩
  · rfl

/-- At most one caller is inside, and the flag says whether one is. -/
structure Exclusive (t : Coordinator) : Prop where
  only : ∀ c d, t.Inside c → t.Inside d → c = d
  flag : t.shared.synchronizationInProgress = true ↔ ∃ c, t.Inside c

theorem Exclusive.start : Exclusive start where
  only c d h _ := by
    obtain ⟨caller, h, -⟩ := h
    cases h
  flag := by
    constructor
    · intro h
      cases h
    · rintro ⟨c, caller, h, -⟩
      cases h

/-- A call that does not enter the loop. -/
theorem Exclusive.passing (h : Exclusive t) {shared : ManagedConfigurationSynchronization} {exit : Completion}
    (hs : shared.synchronizationInProgress = t.shared.synchronizationInProgress) :
    Exclusive { t with shared := shared, callers := t.callers ++ [.left exit] } := by
  have hiff : ∀ c, Inside { t with shared := shared, callers := t.callers ++ [.left exit] } c ↔ t.Inside c := by
    intro c
    rw [Inside, has_append]
    exact ⟨fun h => h.elim id (fun h => nomatch h.2), .inl⟩
  constructor
  · intro c d hc hd
    exact h.only c d ((hiff c).1 hc) ((hiff d).1 hd)
  · simp only [hs, h.flag, hiff]

/-- A call that enters the loop when nobody is in it. -/
theorem Exclusive.entering (h : Exclusive t) {shared : ManagedConfigurationSynchronization}
    (ht : t.shared.synchronizationInProgress = false) (hs : shared.synchronizationInProgress = true) :
    Exclusive { t with shared := shared, callers := t.callers ++ [.looping] } := by
  have nobody : ∀ c, ¬ t.Inside c := by
    intro c hc
    have hflag := h.flag.2 ⟨c, hc⟩
    rw [ht] at hflag
    cases hflag
  have hiff : ∀ c, Inside { t with shared := shared, callers := t.callers ++ [.looping] } c ↔ c = t.callers.length := by
    intro c
    rw [Inside, has_append]
    exact ⟨fun h => h.elim (fun h => absurd h (nobody c)) (·.1), fun h => .inr ⟨h, rfl⟩⟩
  constructor
  · intro c d hc hd
    rw [(hiff c).1 hc, (hiff d).1 hd]
  · exact ⟨fun _ => ⟨_, (hiff _).2 rfl⟩, fun _ => hs⟩

/-- The caller inside moves on and stays inside. -/
theorem Exclusive.moving (h : Exclusive t) (hc : t.Inside c) (hi : caller.inside = true)
    {shared : ManagedConfigurationSynchronization} {reloads : List Reload}
    (hs : shared.synchronizationInProgress = t.shared.synchronizationInProgress) :
    Exclusive (put { t with shared := shared, reloads := reloads } c caller) := by
  have hiff : ∀ d, Inside (put { t with shared := shared, reloads := reloads } c caller) d ↔ t.Inside d := by
    intro d
    rw [Inside, has_put hc]
    split
    · rename_i hd
      subst hd
      exact ⟨fun _ => hc, fun _ => hi⟩
    · rfl
  constructor
  · intro d e hd he
    exact h.only d e ((hiff d).1 hd) ((hiff e).1 he)
  · show shared.synchronizationInProgress = true ↔ _
    simp only [hs, h.flag, hiff]

/-- The caller inside leaves and clears the flag. -/
theorem Exclusive.leaving (h : Exclusive t) (hc : t.Inside c) {exit : Completion}
    {shared : ManagedConfigurationSynchronization} (hs : shared.synchronizationInProgress = false) :
    Exclusive (put { t with shared := shared } c (.left exit)) := by
  have nobody : ∀ d, ¬ Inside (put { t with shared := shared } c (.left exit)) d := by
    intro d hd
    rw [Inside, has_put hc] at hd
    split at hd
    · cases hd
    · rename_i hne
      exact hne (h.only d c hd hc)
  constructor
  · intro d e hd
    exact absurd hd (nobody d)
  · constructor
    · intro hflag
      exact absurd (hs.symm.trans hflag) Bool.false_ne_true
    · rintro ⟨d, hd⟩
      exact absurd hd (nobody d)

@[simp] theorem preserveFailedTarget_inProgress (s : ManagedConfigurationSynchronization) (target : Option String)
    (force : Bool) : (s.preserveFailedTarget target force).synchronizationInProgress = false := rfl

theorem preserveFailedTarget_pending (s : ManagedConfigurationSynchronization) (target : Option String) (force : Bool) :
    (s.preserveFailedTarget target force).synchronizationPending = true := by
  unfold ManagedConfigurationSynchronization.preserveFailedTarget
  cases hp : s.synchronizationPending with
  | false => simp
  | true => simp [hp]

theorem inside_completed (target : Option String) (force : Bool) (completion : Completion) :
    (completed target force completion).inside = true := by
  rcases completion with (_ | _) | _
  · rfl
  · rfl
  · rfl

theorem target_completed (target : Option String) (force : Bool) (completion : Completion) :
    (completed target force completion).target = some target := by
  rcases completion with (_ | _) | _
  · rfl
  · rfl
  · rfl

theorem Exclusive.move (h : Exclusive t) (hm : Move t a u) : Exclusive u := by
  cases hm with
  | observe ho =>
    cases ho with
    | baseline _ _ _ hflag => exact h.passing rfl
    | unchanged => exact h.passing rfl
    | queued hflag => exact h.passing rfl
    | started hflag => exact h.entering hflag rfl
  | finished hc _ => exact h.leaving (.of_caller hc rfl) rfl
  | taken hc _ => exact h.moving (.of_caller hc rfl) rfl rfl
  | completed hc => exact h.moving (.of_caller hc rfl) (inside_completed _ _ _) rfl
  | recorded hc => exact h.moving (.of_caller hc rfl) rfl rfl
  | preserved hc => exact h.leaving (.of_caller hc rfl) rfl

/-! ## What stays pending -/

/-- A request that is pending while a target is taken was made after it was taken. -/
def Newer (as : List Action) (t : Coordinator) : Prop :=
  ∀ c target, t.Holds c target → t.shared.synchronizationPending = true →
    latest (since c as) = some t.shared.pendingRevision

/-- A step that is no call, and leaves the pending request and the taken targets alone. -/
theorem Newer.moving {as : List Action} (h : Newer as t) (ha : a.revision = none) (hneq : ∀ c, a ≠ .take c)
    (hp : u.shared.synchronizationPending = t.shared.synchronizationPending)
    (hr : u.shared.pendingRevision = t.shared.pendingRevision)
    (ht : ∀ c target, u.Holds c target → t.Holds c target) : Newer (as ++ [a]) u := by
  intro c target hc hpending
  rw [since_snoc as (hneq c), latest_snoc, ha, hr]
  exact h c target (ht c target hc) (hp ▸ hpending)

theorem Newer.move {as : List Action} (h : Newer as t) (he : Exclusive t) (hm : Move t a u) : Newer (as ++ [a]) u := by
  cases hm with
  | observe ho =>
    intro c target hc hpending
    rw [since_snoc as (by nofun), latest_snoc]
    cases ho with
    | baseline _ _ hp => exact absurd (hp.symm.trans hpending) Bool.false_ne_true
    | unchanged _ _ _ hp => exact absurd (hp.symm.trans hpending) Bool.false_ne_true
    | queued => rfl
    | started => rfl
  | finished hc hp =>
    intro d target hd hpending
    exact absurd (hp.symm.trans hpending) Bool.false_ne_true
  | taken hc hp =>
    intro d target hd hpending
    cases hpending
  | completed hc =>
    refine h.moving rfl (by nofun) rfl rfl ?_
    intro d target hd
    exact (holds_put hc rfl (target_completed _ _ _)).1 hd
  | recorded hc =>
    refine h.moving rfl (by nofun) rfl rfl ?_
    intro d target hd
    rw [Holds, has_put (Has.of_caller hc rfl)] at hd
    split at hd
    · cases hd
    · exact hd
  | preserved hc =>
    intro d target hd
    rw [Holds, has_put (Has.of_caller hc rfl)] at hd
    split at hd
    · cases hd
    · rename_i hne
      exact absurd (he.only d _ (Holds.inside hd) (Has.of_caller hc rfl)) hne

theorem Newer.run {ok : Coordinator → Action → Prop} {as : List Action} (hr : Run step ok start as t) :
    Exclusive t ∧ Newer as t := by
  refine hr.inv_labels (fun as t => Exclusive t ∧ Newer as t) ?_ ⟨.start, ?_⟩
  · intro as t a u hi _ hs
    exact ⟨hi.1.move (.of_step hs), hi.2.move hi.1 (.of_step hs)⟩
  · rintro c target ⟨caller, hc, -⟩
    cases hc

/-! ## One reload at a time -/

/-- The step by which a caller leaves the loop clears the flag. -/
theorem Move.leaves (hm : Move t a u) (hc : t.Inside c) (hn : ¬ u.Inside c) :
    u.shared.synchronizationInProgress = false := by
  have stays {caller : Caller} {shared : ManagedConfigurationSynchronization} {reloads : List Reload} {e : Nat}
      (he : t.Inside e) (hi : caller.inside = true) : (put ⟨shared, t.callers, reloads⟩ e caller).Inside c := by
    rw [Inside, has_put he]
    split
    · exact hi
    · exact hc
  cases hm with
  | observe ho => exact absurd (has_append.2 (.inl hc)) hn
  | finished hd _ => rfl
  | taken hd _ => exact absurd (stays (Has.of_caller hd rfl) rfl) hn
  | completed hd => exact absurd (stays (Has.of_caller hd rfl) (inside_completed _ _ _)) hn
  | recorded hd => exact absurd (stays (Has.of_caller hd rfl) rfl) hn
  | preserved hd => rfl

theorem completed_failing {completion : Completion} (h : completion ≠ .returned true) (target : Option String)
    (force : Bool) : ∃ force' exit, completed target force completion = .failing target force' exit := by
  rcases completion with (_ | _) | _
  · exact ⟨_, _, rfl⟩
  · exact absurd rfl h
  · exact ⟨_, _, rfl⟩

theorem preserveFailedTarget_revision (s : ManagedConfigurationSynchronization) (target : Option String) (force : Bool) :
    (s.preserveFailedTarget target force).pendingRevision =
      if s.synchronizationPending then s.pendingRevision else target := by
  unfold ManagedConfigurationSynchronization.preserveFailedTarget
  cases s.synchronizationPending with
  | false => rfl
  | true => rfl

/-- In every interleaving at most one callback is in flight; the flag is set exactly while
a caller is in its servicing loop, and whoever leaves the loop clears it; and when a
callback returns false or throws, its target stays pending, or the latest revision that
was passed since the target was taken. -/
theorem one_reload_at_a_time {as : List Action} (h : Run step (fun _ _ => True) start as t) :
    (∀ c d, t.Has (fun caller => caller.reloading = true) c → t.Has (fun caller => caller.reloading = true) d → c = d) ∧
    (t.shared.synchronizationInProgress = true ↔ ∃ c, t.Inside c) ∧
    (∀ a u c, t.step a = some u → t.Inside c → ¬ u.Inside c → u.shared.synchronizationInProgress = false) ∧
    (∀ c exit, t.callers[c]? = some (.left exit) →
      t.shared.synchronizationInProgress = false ∨ ∃ d, d ≠ c ∧ t.Inside d) ∧
    (∀ c target force reload completion u, t.callers[c]? = some (.awaiting target force reload) →
      completion ≠ .returned true → t.step (.complete c completion) = some u →
      ∃ force' exit, u.callers[c]? = some (.failing target force' exit)) ∧
    (∀ c target force exit u, t.callers[c]? = some (.failing target force exit) → t.step (.preserve c) = some u →
      u.shared.synchronizationPending = true ∧
      (u.shared.pendingRevision = target ∨ latest (since c as) = some u.shared.pendingRevision)) := by
  obtain ⟨he, hn⟩ := Newer.run h
  refine ⟨?_, he.flag, ?_, ?_, ?_, ?_⟩
  · intro c d hc hd
    exact he.only c d (hc.mono (fun _ => Caller.inside_of_reloading)) (hd.mono (fun _ => Caller.inside_of_reloading))
  · intro a u c hs hc hleft
    exact (Move.of_step hs).leaves hc hleft
  · intro c exit hc
    cases hflag : t.shared.synchronizationInProgress with
    | false => exact .inl rfl
    | true =>
      obtain ⟨d, hd⟩ := he.flag.1 hflag
      refine .inr ⟨d, ?_, hd⟩
      rintro rfl
      cases hd.of_eq hc
  · intro c target force reload completion u hc hfailed hs
    simp only [step, hc, Option.some.injEq] at hs
    subst hs
    obtain ⟨force', exit, hcompleted⟩ := completed_failing hfailed target force
    have hlt : c < t.callers.length := (List.getElem?_eq_some_iff.1 hc).1
    exact ⟨force', exit, by rw [put, List.getElem?_set_self hlt, hcompleted]⟩
  · intro c target force exit u hc hs
    simp only [step, hc, Option.some.injEq] at hs
    subst hs
    refine ⟨preserveFailedTarget_pending _ _ _, ?_⟩
    simp only [put, preserveFailedTarget_revision]
    split
    · rename_i hp
      exact .inr (hn c target (Has.of_caller hc rfl) hp)
    · exact .inl rfl

/-- A second revision is passed while the reload for the first one is in flight, and the
reload then throws. -/
def outrun : Option Coordinator :=
  runList step (fun _ _ => True) start
    [.observe (some "1") false, .observe (some "2") false, .take 1, .observe (some "3") false, .complete 1 .threw]

theorem outrun_isSome : outrun.isSome := by decide

theorem failed_reload_leaves_newer_request : ∃ t ∈ outrun, ∃ u ∈ t.step (.preserve 1),
    t.callers[1]? = some (.failing (some "2") false .threw) ∧ u.shared.pendingRevision = some "3" ∧
    u.shared.synchronizationPending = true ∧ u.shared.synchronizationInProgress = false := by
  have hrun := Run.of_isSome outrun_isSome
  refine ⟨_, Option.get_mem outrun_isSome, _, rfl, rfl, rfl, ?_, ?_⟩
  · exact ((one_reload_at_a_time hrun).2.2.2.2.2 1 _ _ _ _ rfl rfl).1
  · refine (one_reload_at_a_time hrun).2.2.1 (.preserve 1) _ 1 rfl ⟨_, rfl, rfl⟩ ?_
    rintro ⟨caller, hc, hi⟩
    cases hc
    cases hi

end Coordinator

end ResticPal.UI
