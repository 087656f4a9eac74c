import ResticPal.Runtime.Journal
/-!
# Credential references

`config.toml` names secrets by the references they are stored under. A request
stores new secrets before it names them and removes old ones after, so the
question at every write is whether the file still names something that is gone.

- `request_journal_safe`, `finish_enrollment_journal_safe`: no write of a
  handler leaves such a name, where what the handler retires has no other use.
-/

open Lib

namespace ResticPal

def LocalManagementConfig.references (management : LocalManagementConfig) : List String :=
  management.status_token_ref.toList ++ management.enrollment_key_ref.toList

def LocalConfig.secret_refs (loc : LocalConfig) : SecretRefs := loc.repository.secret_refs.getD ∅

/-- All references in a local configuration. -/
def LocalConfig.references (loc : LocalConfig) : List String := loc.secret_refs.values ++ loc.management.references

/-- The references of some of the credentials. -/
def SecretRefs.select (refs : SecretRefs) (chosen : SecretEnvironmentVariable → Bool) : List String :=
  (refs.entries.filter (fun e => chosen e.1)).map (·.2)

theorem SecretRefs.mem_select {refs : SecretRefs} {chosen : SecretEnvironmentVariable → Bool} {reference : String} :
    reference ∈ SecretRefs.select refs chosen ↔ ∃ v, chosen v = true ∧ refs.get? v = some reference := by
  simp only [SecretRefs.select, BTreeMap.get?, BTreeMap.lookupEntry_some refs.sorted, List.mem_map, List.mem_filter,
    Prod.exists, and_comm, exists_eq_left]

/-- The secrets are in the credential store. -/
def Disk.Holds (disk : Disk) (references : List String) : Prop :=
  ∀ reference ∈ references, ∃ store ∈ disk.credential_store, BTreeMap.get? store reference ≠ none

/-- Every reference in `config.toml` is in the credential store. -/
def Disk.Closed (disk : Disk) : Prop :=
  ∀ config_store ∈ disk.config_store, ∀ loc, config_store.file = .contents loc → disk.Holds loc.references

/-! ## Writes -/

section Writes

variable {disk : Disk} {store after : CredentialStore}

theorem holds_credentials {references : List String} : (disk.write (.credentials store)).Holds references ↔
    ∀ reference ∈ references, disk.credential_store.isSome ∧ store.get? reference ≠ none := by
  unfold Disk.Holds Disk.write
  cases disk.credential_store <;> simp

theorem Disk.Holds.grow {references : List String} (h : (disk.write (.credentials store)).Holds references)
    (hg : ∀ k, store.get? k ≠ none → after.get? k ≠ none) : (disk.write (.credentials after)).Holds references :=
  holds_credentials.2 fun reference hr => (holds_credentials.1 h reference hr).imp_right (hg reference)

theorem Disk.Closed.grow (h : (disk.write (.credentials store)).Closed)
    (hg : ∀ k, store.get? k ≠ none → after.get? k ≠ none) : (disk.write (.credentials after)).Closed :=
  fun config_store hc loc hl => (h config_store hc loc hl).grow hg

/-- A configuration whose secrets are all stored can be written. -/
theorem Disk.Holds.write_config {candidate : LocalConfig} (h : disk.Holds candidate.references) :
    (disk.write (.config candidate)).Closed := by
  intro config_store hc loc hl
  obtain ⟨old, -, rfl⟩ := Option.map_eq_some_iff.1 hc
  cases hl
  exact h

theorem PutAll.grow {io : Nat → PutNewIo} {references : List String} (h : CredentialStore.PutAll io store after references)
    (k : String) (hk : store.get? k ≠ none) : after.get? k ≠ none := by
  rw [h.kept k hk]
  exact hk

theorem put_all_safe {io : Nat → PutNewIo} {i : Nat} {secrets : List (String × Text.Bytes)}
    (h : (disk.write (.credentials store)).Closed) : Safe Disk.write Disk.Closed (disk.write (.credentials store))
      (CredentialStore.put_all_journal io i store secrets) := by
  induction secrets generalizing i store with
  | nil => exact .nil h
  | cons entry rest ih =>
    obtain ⟨stem, secret⟩ := entry
    have hgrow : ∀ k, store.get? k ≠ none → BTreeMap.get? (CredentialStore.put_new store stem secret (io i)).1 k ≠ none := by
      intro k hk
      have hcases := CredentialStore.put_new_cases store stem secret (io i)
      generalize CredentialStore.put_new store stem secret (io i) = written at hcases ⊢
      cases hcases with
      | failed e => exact hk
      | unprotected e reference free _ | stored reference free _ =>
        rw [BTreeMap.get?_insert]
        split
        · simp
        · exact hk
    have hafter := h.grow hgrow
    unfold CredentialStore.put_all_journal
    generalize CredentialStore.put_new store stem secret (io i) = written at hafter ⊢
    obtain ⟨after, e | reference⟩ := written
    · refine .cons h (.nil ?_)
      rwa [write_credentials_twice]
    · refine .cons h ?_
      rw [write_credentials_twice]
      exact ih hafter

/-- No reference in `config.toml` is removed. -/
def Disk.Spares (disk : Disk) (references : List String) : Prop :=
  ∀ config_store ∈ disk.config_store, ∀ loc, config_store.file = .contents loc →
    ∀ reference ∈ references, reference ∉ loc.references

theorem remove_all_safe {removed : String → Bool} {references : List String}
    (h : (disk.write (.credentials store)).Closed) (hr : disk.Spares references) :
    Safe Disk.write Disk.Closed (disk.write (.credentials store))
      (CredentialStore.remove_all_journal removed store references) := by
  induction references generalizing store with
  | nil => exact .nil h
  | cons reference references ih =>
    refine .cons h ?_
    rw [write_credentials_twice]
    refine ih ?_ fun config_store hc loc hl r hm => hr config_store hc loc hl r (List.mem_cons_of_mem _ hm)
    intro config_store hc loc hl
    refine holds_credentials.2 fun r hm => ?_
    obtain ⟨hsome, hin⟩ := holds_credentials.1 (h config_store hc loc hl) r hm
    refine ⟨hsome, ?_⟩
    have hne : r ∉ [reference] := by
      intro hmem
      obtain rfl := List.mem_singleton.1 hmem
      exact hr config_store hc loc hl r List.mem_cons_self hm
    rw [CredentialStore.get?_remove_all, if_neg fun hc => hne hc.1]
    exact hin

/-- Writes of other files change nothing about references. -/
theorem Disk.Closed.safe_of_state {journal : List DiskWrite} (h : disk.Closed)
    (hj : ∀ w ∈ journal, ∃ snapshot, w = .state snapshot) : Safe Disk.write Disk.Closed disk journal :=
  .of_forall h fun w hw disk hd => by
    obtain ⟨snapshot, rfl⟩ := hj w hw
    exact hd

end Writes

/-! ## Editing references -/

section EditRefs

variable {updates : List RepositorySecretUpdate} {references : List String} {v : SecretEnvironmentVariable}

theorem edit_refs_remove (refs : SecretRefs) (u : SecretEnvironmentVariable) :
    edit_refs refs (.Remove u :: updates) references = edit_refs (refs.erase u) updates references := by
  simp [edit_refs]

theorem edit_refs_of_not_mem (refs : SecretRefs) (hv : v ∉ updates.map (·.target)) :
    (edit_refs refs updates references).get? v = refs.get? v := by
  induction updates generalizing refs references with
  | nil => cases references <;> rfl
  | cons update updates ih =>
    simp only [List.map_cons, List.mem_cons, not_or] at hv
    cases update with
    | Set u value =>
      cases references with
      | nil => rfl
      | cons reference references =>
        rw [edit_refs, ih _ hv.2, BTreeMap.get?_insert]
        exact if_neg hv.1
    | Remove u =>
      rw [edit_refs_remove, ih _ hv.2, BTreeMap.get?_erase]
      exact if_neg hv.1

/-- What a request enters for a credential does not depend on what was there. -/
theorem edit_refs_of_mem (refs refs' : SecretRefs) (hl : references.length = (stored_secrets updates).length)
    (hv : v ∈ updates.map (·.target)) :
    (edit_refs refs updates references).get? v = (edit_refs refs' updates references).get? v := by
  induction updates generalizing refs refs' references with
  | nil => cases hv
  | cons update updates ih =>
    have hrest (a b : SecretRefs) (references : List String) (hl : references.length = (stored_secrets updates).length)
        (hab : a.get? v = b.get? v) : (edit_refs a updates references).get? v = (edit_refs b updates references).get? v := by
      by_cases hm : v ∈ updates.map (·.target)
      · exact ih a b hl hm
      · rw [edit_refs_of_not_mem a hm, edit_refs_of_not_mem b hm, hab]
    cases update with
    | Set u value =>
      cases references with
      | nil => cases hl
      | cons reference references =>
        have hl : references.length = (stored_secrets updates).length := Nat.succ.inj hl
        rw [edit_refs, edit_refs]
        by_cases hu : v = u
        · exact hrest _ _ references hl (by simp [hu])
        · exact ih _ _ hl ((List.mem_cons.1 hv).resolve_left hu)
    | Remove u =>
      rw [edit_refs_remove, edit_refs_remove]
      by_cases hu : v = u
      · exact hrest _ _ references hl (by simp [hu])
      · exact ih _ _ hl ((List.mem_cons.1 hv).resolve_left hu)

theorem edit_refs_get? {refs : SecretRefs} {reference : String}
    (h : (edit_refs refs updates references).get? v = some reference) :
    refs.get? v = some reference ∨ reference ∈ references := by
  induction updates generalizing refs references with
  | nil => cases references <;> exact .inl h
  | cons update updates ih =>
    cases update with
    | Set u value =>
      cases references with
      | nil => exact .inl h
      | cons new references =>
        rw [edit_refs] at h
        rcases ih h with hget | hmem
        · rw [BTreeMap.get?_insert] at hget
          split at hget
          · exact .inr (Option.some.inj hget ▸ List.mem_cons_self)
          · exact .inl hget
        · exact .inr (List.mem_cons_of_mem _ hmem)
    | Remove u =>
      rw [edit_refs_remove] at h
      rcases ih h with hget | hmem
      · rw [BTreeMap.get?_erase] at hget
        split at hget
        · cases hget
        · exact .inl hget
      · exact .inr hmem

/-- Edited references are new, or they were there under a credential that is not edited. -/
theorem edit_refs_cases {refs : SecretRefs} {reference : String} (hl : references.length = (stored_secrets updates).length)
    (h : (edit_refs refs updates references).get? v = some reference) :
    (v ∈ updates.map (·.target) ∧ reference ∈ references) ∨
      v ∉ updates.map (·.target) ∧ refs.get? v = some reference := by
  by_cases hv : v ∈ updates.map (·.target)
  · rw [edit_refs_of_mem refs ∅ hl hv] at h
    exact .inl ⟨hv, (edit_refs_get? h).resolve_left (by simp)⟩
  · rw [edit_refs_of_not_mem refs hv] at h
    exact .inr ⟨hv, h⟩

end EditRefs

/-! ## The handlers -/

/-- What an update of the repository takes out of use has no other use in the
local configuration, or stays in effect for another credential. -/
def ServiceRuntime.UpdatesOwn (runtime : ServiceRuntime) (updates : List RepositorySecretUpdate) : Prop :=
  let changed (v : SecretEnvironmentVariable) : Bool := decide (v ∈ updates.map (·.target))
  let loc := runtime.local_config
  let effective := runtime.config.repository.secret_refs
  ∀ reference ∈ SecretRefs.select effective changed,
    reference ∈ SecretRefs.select loc.secret_refs (!changed ·) ++ loc.management.references →
    reference ∈ SecretRefs.select effective (!changed ·)

section Handlers

variable {ext : External} {runtime : ServiceRuntime} {elevated : Bool} {io : RequestIo}

theorem check_repository_edit_secrets {display_name url : Option String} {mode : Option RepositoryMode}
    {options : Option Options} {updates : List RepositorySecretUpdate} {candidate : Candidate}
    (h : check_repository_edit runtime display_name url mode options updates elevated io.now = .ok candidate) :
    candidate.loc.secret_refs = runtime.local_config.secret_refs ∧
      candidate.loc.management = runtime.local_config.management ∧
      candidate.effective.repository.secret_refs = runtime.config.repository.secret_refs ∧
      (updates ≠ [] → runtime.credential_store.isSome) := by
  simp only [check_repository_edit, check_bind_eq_ok, rejectIf_eq_ok, mapError_eq_ok, pure_eq_ok] at h
  obtain ⟨-, -, -, -, -, hstore, -, -, -, rfl⟩ := h
  refine ⟨rfl, rfl, rfl, fun hne => ?_⟩
  cases hs : runtime.credential_store with
  | some _ => rfl
  | none => simp [hs, hne] at hstore

/-- New references are in no configuration on disk. -/
theorem spares_created (hd : runtime.disk.Closed) {secrets : Nat → PutNewIo} {after : CredentialStore}
    {references : List String} (hput : CredentialStore.PutAll secrets (runtime.credential_store.getD ∅) after references) :
    runtime.disk.Spares references := by
  intro config_store hc loc hl reference hr hm
  obtain ⟨store, hs, hin⟩ := hd config_store hc loc hl reference hm
  have hfresh := hput.fresh reference hr
  rw [show runtime.credential_store = some store from hs] at hfresh
  exact hin hfresh

theorem edit_secrets_refs (candidate : Candidate) (updates : List RepositorySecretUpdate) (references : List String) :
    (edit_secrets candidate updates references).loc.secret_refs = edit_refs candidate.loc.secret_refs updates references ∧
      (edit_secrets candidate updates references).effective.repository.secret_refs =
        edit_refs candidate.effective.repository.secret_refs updates references ∧
      (edit_secrets candidate updates references).loc.management = candidate.loc.management := by
  unfold edit_secrets
  split
  · rename_i hempty
    obtain rfl := List.isEmpty_iff.1 hempty
    cases references <;> exact ⟨rfl, rfl, rfl⟩
  · exact ⟨rfl, rfl, rfl⟩

/-- An edited configuration names secrets that were there, and new ones. -/
theorem edited_holds {candidate : Candidate} {updates : List RepositorySecretUpdate} {references : List String}
    {secrets : Nat → PutNewIo} {after : CredentialStore}
    (hm : runtime.disk.Holds runtime.local_config.references)
    (hl : candidate.loc.secret_refs = runtime.local_config.secret_refs)
    (hmanagement : candidate.loc.management = runtime.local_config.management)
    (hput : CredentialStore.PutAll secrets (runtime.credential_store.getD ∅) after references)
    (hsome : references ≠ [] → runtime.credential_store.isSome)
    (hlength : references.length = (stored_secrets updates).length) :
    (runtime.disk.write (.credentials after)).Holds (edit_secrets candidate updates references).loc.references := by
  obtain ⟨hrefs, -, hm'⟩ := edit_secrets_refs candidate updates references
  have hold : (runtime.disk.write (.credentials after)).Holds runtime.local_config.references := by
    rw [← disk_credentials runtime] at hm
    exact hm.grow (PutAll.grow hput)
  intro reference hr
  rw [LocalConfig.references, hrefs, hl, hm', hmanagement, List.mem_append] at hr
  rcases hr with hr | hr
  · obtain ⟨v, hv⟩ := BTreeMap.mem_values.1 hr
    rcases edit_refs_cases hlength hv with ⟨-, hnew⟩ | ⟨-, hget⟩
    · exact holds_credentials.2 (fun r hr => ⟨hsome (List.ne_nil_of_mem hr), hput.stored r hr⟩) reference hnew
    · exact hold reference (List.mem_append_left _ (BTreeMap.mem_values.2 ⟨v, hget⟩))
  · exact hold reference (List.mem_append_right _ hr)

/-- What an update retires is named nowhere in the edited configuration. -/
theorem edited_spares {candidate : Candidate} {updates : List RepositorySecretUpdate} {references : List String}
    (hl : candidate.loc.secret_refs = runtime.local_config.secret_refs)
    (hmanagement : candidate.loc.management = runtime.local_config.management)
    (he : candidate.effective.repository.secret_refs = runtime.config.repository.secret_refs)
    (hlength : references.length = (stored_secrets updates).length) (hu : runtime.UpdatesOwn updates) {reference : String}
    (hr : reference ∈ retired_refs runtime.config.repository.secret_refs updates
      (edit_secrets candidate updates references).effective.repository.secret_refs) :
    reference ∉ (edit_secrets candidate updates references).loc.references := by
  obtain ⟨hrefs, heffective, hm⟩ := edit_secrets_refs candidate updates references
  simp only [retired_refs, List.mem_filter, List.mem_filterMap, Bool.not_eq_true', List.contains_eq_mem,
    decide_eq_false_iff_not, heffective, he, BTreeMap.mem_values, not_exists] at hr
  obtain ⟨⟨update, hupdate, hget⟩, hgone⟩ := hr
  have hselected : reference ∈ SecretRefs.select runtime.config.repository.secret_refs
      (fun v => decide (v ∈ updates.map (·.target))) :=
    SecretRefs.mem_select.2 ⟨update.target, by simpa using ⟨update, hupdate, rfl⟩, hget⟩
  have hshared (hs : reference ∈ SecretRefs.select runtime.local_config.secret_refs
      (fun v => !decide (v ∈ updates.map (·.target))) ++ runtime.local_config.management.references) : False := by
    obtain ⟨w, hw, hkept⟩ := SecretRefs.mem_select.1 (hu reference hselected hs)
    refine hgone w ?_
    rw [edit_refs_of_not_mem _ (by simpa using hw)]
    exact hkept
  intro hmem
  rw [LocalConfig.references, hrefs, hl, hm, hmanagement, List.mem_append] at hmem
  rcases hmem with hmem | hmem
  · obtain ⟨v, hv⟩ := BTreeMap.mem_values.1 hmem
    by_cases hv' : v ∈ updates.map (·.target)
    · exact hgone v (edit_refs_of_mem _ _ hlength hv' ▸ hv)
    · rw [edit_refs_of_not_mem _ hv'] at hv
      exact hshared (List.mem_append_left _ (SecretRefs.mem_select.2 ⟨v, by simpa using hv', hv⟩))
  · exact hshared (List.mem_append_right _ hmem)

/-- Only the new configuration matters once it is written. -/
theorem Disk.Spares.written {disk : Disk} {candidate : LocalConfig} {references : List String}
    (h : ∀ reference ∈ references, reference ∉ candidate.references) :
    (disk.write (.config candidate)).Spares references := by
  intro config_store hc loc hl
  obtain ⟨old, -, rfl⟩ := Option.map_eq_some_iff.1 hc
  cases hl
  exact h

theorem commit_repository_journal_safe {candidate : Candidate} {connection_changed : Bool}
    {updates : List RepositorySecretUpdate} (hd : runtime.disk.Closed)
    (hm : runtime.disk.Holds runtime.local_config.references)
    (hl : candidate.loc.secret_refs = runtime.local_config.secret_refs)
    (hmanagement : candidate.loc.management = runtime.local_config.management)
    (he : candidate.effective.repository.secret_refs = runtime.config.repository.secret_refs)
    (hsome : updates ≠ [] → runtime.credential_store.isSome)
    (hu : (commit_repository runtime candidate connection_changed updates io).2.isAccepted = true →
      runtime.UpdatesOwn updates) : Safe Disk.write Disk.Closed runtime.disk
        (commit_repository_journal runtime candidate connection_changed updates io) := by
  have hput := CredentialStore.put_all_spec io.secrets 0 (runtime.credential_store.getD ∅) (stored_secrets updates)
  have hlength := @CredentialStore.put_all_length io.secrets 0 (runtime.credential_store.getD ∅) (stored_secrets updates)
  have hreplay := put_all_replays io.secrets 0 (runtime.credential_store.getD ∅) (stored_secrets updates) runtime.disk
  have hclosed : (runtime.disk.write (.credentials (runtime.credential_store.getD ∅))).Closed := by
    rwa [disk_credentials]
  have hputs := @put_all_safe _ _ io.secrets 0 (stored_secrets updates) hclosed
  rw [disk_credentials] at hreplay hputs
  have hstored := hclosed.grow (PutAll.grow hput)
  have hspares := spares_created hd hput
  unfold commit_repository at hu
  unfold commit_repository_journal
  refine hputs.append ?_
  rw [hreplay]
  generalize CredentialStore.put_all io.secrets 0 (runtime.credential_store.getD ∅) (stored_secrets updates) = put
    at hput hlength hstored hspares hu
  have habandon (disk : Disk) := @remove_all_safe disk put.1 io.removed put.2.1
  -- `hu` follows the branches of the journal: an answer other than the last one retires nothing.
  revert hu
  cases hall : put.2.2 with
  | false => exact fun _ => habandon runtime.disk hstored hspares
  | true =>
    simp only [hall, Bool.not_true, Bool.false_eq_true, if_false]
    cases (edit_secrets candidate updates put.2.1).effective.validate with
    | error e => exact fun _ => habandon runtime.disk hstored hspares
    | ok u =>
      have hlength := hlength hall
      have hsome : put.2.1 ≠ [] → runtime.credential_store.isSome := by
        intro hne
        refine hsome fun hempty => hne ?_
        rw [hempty] at hlength
        exact List.length_eq_zero_iff.1 hlength
      have hconfig := (edited_holds hm hl hmanagement hput hsome hlength).write_config
      have hremove (disk : Disk) (hdisk : ((disk.write (.config (edit_secrets candidate updates put.2.1).loc)).write
          (.credentials put.1)).Closed) (hu : runtime.UpdatesOwn updates) := @remove_all_safe _ _ io.removed _ hdisk
        (.written fun _ hr => edited_spares hl hmanagement he hlength hu hr)
      cases connection_changed with
      | false =>
        simp only [Bool.false_eq_true, if_false, List.nil_append]
        cases runtime.save_config _ io.config_written with
        | none => exact fun _ => habandon runtime.disk hstored hspares
        | some saved => exact fun hu => .cons hstored (hremove runtime.disk hconfig (hu rfl))
      | true =>
        simp only [if_true, List.cons_append, List.nil_append]
        cases runtime.save_state _ io.state_written with
        | none => exact fun _ => habandon runtime.disk hstored hspares
        | some recorded =>
          dsimp only
          cases recorded.save_config _ io.config_written with
          | none => exact fun _ => .cons hstored (habandon (runtime.disk.write (.state _)) hstored hspares)
          | some saved => exact fun hu => .cons hstored (.cons hstored (hremove (runtime.disk.write (.state _)) hconfig (hu rfl)))

/-! ### Management -/

/-- What an enrollment takes out of use has no other use in the local configuration. -/
def ServiceRuntime.EnrollsOwn (runtime : ServiceRuntime) (pending : PendingEnrollment) : Prop :=
  let delivered (v : SecretEnvironmentVariable) : Bool := decide (v ∈ pending.repository_secrets.keys)
  let loc := runtime.local_config
  ∀ reference ∈ SecretRefs.select loc.secret_refs delivered ++ loc.management.references,
    reference ∉ SecretRefs.select loc.secret_refs (!delivered ·)

theorem secret_refs_get? (loc : LocalConfig) (v : SecretEnvironmentVariable) :
    loc.secret_refs.get? v = loc.repository.secret_refs.bind (·.get? v) := by
  unfold LocalConfig.secret_refs
  cases loc.repository.secret_refs <;> rfl

theorem foldl_insert_cases {keys : List SecretEnvironmentVariable} {references : List String} {refs : SecretRefs}
    {v : SecretEnvironmentVariable} {reference : String} (hl : references.length = keys.length)
    (h : ((keys.zip references).foldl (fun refs entry => BTreeMap.insert refs entry.1 entry.2) refs).get? v =
      some reference) :
    reference ∈ references ∨ v ∉ keys ∧ refs.get? v = some reference := by
  induction keys generalizing references refs with
  | nil => exact .inr ⟨List.not_mem_nil, h⟩
  | cons key keys ih =>
    cases references with
    | nil => cases hl
    | cons new references =>
      rcases ih (Nat.succ.inj hl) h with hnew | ⟨hv, hget⟩
      · exact .inl (List.mem_cons_of_mem _ hnew)
      · rw [BTreeMap.get?_insert] at hget
        split at hget
        · exact .inl (Option.some.inj hget ▸ List.mem_cons_self)
        · rename_i hk
          exact .inr ⟨by simp [hk, hv], hget⟩

/-- An enrolled configuration names new secrets, and those the enrollment did not deliver. -/
theorem enrolled_references {pending : PendingEnrollment} {references : List String} {reference : String}
    (hl : references.length = pending.repository_secrets.keys.length + 2)
    (h : reference ∈ (enrolled_config runtime.local_config pending references).references) :
    reference ∈ references ∨ reference ∈ SecretRefs.select runtime.local_config.secret_refs
      (fun v => !decide (v ∈ pending.repository_secrets.keys)) := by
  match references, hl with
  | status_ref :: key_ref :: references, hl =>
    have hl : references.length = pending.repository_secrets.keys.length := by simpa using hl
    simp only [LocalConfig.references, LocalConfig.secret_refs, enrolled_config, LocalManagementConfig.references,
      Option.getD_some, Option.toList_some, List.mem_append, List.mem_singleton] at h
    rcases h with h | rfl | rfl
    · obtain ⟨v, hv⟩ := BTreeMap.mem_values.1 h
      rcases foldl_insert_cases hl hv with hnew | ⟨hv, hget⟩
      · exact .inl (by simp [hnew])
      · exact .inr (SecretRefs.mem_select.2 ⟨v, by simpa using hv, hget⟩)
    · exact .inl (by simp)
    · exact .inl (by simp)

theorem retired_by_enrollment_references {pending : PendingEnrollment} {new : LocalConfig} {reference : String}
    (h : reference ∈ retired_by_enrollment runtime.local_config new pending) :
    reference ∈ SecretRefs.select runtime.local_config.secret_refs
      (fun v => decide (v ∈ pending.repository_secrets.keys)) ++ runtime.local_config.management.references := by
  simp only [retired_by_enrollment, List.mem_append, List.mem_flatMap] at h
  rcases h with h | ⟨key, hkey, h⟩
  · exact List.mem_append_right _ (List.mem_append.2 h)
  · split at h
    · refine List.mem_append_left _ (SecretRefs.mem_select.2 ⟨key, by simpa using hkey, ?_⟩)
      rw [secret_refs_get?]
      exact Option.mem_toList.1 h
    · cases h

theorem install_journal_writes {resolved : ResolvedConfig} {written : Bool} {w : DiskWrite}
    (h : w ∈ install_journal runtime resolved written) : ∃ snapshot, w = .state snapshot := by
  unfold install_journal state_journal at h
  repeat' split at h
  all_goals first | exact ⟨_, List.mem_singleton.1 h⟩ | cases h

theorem install_journal_config_store (resolved : ResolvedConfig) (written : Bool) (disk : Disk) :
    (replay Disk.write disk (install_journal runtime resolved written)).config_store = disk.config_store := by
  unfold install_journal state_journal
  split
  · split <;> rfl
  · rfl

/-- The secrets of the management before are retired, and not named any more. -/
theorem enrolled_spares {pending : PendingEnrollment} {secrets : Nat → PutNewIo} {store after : CredentialStore}
    {references : List String} (hm : runtime.disk.Holds runtime.local_config.references)
    (hstore : runtime.credential_store = some store) (hput : CredentialStore.PutAll secrets store after references)
    (hl : references.length = pending.repository_secrets.keys.length + 2) (hu : runtime.EnrollsOwn pending)
    {new : LocalConfig} {reference : String} (hr : reference ∈ retired_by_enrollment runtime.local_config new pending) :
    reference ∉ (enrolled_config runtime.local_config pending references).references := by
  have hretired := retired_by_enrollment_references hr
  intro hmem
  rcases enrolled_references hl hmem with hnew | hother
  · have hold : reference ∈ runtime.local_config.references := by
      rcases List.mem_append.1 hretired with h | h
      · obtain ⟨v, -, hget⟩ := SecretRefs.mem_select.1 h
        exact List.mem_append_left _ (BTreeMap.mem_values.2 ⟨v, hget⟩)
      · exact List.mem_append_right _ h
    obtain ⟨store', hs, hin⟩ := hm reference hold
    obtain rfl : store = store' := Option.some.inj (hstore.symm.trans hs)
    exact hin (hput.fresh reference hnew)
  · exact hu reference hretired hother

theorem commit_enrollment_journal_safe {parse_url : String → Option Url} {pending : PendingEnrollment}
    (hd : runtime.disk.Closed) (hm : runtime.disk.Holds runtime.local_config.references)
    (hu : (commit_enrollment parse_url runtime pending io).2 = true → runtime.EnrollsOwn pending) :
    Safe Disk.write Disk.Closed runtime.disk (commit_enrollment_journal runtime parse_url pending io) := by
  unfold commit_enrollment_journal
  split
  · rename_i store config hstore hconfig
    simp only [commit_enrollment, hstore, hconfig] at hu
    have hdisk := disk_credentials runtime
    simp only [hstore, Option.getD_some] at hdisk
    simp only
    have hput := CredentialStore.put_all_spec io.secrets 0 store pending.secrets
    have hlength := @CredentialStore.put_all_length io.secrets 0 store pending.secrets
    have hreplay := put_all_replays io.secrets 0 store pending.secrets runtime.disk
    have hputs := @put_all_safe runtime.disk store io.secrets 0 pending.secrets (hdisk.symm ▸ hd)
    rw [hdisk] at hreplay hputs
    refine hputs.append ?_
    rw [hreplay]
    generalize CredentialStore.put_all io.secrets 0 store pending.secrets = put at hput hlength hu
    have hnew : CredentialStore.PutAll io.secrets (runtime.credential_store.getD ∅) put.1 put.2.1 := by rwa [hstore]
    have hspares := spares_created hd hnew
    have hold : (runtime.disk.write (.credentials put.1)).Holds runtime.local_config.references :=
      Disk.Holds.grow (hdisk.symm ▸ hm) (PutAll.grow hput)
    have hstored : (runtime.disk.write (.credentials put.1)).Closed :=
      Disk.Closed.grow (hdisk.symm ▸ hd) (PutAll.grow hput)
    have habandon := @remove_all_safe runtime.disk put.1 io.removed put.2.1 hstored hspares
    revert hu
    cases hall : put.2.2 with
    | false => exact fun _ => habandon
    | true =>
      simp only [Bool.not_true, Bool.false_eq_true, if_false]
      cases check_enrollment parse_url (enrolled_config runtime.local_config pending put.2.1)
        pending.initial_manifest.payload.policy with
      | none => exact fun _ => habandon
      | some resolved =>
        dsimp only
        cases runtime.save_config _ io.config_written with
        | none => exact fun _ => habandon
        | some saved =>
          intro hu
          have hlength : put.2.1.length = pending.repository_secrets.keys.length + 2 := by
            rw [hlength hall]
            simp [PendingEnrollment.secrets, BTreeMap.keys]
          have hconfig : ((runtime.disk.write (.credentials put.1)).write
              (.config (enrolled_config runtime.local_config pending put.2.1))).Closed := by
            refine Disk.Holds.write_config fun reference hr => ?_
            rcases enrolled_references hlength hr with hnew | hother
            · refine holds_credentials.2 (fun r hr => ⟨?_, hput.stored r hr⟩) reference hnew
              exact Option.isSome_of_eq_some hstore
            · obtain ⟨v, -, hget⟩ := SecretRefs.mem_select.1 hother
              exact hold reference (List.mem_append_left _ (BTreeMap.mem_values.2 ⟨v, hget⟩))
          refine .cons hstored (.cons hconfig ?_)
          generalize ManagedPolicyCache.save _ _ _ _ _ = cache
          have hinstall := @Disk.Closed.safe_of_state (((runtime.disk.write (.credentials put.1)).write
            (.config (enrolled_config runtime.local_config pending put.2.1))).write (.cache cache.1))
            (install_journal runtime resolved io.state_written) hconfig (fun _ hw => install_journal_writes hw)
          have hinstalled := hinstall.whole
          refine hinstall.append ?_
          rw [write_config_credentials, write_cache_credentials, install_journal_credentials] at hinstalled ⊢
          refine remove_all_safe hinstalled ?_
          intro config_store hc
          rw [install_journal_config_store] at hc
          have hwritten : (runtime.disk.write (.config (enrolled_config runtime.local_config pending put.2.1))).Spares
              (retired_by_enrollment runtime.local_config (enrolled_config runtime.local_config pending put.2.1) pending) :=
            .written fun _ hr => enrolled_spares hm hstore hput hlength (hu rfl) hr
          exact hwritten config_store hc
  · exact .nil hd

/-- The secrets of management have no other use in the local configuration. -/
def ServiceRuntime.LeavesOwn (runtime : ServiceRuntime) : Prop :=
  ∀ reference ∈ runtime.local_config.management.references, reference ∉ runtime.local_config.secret_refs.values

theorem unenroll_journal_safe (hd : runtime.disk.Closed) (hm : runtime.disk.Holds runtime.local_config.references)
    (hu : (runtime.unenroll elevated io).2.isAccepted = true → runtime.local_config.management.mode ≠ .Disabled →
      runtime.LeavesOwn) : Safe Disk.write Disk.Closed runtime.disk (unenroll_journal runtime elevated io) := by
  unfold unenroll_journal
  split
  · exact .nil hd
  · split
    · exact .nil hd
    · split
      · exact .nil hd
      · rename_i helevated hbusy _ written resolved hwrites
        obtain ⟨hmode, -, hwritten⟩ := unenroll_writes_eq_ok hwrites
        have haccepted : (runtime.unenroll elevated io).2.isAccepted = true := by
          rw [ServiceRuntime.unenroll, if_neg helevated, if_neg hbusy, hwrites]
          rfl
        have hu := hu haccepted hmode
        have hloc : written.local_config = unmanaged_config runtime.local_config :=
          congrArg ServiceRuntime.local_config hwritten
        have hreferences : (unmanaged_config runtime.local_config).references =
            runtime.local_config.secret_refs.values := by
          simp [LocalConfig.references, LocalConfig.secret_refs, unmanaged_config, LocalManagementConfig.references]
        have hremaining : runtime.disk.Holds (unmanaged_config runtime.local_config).references := by
          rw [hreferences]
          exact fun reference hr => hm reference (List.mem_append_left _ hr)
        have hconfig := hremaining.write_config
        rw [hloc]
        refine .cons hd (.cons hconfig ?_)
        have hdisk := congrArg (fun disk => (Disk.write disk (.config (unmanaged_config runtime.local_config))).write
          (.cache written.policy_cache)) (disk_credentials runtime)
        simp only [write_config_credentials, write_cache_credentials] at hdisk
        have hclosed : ((runtime.disk.write (.config (unmanaged_config runtime.local_config))).write
          (.cache written.policy_cache)).Closed := hconfig
        rw [← hdisk] at hclosed ⊢
        refine remove_all_safe hclosed fun config_store hc => ?_
        have hspares : (runtime.disk.write (.config (unmanaged_config runtime.local_config))).Spares
            runtime.local_config.management.references := .written fun reference hr => hreferences ▸ hu reference hr
        exact hspares config_store hc

/-! ### All of them -/

/-- What a request takes out of use has no other use in the local configuration. -/
def ServiceRuntime.RetiresOwn (runtime : ServiceRuntime) (io : RequestIo) : RequestCommand → Prop
  | .UpdateRepository _ _ _ _ updates => runtime.UpdatesOwn updates
  | .Enroll _ => ∀ pending ∈ io.enrollment, runtime.EnrollsOwn pending
  | .Unenroll => runtime.local_config.management.mode ≠ .Disabled → runtime.LeavesOwn
  | _ => True

theorem finish_enrollment_journal_safe {parse_url : String → Option Url} (hd : runtime.disk.Closed)
    (hm : runtime.disk.Holds runtime.local_config.references)
    (hu : (finish_enrollment parse_url runtime io).2.isAccepted = true →
      ∀ pending ∈ io.enrollment, runtime.EnrollsOwn pending) :
    Safe Disk.write Disk.Closed runtime.disk (finish_enrollment_journal runtime parse_url io) := by
  unfold finish_enrollment_journal
  cases he : io.enrollment with
  | none => exact .nil hd
  | some pending =>
    refine commit_enrollment_journal_safe hd hm fun hcommitted => hu ?_ pending he
    simp only [finish_enrollment, he, Option.elim, hcommitted, if_true]
    rfl

theorem config_journal_safe {candidate : LocalConfig} {written : Bool} (hd : runtime.disk.Closed)
    (hm : runtime.disk.Holds candidate.references) :
    Safe Disk.write Disk.Closed runtime.disk (config_journal candidate written) := by
  unfold config_journal
  split
  · exact .cons hd (.nil hm.write_config)
  · exact .nil hd

/-- An edit of other settings names the same secrets. -/
theorem Edited.references {edits : Edits} {candidate : Candidate} (h : Edited runtime edits candidate)
    (hs : edits .RepositorySecretRefs = none) : candidate.loc.references = runtime.local_config.references := by
  have hfield := congrArg Prod.fst (h.fields .RepositorySecretRefs)
  rw [hs] at hfield
  have hrefs : candidate.loc.repository.secret_refs = runtime.local_config.repository.secret_refs := hfield
  rw [LocalConfig.references, LocalConfig.references, LocalConfig.secret_refs, LocalConfig.secret_refs, hrefs, h.management]

theorem edit_journal_safe {check : Except ResponsePayload Candidate} {edits : Edits} (hd : runtime.disk.Closed)
    (hm : runtime.disk.Holds runtime.local_config.references)
    (hc : ∀ candidate, check = .ok candidate → Edited runtime edits candidate)
    (hs : edits .RepositorySecretRefs = none) :
    Safe Disk.write Disk.Closed runtime.disk (edit_journal check io) := by
  unfold edit_journal
  split
  · exact .nil hd
  · rename_i candidate
    exact config_journal_safe hd ((hc candidate rfl).references hs ▸ hm)

theorem state_journal_safe {snapshot : ServiceStateSnapshot} {written : Bool} (hd : runtime.disk.Closed) :
    Safe Disk.write Disk.Closed runtime.disk (state_journal snapshot written) := by
  unfold state_journal
  split
  · exact .cons hd (.nil hd)
  · exact .nil hd

/-- A request leaves no reference in `config.toml` without its secret, wherever it is cut. -/
theorem request_journal_safe {command : RequestCommand} (hd : runtime.disk.Closed)
    (hm : runtime.disk.Holds runtime.local_config.references)
    (hu : (runtime.handle_request ext command elevated io).2.isAccepted = true → runtime.RetiresOwn io command) :
    Safe Disk.write Disk.Closed runtime.disk (runtime.request_journal ext command elevated io) := by
  have begins {operation : RepositoryOperationKind} :
      Safe Disk.write Disk.Closed runtime.disk (begin_repository_journal runtime operation elevated io) := by
    unfold begin_repository_journal
    repeat' split
    all_goals first | exact .nil hd | exact state_journal_safe hd
  cases command with
  | Enroll bootstrap_url =>
    simp only [ServiceRuntime.request_journal, enroll_journal]
    split
    · exact .nil hd
    · split
      · exact .nil hd
      · split
        · exact .nil hd
        · rename_i helevated _ _ htext _ begun hb
          simp only [ServiceRuntime.handle_request, ServiceRuntime.enroll, helevated, htext, hb] at hu
          obtain ⟨-, rfl⟩ := begin_enrollment_eq_some hb
          exact @finish_enrollment_journal_safe
            { runtime with state := { runtime.state with management_operation_active := true } } io _ hd hm hu
  | Unenroll => exact unenroll_journal_safe hd hm hu
  | ValidateRepository | InitializeRepository => exact begins
  | UpdateRepository display_name url mode options updates =>
    simp only [ServiceRuntime.request_journal]
    split
    · exact .nil hd
    · rename_i candidate hcheck
      obtain ⟨hl, hmanagement, he, hsome⟩ := check_repository_edit_secrets hcheck
      simp only [ServiceRuntime.handle_request, ServiceRuntime.update_repository, hcheck] at hu
      exact commit_repository_journal_safe hd hm hl hmanagement he hsome hu
  | UpdateBackupSources => exact edit_journal_safe hd hm (fun _ hc => (check_sources_edit_edited hc).1) rfl
  | UpdateSchedule => exact edit_journal_safe hd hm (fun _ hc => (check_schedule_edit_edited hc).1) rfl
  | UpdateRetention => exact edit_journal_safe hd hm (fun _ hc => (check_retention_edit_edited hc).1) rfl
  | UpdateUpdateSettings automatic_install =>
    simp only [ServiceRuntime.request_journal, update_settings_journal]
    repeat' split
    all_goals first | exact .nil hd | exact config_journal_safe hd hm
  | _ => exact .nil hd

end Handlers

end ResticPal
