import ResticPal.Runtime.References
import ResticPal.System.Host
/-!
# References through crashes

- `Host.references_stay_stored`: every reference in `config.toml` keeps its
  secret, through requests, enrollments, crashes and restarts, as long as no
  step takes a reference out of use that has another use.

The three handlers that remove secrets each look at their own references only:
an unenrollment does not ask whether a repository credential has the same
reference as the token it removes.
-/

open Lib

namespace ResticPal

/-- `config.toml` holds the local configuration in force, or that one names no secrets. -/
def ServiceRuntime.Tied (runtime : ServiceRuntime) : Prop :=
  ∃ store, runtime.config_store = some store ∧
    (store.file = .contents runtime.local_config ∨ runtime.local_config.references = [])

namespace ServiceRuntime.Tied

variable {ext : External} {before after : ServiceRuntime}

theorem holds (h : before.Tied) (hd : before.disk.Closed) : before.disk.Holds before.local_config.references := by
  obtain ⟨store, hs, hfile | hnone⟩ := h
  · exact hd store hs _ hfile
  · rw [hnone]
    exact fun _ hr => absurd hr List.not_mem_nil

theorem of_same (h : before.Tied) (hs : SameConfig before after) : after.Tied := by
  unfold ServiceRuntime.Tied
  rw [hs.config_store, hs.local_config]
  exact h

theorem of_stored (h : before.Tied) {loc : LocalConfig} (hl : after.local_config = loc)
    (hs : after.config_store = before.stored loc) : after.Tied := by
  obtain ⟨store, hstore, -⟩ := h
  refine ⟨{ store with file := .contents loc }, ?_, .inl (congrArg StoredFile.contents hl.symm)⟩
  rw [hs, ServiceRuntime.stored, hstore]
  rfl

end ServiceRuntime.Tied

namespace System

variable {ext : External} {s u : System} {l : Label}

theorem tied_step (h : Sound s) (ht : s.runtime.Tied) (hs : step ext s l = some u) : u.runtime.Tied := by
  cases config_effect h hs with
  | same same => exact ht.of_same same
  | edited _ _ _ _ local_config _ config_store => exact ht.of_stored local_config config_store
  | unenrolled _ local_config _ _ config_store => exact ht.of_stored local_config config_store
  | enrolled _ begins committed => exact (ht.of_same begins).of_stored rfl committed.config_store
  | applied _ _ installed =>
    obtain ⟨store, hstore, hfile⟩ := ht
    exact ⟨store, installed.config_store.trans hstore, installed.local_config ▸ hfile⟩

theorem Starts.tied (h : Starts ext s) : s.runtime.Tied := by
  cases h with
  | loaded config_store credential_store state_store policy_cache load =>
    simp only [load_with_credentials_and_policy, bind_eq_ok, pure_eq_ok, mapError_eq_ok] at load
    obtain ⟨loc, hload, resolved, -, rfl⟩ := load
    refine ⟨config_store, rfl, ?_⟩
    rcases LocalConfigStore.load_cases hload with hfile | ⟨-, rfl⟩
    · exact .inl hfile
    · exact .inr rfl
  | configurationError config_store => exact ⟨config_store, rfl, .inr rfl⟩

/-- What an accepted step takes out of use has no other use in the local configuration. -/
def RetiresOwn (ext : External) (s : System) : Label → Prop
  | .request command elevated io =>
    (s.runtime.handle_request ext command elevated io).2.isAccepted = true → s.runtime.RetiresOwn io command
  | .finishEnroll io => (finish_enrollment ext.parse_url s.runtime io).2.isAccepted = true →
    ∀ pending ∈ io.enrollment, s.runtime.EnrollsOwn pending
  | _ => True

/-- A step leaves no reference without its secret, wherever it is cut. -/
theorem journal_safe (ht : s.runtime.Tied) (hd : s.runtime.disk.Closed) (hl : s.RetiresOwn ext l) :
    Safe Disk.write Disk.Closed s.runtime.disk (s.journal ext l) := by
  have hm := ht.holds hd
  cases l with
  | request command elevated io => exact request_journal_safe hd hm hl
  | finishEnroll io => exact finish_enrollment_journal_safe hd hm hl
  | applyPolicy policy expected now written =>
    simp only [journal, policy_journal]
    repeat' split
    all_goals first | exact .nil hd | exact hd.safe_of_state fun _ hw => install_journal_writes hw
  | retain executable io now written =>
    simp only [journal]
    split
    · exact state_journal_safe hd
    · exact .nil hd
  | finishBackup now written =>
    simp only [journal]
    split
    · unfold finish_backup_journal
      split
      · exact state_journal_safe hd
      · exact .nil hd
    · exact .nil hd
  | finishRepository operation outcome now written =>
    simp only [journal, finish_repository_journal]
    repeat' split
    all_goals first | exact .nil hd | exact state_journal_safe hd
  | _ => exact .nil hd

end System

namespace Host

/-- An accepted step of the running service takes nothing out of use that has another
use, and nobody edits `config.toml` while the service is down. -/
def RetiresOwn (ext : External) (h : Host) : HostLabel → Prop
  | .run (.serve l) | .crash (.serve l) _ => match h.machine with
    | .up service => service.system.RetiresOwn ext l
    | .down _ => True
  | .edit _ => False
  | _ => True

/-- What is known of the computer's files. -/
def Kept (h : Host) : Prop :=
  match h.machine with
  | .up service => service.system.Sound ∧ service.system.runtime.Tied ∧ service.disk.Closed
  | .down disk => disk.Closed

variable {ext : External} {h g : Host} {l : HostLabel}

theorem service_journal_safe {service : Service} {l : ServiceLabel} (ht : service.system.runtime.Tied)
    (hd : service.disk.Closed) (hl : ∀ label, l = .serve label → service.system.RetiresOwn ext label) :
    Safe Disk.write Disk.Closed service.disk (service.journal ext l) := by
  unfold Service.journal
  cases hlabel : service.system_label l with
  | none => exact .nil hd
  | some label =>
    refine System.journal_safe ht hd ?_
    cases Service.system_label_makes hlabel with
    | served => exact hl label rfl
    | refused | finished => trivial

theorem service_step {service after : Service} {l : ServiceLabel} (hs : service.system.Sound)
    (ht : service.system.runtime.Tied) (h : Service.step ext service l = some after) :
    after.system.Sound ∧ after.system.runtime.Tied := by
  unfold Service.step at h
  split at h
  · obtain ⟨system, hstep, rfl⟩ := Option.map_eq_some_iff.1 h
    rw [Service.after_system]
    exact ⟨hs.step hstep, System.tied_step hs ht hstep⟩
  · rw [Service.worker_step_system h]
    exact ⟨hs, ht⟩

theorem Kept.step (hk : h.Kept) (hl : h.RetiresOwn ext l) (hs : Host.step ext h l = some g) : g.Kept := by
  obtain ⟨machine, probes⟩ := h
  cases machine with
  | up service =>
    obtain ⟨hsound, htied, hclosed⟩ : service.system.Sound ∧ service.system.runtime.Tied ∧ service.disk.Closed := hk
    cases l with
    | run l =>
      obtain ⟨after, hstep, rfl⟩ := Option.map_eq_some_iff.1 hs
      obtain ⟨hsound', htied'⟩ := service_step hsound htied hstep
      refine ⟨hsound', htied', ?_⟩
      rw [Service.step_replays hstep]
      exact (service_journal_safe htied hclosed fun label heq => by subst heq; exact hl).whole
    | crash l writes =>
      simp only [Host.step] at hs
      split at hs
      · cases hs
        exact (service_journal_safe htied hclosed fun label heq => by subst heq; exact hl).take writes
      · cases hs
    | stop =>
      cases hs
      exact hclosed
    | _ => cases hs
  | down disk =>
    have hclosed : disk.Closed := hk
    cases l with
    | edit file => cases hl
    | start policy now =>
      obtain ⟨system, hstart, rfl⟩ := Option.map_eq_some_iff.1 hs
      obtain ⟨hstarts, hdisk⟩ := Disk.start_starts hstart
      refine ⟨hstarts.sound, hstarts.tied, ?_⟩
      rwa [Service.disk, hdisk]
    | _ => cases hs

/-- On a computer whose `config.toml` names stored secrets only, it does so in
every state that steps, crashes inside steps and restarts lead to, if each
accepted step takes only references out of use that have no other use. -/
theorem references_stay_stored {disk : Disk} {ls : List HostLabel} (h₀ : disk.Closed)
    (hrun : Run (Host.step ext) (RetiresOwn ext) ⟨.down disk, []⟩ ls h) : h.machine.disk.Closed := by
  have hinitial : Kept ⟨.down disk, []⟩ := h₀
  have hk : h.Kept := hrun.inv Kept (fun _ _ _ hk hl hs => hk.step hl hs) hinitial
  obtain ⟨machine, probes⟩ := h
  cases machine with
  | up service => exact hk.2.2
  | down disk => exact hk

namespace SharedReference

open System.OfficeServer (external)

/-- An enrolled device, with the references of its key and of its repository password. -/
def loc (key_ref password_ref : String) : LocalConfig where
  repository := { url := some "D:\\home", secret_refs := some ((∅ : SecretRefs).insert .ResticPassword password_ref) }
  management := {
    mode := .SignedManifest
    manifest_url := some "https://files.example.test/resticpal.json"
    signing_public_key := some "key"
    enrollment_key_ref := some key_ref }

def store : CredentialStore :=
  ((∅ : CredentialStore).insert "management-key-1" (.contents [1])).insert "restic-password-1" (.contents [2])

def disk (key_ref password_ref : String) : Disk :=
  ⟨some ⟨none, .contents (loc key_ref password_ref)⟩, some .missing, .missing, some store⟩

theorem disk_closed {key_ref password_ref : String} (hk : store.get? key_ref ≠ none)
    (hp : store.get? password_ref ≠ none) : (disk key_ref password_ref).Closed := by
  intro config_store hc loc hl reference hr
  cases hc
  cases hl
  refine ⟨store, rfl, ?_⟩
  rcases List.mem_cons.1 hr with rfl | hr
  · exact hp
  · obtain rfl := List.mem_singleton.1 hr
    exact hk

def unenroll : ServiceLabel := .serve (.request .Unenroll true (.quiet .UNIX_EPOCH))

def started (key_ref password_ref : String) : Option Host :=
  Host.step external ⟨.down (disk key_ref password_ref), []⟩ (.start none .UNIX_EPOCH)

theorem started_isSome : (started "management-key-1" "restic-password-1").isSome := by decide

def host : Host := (started "management-key-1" "restic-password-1").get started_isSome

/-- Power is lost after the key has been removed. -/
theorem crash_isSome : (Host.step external host (.crash unenroll 3)).isSome := by decide

theorem host_retiresOwn : host.RetiresOwn external (.crash unenroll 3) := by
  have howned : ∀ reference ∈ ["management-key-1"], reference ∉ ["restic-password-1"] := by decide
  exact fun _ _ => howned

/-- With a reference of its own, the key can go. -/
theorem own_key_is_removed : ∃ h ∈ Host.step external host (.crash unenroll 3),
    h.machine.disk.credential_store.map (·.get? "management-key-1") = some none ∧ h.machine.disk.Closed := by
  refine ⟨_, Option.get_mem crash_isSome, by decide, ?_⟩
  have hstart : Run (Host.step external) (RetiresOwn external) ⟨.down (disk "management-key-1" "restic-password-1"), []⟩
      ([] ++ [.start none .UNIX_EPOCH]) host := .snoc .nil trivial (Option.some_get started_isSome).symm
  exact references_stay_stored (disk_closed (by decide) (by decide))
    (.snoc hstart host_retiresOwn (Option.some_get crash_isSome).symm)

def labels : List HostLabel := [.start none .UNIX_EPOCH, .run unenroll]

def returned : Option Host := runList (Host.step external) (fun _ _ => True)
  ⟨.down (disk "restic-password-1" "restic-password-1"), []⟩ labels

theorem returned_isSome : returned.isSome := by decide

/-- A key under the reference of the password takes the password with it. -/
theorem shared_password_is_removed : ∃ h,
    (disk "restic-password-1" "restic-password-1").Closed ∧
    Run (Host.step external) (fun _ _ => True) ⟨.down (disk "restic-password-1" "restic-password-1"), []⟩ labels h ∧
    h.machine.disk.config_store = some ⟨none, .contents { loc "restic-password-1" "restic-password-1" with
      management := {} }⟩ ∧
    h.machine.disk.credential_store.map (·.get? "restic-password-1") = some none ∧ ¬h.machine.disk.Closed := by
  refine ⟨returned.get returned_isSome, disk_closed (by decide) (by decide), .of_isSome returned_isSome, by decide,
    by decide, fun hclosed => ?_⟩
  obtain ⟨store, hs, hin⟩ := hclosed ⟨none, .contents { loc "restic-password-1" "restic-password-1" with
    management := {} }⟩ (by decide) _ rfl "restic-password-1" (by decide)
  have hgone : (returned.get returned_isSome).machine.disk.credential_store.map
    (BTreeMap.get? · "restic-password-1") = some none := by decide
  rw [show _ = some store from hs] at hgone
  exact hin (Option.some.inj hgone)

end SharedReference

end Host

end ResticPal
