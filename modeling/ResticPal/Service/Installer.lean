import ResticPal.Runtime.Ipc
import ResticPal.Service.Processes
/-!
# Installing an update

`resticpal-service/src/updater.rs`: the download of an installer into the
service's own directory, its verification and its run. Others may work in that
directory between any two calls of the service; what they leave there is part of
an `UpdateIo`, and all that stops them is that a file the service holds open
cannot be changed. The calls on the installer's process are recorded.

- `launched_is_verified`: only bytes signed for this package are ever installed.
- `install_settled`: what an outcome says about the installer's process.

Times are in milliseconds.
-/

open Lib

namespace ResticPal.Updater

open Text (Bytes)

/-- The contents of `update-public-key.txt`. -/
def UPDATE_PUBLIC_KEY : String := "gOs6c4Mn39nKvOgMy5zJeDFA6+h5+qBV4y38ceXGGj4=\n"

def UPDATE_INSTALL_TIMEOUT : Nat := 30 * 60 * 1000

/-- `UpdateError`: what `validate_package` finds, and what goes wrong after it. -/
inductive Error where
  | Package (error : UpdateError)
  | InvalidPublicKey
  | LengthMismatch (expected actual : Nat)
  | UnsafeStagingDirectory
  | UnsafeStagingEntry
  | UntrustedStagingDirectory
  | StagingProtection
  | Io
  | Http
  | InstallerStart
  | InstallerExit (code : Option Int)
  | InstallerTimeout
  | UpdateDeadlineExpired
  | InstallerTermination
  deriving DecidableEq

def Error.code : Error → String
  | .Package .InvalidSignature | .InvalidPublicKey => "update_signature_invalid"
  | .Package _ => "update_metadata_invalid"
  | .LengthMismatch _ _ | .Io | .Http => "update_download_failed"
  | .UnsafeStagingDirectory | .UnsafeStagingEntry | .UntrustedStagingDirectory | .StagingProtection => "update_staging_unsafe"
  | .UpdateDeadlineExpired => "update_deadline_exceeded"
  | .InstallerStart | .InstallerExit _ => "update_installer_failed"
  | .InstallerTimeout | .InstallerTermination => "update_installer_indeterminate"

def Error.installer_state_is_indeterminate : Error → Bool
  | .InstallerTimeout | .InstallerTermination => true
  | _ => false

/-! ## Protected directories -/

/-- The attributes behind a handle. -/
structure Attributes where
  directory : Bool
  reparse_point : Bool
  deriving DecidableEq

/-- The security of a directory, compared with what it should be. -/
structure Protection where
  dacl_protected : Bool
  same_acl : Bool
  same_owner : Bool
  same_group : Bool
  deriving DecidableEq

inductive Created where
  | created
  | alreadyExists
  | failed
  deriving DecidableEq

/-- What the system answers while a directory is prepared; `none` where it fails. -/
structure DirectoryIo where
  create : Created
  opened : Bool
  attributes : Option Attributes
  /-- The owner is the system or an administrator. -/
  trusted_owner : Option Bool
  applied : Bool
  attributes_after : Option Attributes
  protection : Option Protection
  deriving DecidableEq

def validate_directory_handle (attributes : Option Attributes) : Except Error Unit :=
  match attributes with
  | none => .error .StagingProtection
  | some attributes => rejectIf (!attributes.directory || attributes.reparse_point) .UnsafeStagingDirectory

def verify (protection : Option Protection) : Except Error Unit :=
  match protection with
  | none => .error .StagingProtection
  | some protection => do
    rejectIf (!protection.dacl_protected) .UnsafeStagingDirectory
    rejectIf (!protection.same_acl) .UnsafeStagingDirectory
    rejectIf (!protection.same_owner || !protection.same_group) .UnsafeStagingDirectory

/-- A directory that someone else made is never adopted. -/
def check_owner (io : DirectoryIo) : Except Error Unit :=
  if io.create = .created then .ok ()
  else match io.trusted_owner with
    | none => .error .StagingProtection
    | some trusted => rejectIf (!trusted) .UntrustedStagingDirectory

/-- `prepare_secure_directory`, for the system and administrators. -/
def prepare_secure_directory (io : DirectoryIo) : Except Error Unit := do
  rejectIf (io.create == .failed) .StagingProtection
  rejectIf (!io.opened) .StagingProtection
  validate_directory_handle io.attributes
  check_owner io
  rejectIf (!io.applied) .StagingProtection
  validate_directory_handle io.attributes_after
  verify io.protection

/-! ## The staging directory -/

/-- What a name in the directory stands for. -/
inductive StagedEntry where
  | file (contents : Bytes)
  | directory
  /-- A reparse point, to a directory or to a file. -/
  | link (directory : Bool)
  deriving DecidableEq

abbrev Entries := String → Option StagedEntry

structure Staging where
  entries : Entries
  /-- The file the service has open for reading, and shares for reading only. -/
  held : Option String

/-- Others work in the directory. They do there what they like, but for the file that is held. -/
def Staging.meanwhile (staging : Staging) (others : Entries → Entries) : Staging :=
  { staging with entries := fun name => if staging.held = some name then staging.entries name else others staging.entries name }

def Staging.set (staging : Staging) (name : String) (entry : Option StagedEntry) : Staging :=
  { staging with entries := Function.update staging.entries name entry }

structure RemoveIo where
  metadata : Bool := true
  removed : Bool := true
  deriving DecidableEq

def remove_staging_entry_if_present (staging : Staging) (name : String) (io : RemoveIo) : Except Error Unit × Staging :=
  if !io.metadata then (.error .Io, staging)
  else match staging.entries name with
    | none => (.ok (), staging)
    | some .directory => (.error .UnsafeStagingEntry, staging)
    | some (.file _) | some (.link _) => if io.removed then (.ok (), staging.set name none) else (.error .Io, staging)

structure DownloadIo where
  /-- The server answers. -/
  called : Bool := true
  created : Bool := true
  /-- What was read of the answer, to its end or to an error. -/
  received : Bytes
  copied : Bool := true
  synced : Bool := true
  deriving DecidableEq

def download_to (package : UpdatePackage) (staging : Staging) (destination : String) (io : DownloadIo) :
    Except Error Unit × Staging :=
  if !io.called then (.error .Http, staging)
  else if !io.created || (staging.entries destination).isSome then (.error .Io, staging)
  else
    let staging := staging.set destination (some (.file io.received))
    if !io.copied || !io.synced then (.error .Io, staging)
    else if io.received.length ≠ package.length.toNat then
      (.error (.LengthMismatch package.length.toNat io.received.length), staging)
    else (.ok (), staging)

/-! ## Verification -/

def decode_signature (ext : External) (value : String) : Except Error Bytes := do
  rejectIf (Text.len value > 256 || Text.hasBreak value) (.Package .InvalidSignature)
  let signature ← (ext.base64_standard_decode value).elim (.error (.Package .InvalidSignature)) .ok
  rejectIf (signature.length != 64) (.Package .InvalidSignature)
  return signature

def verify_contents_with_public_key (ext : External) (contents : Bytes) (encoded_signature encoded_public_key : String) :
    Except Error Unit := do
  let key ← (ext.base64_standard_decode (Text.trim encoded_public_key)).elim (.error .InvalidPublicKey) .ok
  rejectIf (key.length != 32) .InvalidPublicKey
  rejectIf (!ext.verifying_key key) .InvalidPublicKey
  let signature ← decode_signature ext encoded_signature
  rejectIf (!ext.verify_strict key contents signature) (.Package .InvalidSignature)

structure OpenIo where
  opened : Bool := true
  metadata : Bool := true
  read : Bool := true
  deriving DecidableEq

/-- `VerifiedInstaller::open`: the file is held from before its bytes are read. -/
def VerifiedInstaller.open_installer (ext : External) (package : UpdatePackage) (encoded_public_key : String) (staging : Staging)
    (name : String) (io : OpenIo) : Except Error Staging :=
  match io.opened, staging.entries name with
  | false, _ | true, none | true, some .directory | true, some (.link true) => .error .Io
  | true, some (.link false) => .error (if io.metadata then .UnsafeStagingEntry else .Io)
  | true, some (.file contents) => do
    rejectIf (!io.metadata) .Io
    rejectIf (contents.length != package.length.toNat) (.LengthMismatch package.length.toNat contents.length)
    rejectIf (!io.read) .Io
    verify_contents_with_public_key ext contents package.signature encoded_public_key
    return { staging with held := some name }

/-! ## Windows Installer -/

/-- The command line: the installer and the log, by their names in the directory. -/
structure Launch where
  installer : String
  log : String
  deriving DecidableEq

/-- One turn of the loop that waits: what the process says, and the time. -/
structure InstallerPoll where
  wait : TryWait
  now : Nat
  deriving DecidableEq

structure InstallerIo where
  polls : List InstallerPoll
  killed : Bool := true
  /-- What a process that could not be killed says. -/
  last : TryWait := .Running
  /-- The blocking `wait` after a kill: it succeeds, fails or does not return. -/
  waited : Option Bool := some true
  deriving DecidableEq

/-- `child.wait()` after a kill. -/
def reap_killed (io : InstallerIo) : Option (Bool × List (JobEvent Launch)) :=
  io.waited.map fun waited => (waited, if waited then [.kill, .reap] else [.kill])

def wait_for_installer (deadline : Nat) (io : InstallerIo) : List InstallerPoll →
    Option (Except Error (Option Int) × List (JobEvent Launch))
  | [] => none
  | poll :: rest =>
    match poll.wait with
    | .Exited code => some (.ok code, [.reap])
    | .Running =>
      if poll.now < deadline then wait_for_installer deadline io rest
      else if io.killed then
        (reap_killed io).map fun (waited, trace) =>
          (.error (if waited then .InstallerTimeout else .InstallerTermination), trace)
      else match io.last with
        | .Exited code => some (.ok code, [.kill, .reap])
        | _ => some (.error .InstallerTermination, [.kill])
    | .Failed =>
      if io.killed then (reap_killed io).map fun (_, trace) => (.error .InstallerTermination, trace)
      else some (.error .InstallerTermination, [.kill])

/-- `ExitStatus::success`, or the code that asks for a restart. -/
def installed (code : Option Int) : Bool := code == some 0 || code == some 3010

structure LaunchIo where
  now : Nat
  spawned : Bool := true
  installer : InstallerIo
  deriving DecidableEq

def launch_msi (launch : Launch) (deadline : Nat) (io : LaunchIo) : Option (Except Error Unit × List (JobEvent Launch)) :=
  if deadline ≤ io.now then some (.error .UpdateDeadlineExpired, [])
  else if !io.spawned then some (.error .InstallerStart, [])
  else
    (wait_for_installer deadline io.installer io.installer.polls).map fun (ended, trace) =>
      (ended.bind fun code => if installed code then .ok () else .error (.InstallerExit code), .spawn launch :: trace)

/-! ## An update -/

structure UpdateIo where
  started : Nat
  /-- The security descriptor of the directories could be made. -/
  security : Bool := true
  data_root : DirectoryIo
  update_root : DirectoryIo
  /-- What others do in the directory before each call. -/
  others : Nat → Entries → Entries := fun _ => id
  remove_partial : RemoveIo := {}
  remove_installer : RemoveIo := {}
  download : DownloadIo
  discard_partial : RemoveIo := {}
  renamed : Bool := true
  opened : OpenIo := {}
  remove_log : RemoveIo := {}
  discard_installer : RemoveIo := {}
  launch : LaunchIo

/-- How an attempt ends: its result, its calls on the installer's process, and the directory as the attempt left it, with what it still holds. -/
structure Attempt where
  result : Except Error Unit
  trace : List (JobEvent Launch)
  staging : Staging

def installer_name (package : UpdatePackage) : String := "resticpal-" ++ package.version ++ "-x64.msi"

def partial_name (package : UpdatePackage) : String := installer_name package ++ ".partial"

/-- An attempt that ends before an installer is started. -/
def Attempt.failed (error : Error) (staging : Staging) : Option Attempt := some ⟨.error error, [], staging⟩

section

variable (ext : External) (package : UpdatePackage) (staging : Staging) (io : UpdateIo)

/-- The directories, and the names cleared for the download. -/
def prepare : Except Error Unit × Staging :=
  match (do
    (validate_package ext package).mapError .Package
    rejectIf (!io.security) .StagingProtection
    prepare_secure_directory io.data_root
    prepare_secure_directory io.update_root : Except Error Unit) with
  | .error error => (.error error, staging)
  | .ok () =>
    match remove_staging_entry_if_present (staging.meanwhile (io.others 0)) (partial_name package) io.remove_partial with
    | (.error error, staging) => (.error error, staging)
    | (.ok (), staging) =>
      remove_staging_entry_if_present (staging.meanwhile (io.others 1)) (installer_name package) io.remove_installer

/-- `verify_installer_before_rotating_log`. -/
def verify_installer_before_rotating_log : Except Error Staging :=
  match VerifiedInstaller.open_installer ext package UPDATE_PUBLIC_KEY staging (installer_name package) io.opened with
  | .error error => .error error
  | .ok staging =>
    match remove_staging_entry_if_present (staging.meanwhile (io.others 5)) "install.log" io.remove_log with
    | (.error error, _) => .error error
    | (.ok (), staging) => .ok staging

def download_verify_and_launch : Option Attempt :=
  match prepare ext package staging io with
  | (.error error, staging) => Attempt.failed error staging
  | (.ok (), staging) =>
    match download_to package (staging.meanwhile (io.others 2)) (partial_name package) io.download with
    | (.error error, staging) =>
      Attempt.failed error (remove_staging_entry_if_present (staging.meanwhile (io.others 3)) (partial_name package) io.discard_partial).2
    | (.ok (), staging) =>
      let staging := staging.meanwhile (io.others 3)
      if !io.renamed || (staging.entries (partial_name package)).isNone then Attempt.failed .Io staging
      else
        let staging := (staging.set (installer_name package) (staging.entries (partial_name package))).set (partial_name package) none
        let staging := staging.meanwhile (io.others 4)
        match verify_installer_before_rotating_log ext package staging io with
        | .error error => Attempt.failed error
            (remove_staging_entry_if_present (staging.meanwhile (io.others 6)) (installer_name package) io.discard_installer).2
        | .ok staging =>
          let staging := staging.meanwhile (io.others 6)
          (launch_msi ⟨installer_name package, "install.log"⟩ (io.started + UPDATE_INSTALL_TIMEOUT) io.launch).map
            fun (result, trace) => ⟨result, trace, staging⟩

def install : Option (UpdateInstallOutcome × List (JobEvent Launch)) :=
  (download_verify_and_launch ext package staging io).map fun attempt =>
    (match attempt.result with
      | .ok () => .Completed package.version
      | .error error => if error.installer_state_is_indeterminate then .Indeterminate error.code else .Failed error.code,
    attempt.trace)

end

/-! ## What is installed -/

theorem Staging.meanwhile_held {staging : Staging} {name : String} (h : staging.held = some name)
    (others : Entries → Entries) : (staging.meanwhile others).entries name = staging.entries name := if_pos h

/-- However often others work in the directory. -/
theorem Staging.foldl_meanwhile_held {staging : Staging} {name : String} (h : staging.held = some name)
    (later : List (Entries → Entries)) :
    (later.foldl Staging.meanwhile staging).entries name = staging.entries name := by
  induction later generalizing staging with
  | nil => rfl
  | cons others later ih => exact (ih (show (staging.meanwhile others).held = some name from h)).trans (staging.meanwhile_held h others)

theorem remove_other (staging : Staging) {name other : String} (h : other ≠ name) (io : RemoveIo) :
    (remove_staging_entry_if_present staging name io).2.entries other = staging.entries other ∧
      (remove_staging_entry_if_present staging name io).2.held = staging.held := by
  unfold remove_staging_entry_if_present
  repeat' split
  all_goals first
    | exact ⟨rfl, rfl⟩
    | exact ⟨Function.update_of_ne h _ _, rfl⟩

theorem installer_name_ne_log (package : UpdatePackage) : installer_name package ≠ "install.log" := by
  intro h
  have hfirst := congrArg (fun name => name.toList[1]?) h
  simp [installer_name, String.toList_append] at hfirst

/-! An error that leaves no doubt about the installer. -/

section Known

variable {α β : Type} {x : Except Error α} {f : α → Except Error β} {e : Error}

def Known (x : Except Error α) : Prop := ∀ error, x = .error error → error.installer_state_is_indeterminate = false

theorem Known.bind (hx : Known x) (hf : ∀ a, Known (f a)) : Known (x >>= f) := by
  intro error h
  rcases bind_eq_error_iff.1 h with h | ⟨a, -, h⟩
  · exact hx error h
  · exact hf a error h

theorem Known.ok (a : α) : Known (.ok a) := nofun

theorem Known.error (h : e.installer_state_is_indeterminate = false) : Known (.error e : Except Error α) := by
  rintro _ ⟨⟩
  exact h

theorem Known.reject (bad : Bool) (h : e.installer_state_is_indeterminate = false) : Known (rejectIf bad e) := by
  intro error herror
  exact (rejectIf_eq_error.1 herror).2 ▸ h

theorem Known.elim (value : Option α) (h : e.installer_state_is_indeterminate = false) :
    Known (value.elim (.error e) .ok) := by
  cases value with
  | none => exact .error h
  | some a => exact .ok a

end Known

theorem validate_directory_handle_known (attributes : Option Attributes) : Known (validate_directory_handle attributes) := by
  cases attributes with
  | none => exact .error rfl
  | some attributes => exact .reject _ rfl

theorem prepare_secure_directory_known (io : DirectoryIo) : Known (prepare_secure_directory io) := by
  have howner : Known (check_owner io) := by
    unfold check_owner
    repeat' split
    · exact .ok _
    · exact .error rfl
    · exact .reject _ rfl
  have hverify : Known (verify io.protection) := by
    cases io.protection with
    | none => exact .error rfl
    | some protection => exact (Known.reject _ rfl).bind fun _ => (Known.reject _ rfl).bind fun _ => .reject _ rfl
  exact (Known.reject _ rfl).bind fun _ => (Known.reject _ rfl).bind fun _ => (validate_directory_handle_known _).bind fun _ =>
    howner.bind fun _ => (Known.reject _ rfl).bind fun _ => (validate_directory_handle_known _).bind fun _ => hverify

theorem remove_known (staging : Staging) (name : String) (io : RemoveIo) :
    Known (remove_staging_entry_if_present staging name io).1 := by
  unfold remove_staging_entry_if_present
  repeat' split
  all_goals first
    | exact .ok _
    | exact .error rfl

theorem prepare_known (ext : External) (package : UpdatePackage) (staging : Staging) (io : UpdateIo) :
    Known (prepare ext package staging io).1 := by
  unfold prepare
  split
  · rename_i error herror
    refine Known.error ?_
    refine Known.bind ?_ (fun _ => (Known.reject _ rfl).bind fun _ => (prepare_secure_directory_known _).bind fun _ =>
      prepare_secure_directory_known _) error herror
    cases validate_package ext package with
    | error error => exact .error rfl
    | ok => exact .ok _
  · split
    · rename_i herror
      exact .error (remove_known _ _ _ _ (congrArg Prod.fst herror))
    · exact remove_known _ _ _

theorem download_known (package : UpdatePackage) (staging : Staging) (destination : String) (io : DownloadIo) :
    Known (download_to package staging destination io).1 := by
  unfold download_to
  repeat' split
  all_goals first
    | exact .ok _
    | exact .error rfl

theorem verify_contents_known (ext : External) (contents : Bytes) (signature key : String) :
    Known (verify_contents_with_public_key ext contents signature key) := by
  refine (Known.elim _ rfl).bind fun _ => (Known.reject _ rfl).bind fun _ => (Known.reject _ rfl).bind fun _ =>
    Known.bind ?_ fun _ => .reject _ rfl
  exact (Known.reject _ rfl).bind fun _ => (Known.elim _ rfl).bind fun _ => (Known.reject _ rfl).bind fun _ => .ok _

theorem verify_installer_known (ext : External) (package : UpdatePackage) (staging : Staging) (io : UpdateIo) :
    Known (verify_installer_before_rotating_log ext package staging io) := by
  unfold verify_installer_before_rotating_log
  split
  · rename_i error herror
    refine Known.error ?_
    revert herror
    unfold VerifiedInstaller.open_installer
    split
    case h_6 =>
      exact Known.bind (.reject _ rfl) (fun _ => (Known.reject _ rfl).bind fun _ => (Known.reject _ rfl).bind fun _ =>
        (verify_contents_known _ _ _ _).bind fun _ => .ok _) error
    case h_5 =>
      split
      · exact Known.error rfl error
      · exact Known.error rfl error
    all_goals exact Known.error rfl error
  · split
    · rename_i herror
      exact .error (remove_known _ _ _ _ (congrArg Prod.fst herror))
    · exact .ok _

/-! ## The installer's process -/

theorem reap_killed_orderly {io : InstallerIo} {waited : Bool} {trace : List (JobEvent Launch)}
    (h : reap_killed io = some (waited, trace)) : Lib.spawned trace = [] ∧ ∃ after, Orderly .loose trace after := by
  obtain ⟨_, -, hevents⟩ := Option.map_eq_some_iff.1 h
  cases hevents
  cases waited with
  | true => exact ⟨rfl, .reaped, .of_runList rfl⟩
  | false => exact ⟨rfl, .loose, .of_runList rfl⟩

/-- A wait ends with an exit status, or without knowing what became of the installer. -/
theorem wait_for_installer_settled {deadline : Nat} {io : InstallerIo} {polls : List InstallerPoll}
    {ended : Except Error (Option Int)} {trace : List (JobEvent Launch)}
    (h : wait_for_installer deadline io polls = some (ended, trace)) :
    Lib.spawned trace = [] ∧ ∃ after, Orderly .loose trace after ∧
      ((∃ code, ended = .ok code ∧ after = .reaped) ∨ ∃ error, ended = .error error ∧ error.installer_state_is_indeterminate = true) := by
  induction polls with
  | nil => cases h
  | cons poll rest ih =>
    unfold wait_for_installer at h
    split at h
    · cases h
      exact ⟨rfl, .reaped, .of_runList rfl, .inl ⟨_, rfl, rfl⟩⟩
    · split at h
      · exact ih h
      split at h
      · obtain ⟨⟨waited, events⟩, hkilled, h⟩ := Option.map_eq_some_iff.1 h
        obtain ⟨hspawned, after, horderly⟩ := reap_killed_orderly hkilled
        cases h
        exact ⟨hspawned, after, horderly, .inr ⟨_, rfl, by cases waited <;> rfl⟩⟩
      · split at h
        · cases h
          exact ⟨rfl, .reaped, .of_runList rfl, .inl ⟨_, rfl, rfl⟩⟩
        · cases h
          exact ⟨rfl, .loose, .of_runList rfl, .inr ⟨_, rfl, rfl⟩⟩
    · split at h
      · obtain ⟨⟨waited, events⟩, hkilled, h⟩ := Option.map_eq_some_iff.1 h
        obtain ⟨hspawned, after, horderly⟩ := reap_killed_orderly hkilled
        cases h
        exact ⟨hspawned, after, horderly, .inr ⟨_, rfl, rfl⟩⟩
      · cases h
        exact ⟨rfl, .loose, .of_runList rfl, .inr ⟨_, rfl, rfl⟩⟩

/-- The end of the installer is seen, or the error says that it may not have ended. -/
theorem launch_msi_settled {launch : Launch} {deadline : Nat} {io : LaunchIo} {result : Except Error Unit}
    {trace : List (JobEvent Launch)} (h : launch_msi launch deadline io = some (result, trace)) {before : Child}
    (hbefore : Quiet before) : (∀ started ∈ Lib.spawned trace, started = launch) ∧ ∃ after, Orderly before trace after ∧
      (Quiet after ∨ ∃ error, result = .error error ∧ error.installer_state_is_indeterminate = true) := by
  unfold launch_msi at h
  split at h
  · cases h
    exact ⟨nofun, before, .nil, .inl hbefore⟩
  split at h
  · cases h
    exact ⟨nofun, before, .nil, .inl hbefore⟩
  obtain ⟨⟨ended, events⟩, hwait, h⟩ := Option.map_eq_some_iff.1 h
  cases h
  obtain ⟨hspawned, after, horderly, hended⟩ := wait_for_installer_settled hwait
  have hstart : Orderly before [.spawn launch] .loose := by
    rcases hbefore with rfl | rfl
    · exact .of_runList rfl
    · exact .of_runList rfl
  refine ⟨?_, after, hstart.append horderly, ?_⟩
  · rintro started hstarted
    rcases List.mem_cons.1 hstarted with rfl | hstarted
    · rfl
    · have hnone : started ∉ Lib.spawned events := by
        rw [hspawned]
        exact List.not_mem_nil
      exact absurd hstarted hnone
  · rcases hended with ⟨code, rfl, rfl⟩ | ⟨error, rfl, herror⟩
    · exact .inl (.inr rfl)
    · exact .inr ⟨error, rfl, herror⟩

section

variable {ext : External} {package : UpdatePackage} {staging held : Staging} {io : UpdateIo}

/-- The bytes the package was signed for. -/
def Signed (ext : External) (package : UpdatePackage) (contents : Bytes) : Prop :=
  contents.length = package.length.toNat ∧
    verify_contents_with_public_key ext contents package.signature UPDATE_PUBLIC_KEY = .ok ()

theorem open_installer_ok {name : String} {opened : OpenIo}
    (h : VerifiedInstaller.open_installer ext package UPDATE_PUBLIC_KEY staging name opened = .ok held) :
    held.held = some name ∧ ∃ contents, held.entries name = some (.file contents) ∧ Signed ext package contents := by
  unfold VerifiedInstaller.open_installer at h
  split at h
  case h_6 contents _ hentry =>
    simp only [check_bind_eq_ok, rejectIf_eq_ok, pure_eq_ok] at h
    obtain ⟨-, hlength, -, hverified, rfl⟩ := h
    exact ⟨rfl, contents, hentry, by simpa using hlength, hverified⟩
  all_goals cases h

theorem verify_installer_ok (h : verify_installer_before_rotating_log ext package staging io = .ok held) :
    held.held = some (installer_name package) ∧
      ∃ contents, held.entries (installer_name package) = some (.file contents) ∧ Signed ext package contents := by
  unfold verify_installer_before_rotating_log at h
  split at h
  · cases h
  · rename_i opened hopened
    obtain ⟨hheld, contents, hentry, hsigned⟩ := open_installer_ok hopened
    obtain ⟨hother, hkept⟩ := remove_other (opened.meanwhile (io.others 5)) (installer_name_ne_log package) io.remove_log
    split at h
    · cases h
    · rename_i hremoved
      cases h
      rw [hremoved] at hother hkept
      refine ⟨hkept.trans hheld, contents, ?_, hsigned⟩
      rw [hother, Staging.meanwhile_held hheld, hentry]

theorem prepare_valid {prepared : Staging} (h : prepare ext package staging io = (.ok (), prepared)) :
    validate_package ext package = .ok () := by
  unfold prepare at h
  split at h
  · cases h
  · rename_i hchecked
    simp only [check_bind_eq_ok, mapError_eq_ok] at hchecked
    exact hchecked.1

/-- An attempt fails before it starts an installer, or it starts the one it holds. -/
inductive Attempted (ext : External) (package : UpdatePackage) (io : UpdateIo) : Attempt → Prop
  | failed {error : Error} (staging : Staging) (known : error.installer_state_is_indeterminate = false) :
      Attempted ext package io ⟨.error error, [], staging⟩
  | launched {result : Except Error Unit} {trace : List (JobEvent Launch)} {staging : Staging} {contents : Bytes}
      (valid : validate_package ext package = .ok ()) (held : staging.held = some (installer_name package))
      (installer : staging.entries (installer_name package) = some (.file contents)) (signed : Signed ext package contents)
      (launch : launch_msi ⟨installer_name package, "install.log"⟩ (io.started + UPDATE_INSTALL_TIMEOUT) io.launch =
        some (result, trace)) :
      Attempted ext package io ⟨result, trace, staging⟩

theorem download_verify_and_launch_attempted {attempt : Attempt}
    (h : download_verify_and_launch ext package staging io = some attempt) : Attempted ext package io attempt := by
  unfold download_verify_and_launch at h
  split at h
  · rename_i error _ hprepare
    cases h
    exact .failed _ (prepare_known ext package staging io error (congrArg Prod.fst hprepare))
  rename_i prepared hprepare
  split at h
  · rename_i error _ hdownload
    cases h
    exact .failed _ (download_known _ _ _ _ error (congrArg Prod.fst hdownload))
  dsimp only at h
  split at h
  · cases h
    exact .failed _ rfl
  split at h
  · rename_i error hverify
    cases h
    exact .failed _ (verify_installer_known _ _ _ _ error hverify)
  · rename_i verified hverify
    obtain ⟨hheld, contents, hentry, hsigned⟩ := verify_installer_ok hverify
    obtain ⟨⟨result, trace⟩, hlaunch, h⟩ := Option.map_eq_some_iff.1 h
    cases h
    exact .launched (prepare_valid hprepare) hheld ((Staging.meanwhile_held hheld _).trans hentry) hsigned hlaunch

/-- Whatever the system and others in the directory do: an installer is started only for a package that is newer
than the service and comes from a release, and for as long as the attempt lasts the file that is being installed
is the one whose bytes were signed for the package. -/
theorem launched_is_verified {attempt : Attempt} (h : download_verify_and_launch ext package staging io = some attempt)
    {launch : Launch} (hlaunch : launch ∈ Lib.spawned attempt.trace) :
    validate_package ext package = .ok () ∧ ∃ contents, Signed ext package contents ∧
      ∀ later : List (Entries → Entries),
        (later.foldl Staging.meanwhile attempt.staging).entries launch.installer = some (.file contents) := by
  cases download_verify_and_launch_attempted h with
  | failed => cases hlaunch
  | launched valid held installer signed launched =>
    rename_i result trace kept contents
    have hname : launch = ⟨installer_name package, "install.log"⟩ := (launch_msi_settled launched (.inl rfl)).1 launch hlaunch
    refine ⟨valid, contents, signed, fun later => ?_⟩
    rw [hname, Staging.foldl_meanwhile_held held, installer]

end

/-- Libraries for which every key and every signature is right. -/
def trusting : External := { External.inert with
  base64_standard_decode := fun value => base64Decode value.toList
  verifying_key := fun _ => true
  verify_strict := fun _ _ _ => true }

/-- A package of two bytes. -/
def smallPackage : UpdatePackage :=
  { version := "2.0.0"
    url := "https://updates.resticpal.com/releases/v2.0.0/resticpal-2.0.0-x64.msi"
    signature := String.ofList (List.replicate 86 'A') ++ "=="
    length := 2 }

/-- A directory of the service's own. -/
def ownDirectory : DirectoryIo :=
  ⟨.alreadyExists, true, some ⟨true, false⟩, some true, true, some ⟨true, false⟩, some ⟨true, true, true, true⟩⟩

/-- Someone replaces every file of the directory once the installer has been opened. -/
def meddled : UpdateIo :=
  { started := 0
    data_root := ownDirectory
    update_root := ownDirectory
    others := fun n entries name => if 5 ≤ n then some (.file [6, 6]) else entries name
    download := { received := [1, 2] }
    launch := { now := 100, installer := { polls := [⟨.Running, 100⟩, ⟨.Exited (some 3010), 350⟩] } } }

theorem launched_is_verified_meddled : ∃ attempt launch,
    download_verify_and_launch trusting smallPackage ⟨fun _ => none, none⟩ meddled = some attempt ∧
      attempt.trace = [.spawn launch, .reap] ∧ ∃ contents, Signed trusting smallPackage contents ∧
        attempt.staging.entries launch.installer = some (.file contents) := by
  have htrace : (download_verify_and_launch trusting smallPackage ⟨fun _ => none, none⟩ meddled).map (·.trace) =
      some [.spawn ⟨"resticpal-2.0.0-x64.msi", "install.log"⟩, .reap] := by
    decide +kernel
  obtain ⟨attempt, hattempt, htrace⟩ := Option.map_eq_some_iff.1 htrace
  have hlaunched : ⟨"resticpal-2.0.0-x64.msi", "install.log"⟩ ∈ Lib.spawned attempt.trace := by
    rw [htrace]
    exact List.mem_cons_self
  obtain ⟨-, contents, hsigned, hheld⟩ := launched_is_verified hattempt hlaunched
  exact ⟨attempt, _, hattempt, htrace, contents, hsigned, hheld []⟩

/-- Unless an update ends with its installer in doubt, the installer has been seen to end or was never started. -/
theorem install_settled {ext : External} {package : UpdatePackage} {staging : Staging} {io : UpdateIo} {outcome : UpdateInstallOutcome}
    {trace : List (JobEvent Launch)} (h : install ext package staging io = some (outcome, trace)) {before : Child}
    (hbefore : Quiet before) :
    ∃ after, Orderly before trace after ∧ (Quiet after ∨ ∃ code, outcome = .Indeterminate code) := by
  obtain ⟨attempt, hattempt, h⟩ := Option.map_eq_some_iff.1 h
  cases h
  cases download_verify_and_launch_attempted hattempt with
  | failed => exact ⟨before, .nil, .inl hbefore⟩
  | launched valid held installer signed launch =>
    obtain ⟨-, after, horderly, hended⟩ := launch_msi_settled launch hbefore
    refine ⟨after, horderly, hended.imp_right ?_⟩
    rintro ⟨error, rfl, herror⟩
    exact ⟨error.code, if_pos herror⟩

end ResticPal.Updater
