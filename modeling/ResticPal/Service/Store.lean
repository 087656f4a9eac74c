import ResticPal.Core.Config
/-!
# Files

What the service keeps on disk: configuration files, held as the value their
contents parse to, and the credential directory, one protected secret a
reference. Whether a write succeeds is the operating system's choice, so every
write takes its outcome as an argument.
-/

open Lib

namespace ResticPal

open Text (Bytes)

/-- A file as a reader finds it. -/
inductive StoredFile (α : Type) where
  | missing
  | unreadable
  | oversized
  | malformed
  | contents (value : α)
  deriving DecidableEq

/-! ## Credentials -/

def MAX_SECRET_BYTES : Nat := 32 * 1024
def REFERENCE_GENERATION_ATTEMPTS : Nat := 8

inductive CredentialStoreError where
  | InvalidReference
  | ReferenceGenerationFailed
  | EmptySecret
  | SecretTooLarge
  | ProtectedDataTooLarge
  | NotFound
  | InvalidFormat
  | Io
  deriving DecidableEq

/-- The secrets of a `DpapiSecretStore`, by reference. -/
abbrev CredentialStore := BTreeMap String (StoredFile Bytes)

/-- What became of a credential write. Its access list is set after the file is
in place, so a write can fail with the secret stored. -/
inductive CredentialWrite where
  | stored
  | refused (error : CredentialStoreError)
  | storedUnprotected
  deriving DecidableEq

/-- The secret is in its file. -/
def CredentialWrite.in_place : CredentialWrite → Bool
  | .stored | .storedUnprotected => true
  | .refused _ => false

def CredentialWrite.result : CredentialWrite → Except CredentialStoreError Unit
  | .stored => .ok ()
  | .refused error => .error error
  | .storedUnprotected => .error .Io

/-- The outcome of one `put_new`: the random suffix of each attempt, or why the attempt had none, and the write. -/
structure PutNewIo where
  draws : List (Except CredentialStoreError String)
  write : CredentialWrite
  deriving DecidableEq

namespace CredentialStore

def get (store : CredentialStore) (reference : String) : Except CredentialStoreError Bytes :=
  if !is_valid_secret_reference reference then .error .InvalidReference
  else match store.get? reference with
    | none | some .missing => .error .NotFound
    | some .unreadable => .error .Io
    | some .oversized => .error .ProtectedDataTooLarge
    | some .malformed => .error .InvalidFormat
    | some (.contents secret) => .ok secret

def put (store : CredentialStore) (reference : String) (secret : Bytes) (write : CredentialWrite) :
    CredentialStore × Except CredentialStoreError Unit :=
  if !is_valid_secret_reference reference then (store, .error .InvalidReference)
  else if secret.isEmpty then (store, .error .EmptySecret)
  else if secret.length > MAX_SECRET_BYTES then (store, .error .SecretTooLarge)
  else (if write.in_place then store.insert reference (.contents secret) else store, write.result)

/-- The attempts of `put_new`. -/
def put_new_attempts (store : CredentialStore) (stem : String) (secret : Bytes) (write : CredentialWrite) :
    List (Except CredentialStoreError String) → CredentialStore × Except CredentialStoreError String
  | [] => (store, .error .ReferenceGenerationFailed)
  | .error error :: _ => (store, .error error)
  | .ok suffix :: rest =>
    let reference := stem ++ "-" ++ suffix
    if !is_valid_secret_reference reference then (store, .error .InvalidReference)
    else if store.contains reference then put_new_attempts store stem secret write rest
    else
      let (store, stored) := put store reference secret write
      (store, stored.map (fun _ => reference))

/-- Store under a reference not in use yet, made from `stem` and a random suffix. -/
def put_new (store : CredentialStore) (stem : String) (secret : Bytes) (io : PutNewIo) :
    CredentialStore × Except CredentialStoreError String :=
  if !is_valid_secret_reference stem then (store, .error .InvalidReference)
  else put_new_attempts store stem secret io.write (io.draws.take REFERENCE_GENERATION_ATTEMPTS)

/-- Store one secret after the other, each under a new reference, up to the first failure. -/
def put_all (io : Nat → PutNewIo) : Nat → CredentialStore → List (String × Bytes) → CredentialStore × List String × Bool
  | _, store, [] => (store, [], true)
  | i, store, (stem, secret) :: rest =>
    match put_new store stem secret (io i) with
    | (store, .error _) => (store, [], false)
    | (store, .ok reference) =>
      let (store, references, stored) := put_all io (i + 1) store rest
      (store, reference :: references, stored)

/-- Every secret that was stored has a reference. -/
theorem put_all_length {io : Nat → PutNewIo} {i : Nat} {store : CredentialStore} {secrets : List (String × Bytes)}
    (h : (put_all io i store secrets).2.2 = true) : (put_all io i store secrets).2.1.length = secrets.length := by
  induction secrets generalizing i store with
  | nil => rfl
  | cons secret rest ih =>
    obtain ⟨stem, secret⟩ := secret
    unfold put_all at h ⊢
    split at h
    · cases h
    · simp only [List.length_cons, ih h]

/-- Remove references. Removing can fail, and no caller reads the failure. -/
def remove_all (removed : String → Bool) (store : CredentialStore) (references : List String) : CredentialStore :=
  references.foldl (fun store reference =>
    if is_valid_secret_reference reference && removed reference then store.erase reference else store) store

/-! ### What writes and removals leave -/

/-- What a `put_new` can do. -/
inductive PutNew (store : CredentialStore) (secret : Bytes) (write : CredentialWrite) :
    CredentialStore × Except CredentialStoreError String → Prop
  | failed (e : CredentialStoreError) : PutNew store secret write (store, .error e)
  /-- The secret is in place, and only its protection failed. -/
  | unprotected (e : CredentialStoreError) (reference : String) (free : store.get? reference = none)
      (unprotected : write = .storedUnprotected) :
      PutNew store secret write (store.insert reference (.contents secret), .error e)
  | stored (reference : String) (free : store.get? reference = none)
      (valid : is_valid_secret_reference reference = true) :
      PutNew store secret write (store.insert reference (.contents secret), .ok reference)

/-- A `put` under a free reference. -/
theorem put_free {store : CredentialStore} {reference : String} (free : store.get? reference = none)
    (valid : is_valid_secret_reference reference = true) (secret : Bytes) (write : CredentialWrite) :
    PutNew store secret write
      ((put store reference secret write).1, (put store reference secret write).2.map (fun _ => reference)) := by
  unfold put
  split
  · exact .failed _
  · split
    · exact .failed _
    · split
      · exact .failed _
      · cases write with
        | stored => exact .stored reference free valid
        | refused error => exact .failed _
        | storedUnprotected => exact .unprotected _ reference free rfl

theorem put_new_cases (store : CredentialStore) (stem : String) (secret : Bytes) (io : PutNewIo) :
    PutNew store secret io.write (put_new store stem secret io) := by
  unfold put_new
  split
  · exact .failed _
  · induction io.draws.take REFERENCE_GENERATION_ATTEMPTS with
    | nil => exact .failed _
    | cons draw rest ih =>
      rcases draw with error | suffix
      · exact .failed _
      · simp only [put_new_attempts]
        split
        · exact .failed _
        · rename_i hvalid
          split
          · exact ih
          · rename_i hfree
            exact put_free (by simpa [BTreeMap.contains] using hfree) (by simpa using hvalid) secret io.write

theorem get?_remove_all (removed : String → Bool) (store : CredentialStore) (references : List String) (k : String) :
    BTreeMap.get? (remove_all removed store references) k =
      if k ∈ references ∧ is_valid_secret_reference k = true ∧ removed k = true then none else store.get? k := by
  induction references generalizing store with
  | nil => simp [remove_all]
  | cons reference references ih =>
    have hcons : remove_all removed store (reference :: references) = remove_all removed
      (if is_valid_secret_reference reference && removed reference then store.erase reference else store) references := rfl
    rw [hcons, ih]
    by_cases hk : k = reference
    · subst hk
      by_cases hr : is_valid_secret_reference k = true ∧ removed k = true
      · simp [hr]
      · have hr' : (is_valid_secret_reference k && removed k) = false := by simpa using hr
        simp [hr, hr']
    · have hsame : BTreeMap.get? (if is_valid_secret_reference reference && removed reference then store.erase reference
          else store) k = store.get? k := by
        split <;> simp [hk]
      rw [hsame]
      simp [hk]

/-- What storing several secrets leaves. -/
structure PutAll (io : Nat → PutNewIo) (store after : CredentialStore) (references : List String) : Prop where
  fresh : ∀ reference ∈ references, store.get? reference = none
  valid : ∀ reference ∈ references, is_valid_secret_reference reference = true
  stored : ∀ reference ∈ references, after.get? reference ≠ none
  kept : ∀ k, store.get? k ≠ none → after.get? k = store.get? k
  only : (∀ i, (io i).write ≠ .storedUnprotected) → ∀ k ∉ references, after.get? k = store.get? k

theorem put_all_spec (io : Nat → PutNewIo) (i : Nat) (store : CredentialStore) (secrets : List (String × Bytes)) :
    PutAll io store (put_all io i store secrets).1 (put_all io i store secrets).2.1 := by
  induction secrets generalizing i store with
  | nil => exact ⟨by simp [put_all], by simp [put_all], by simp [put_all], fun _ _ => rfl, fun _ _ _ => rfl⟩
  | cons entry rest ih =>
    obtain ⟨stem, secret⟩ := entry
    have hcases := put_new_cases store stem secret (io i)
    unfold put_all
    generalize put_new store stem secret (io i) = written at hcases ⊢
    cases hcases with
    | failed e => exact ⟨by simp, by simp, by simp, fun _ _ => rfl, fun _ _ _ => rfl⟩
    | unprotected e reference free unprotected =>
      refine ⟨by simp, by simp, by simp, fun k hk => ?_, fun hw => absurd unprotected (hw i)⟩
      have hne : k ≠ reference := by
        rintro rfl
        exact hk free
      simp [hne]
    | stored reference free valid =>
      obtain ⟨hfresh, hvalid, hstored, hkept, honly⟩ := ih (i + 1) (store.insert reference (.contents secret))
      have hin : BTreeMap.get? (put_all io (i + 1) (store.insert reference (.contents secret)) rest).1 reference ≠ none := by
        rw [hkept reference (by simp)]
        simp
      refine ⟨?_, ?_, ?_, fun k hk => ?_, fun hw k hk => ?_⟩
      · intro r hr
        rcases List.mem_cons.1 hr with rfl | hr
        · exact free
        · have := hfresh r hr
          rw [BTreeMap.get?_insert] at this
          split at this
          · cases this
          · exact this
      · intro r hr
        rcases List.mem_cons.1 hr with rfl | hr
        · exact valid
        · exact hvalid r hr
      · intro r hr
        rcases List.mem_cons.1 hr with rfl | hr
        · exact hin
        · exact hstored r hr
      · have hne : k ≠ reference := by
          rintro rfl
          exact hk free
        have hkept := hkept k (by simpa [hne] using hk)
        simpa [hne] using hkept
      · have hne : k ≠ reference := by
          rintro rfl
          exact hk List.mem_cons_self
        have honly := honly hw k (fun hr => hk (List.mem_cons_of_mem _ hr))
        simpa [hne] using honly

/-- Removing the new references again leaves the store as it was. -/
theorem PutAll.undo {io : Nat → PutNewIo} {store after : CredentialStore} {references : List String}
    (h : PutAll io store after references) (hw : ∀ i, (io i).write ≠ .storedUnprotected) {removed : String → Bool}
    (hr : ∀ reference, removed reference = true) : remove_all removed after references = store := by
  refine BTreeMap.ext_get? fun k => ?_
  rw [get?_remove_all]
  by_cases hk : k ∈ references
  · simp [hk, h.valid k hk, hr, h.fresh k hk]
  · simp [hk, h.only hw k hk]

end CredentialStore

/-! ## The local configuration -/

inductive ConfigStoreError where
  | TooLarge
  | Io
  | Parse
  | UnsupportedSchema (expected actual : UInt32)
  | Management (error : ManagementConfigError)
  deriving DecidableEq

/-- The checks of `LocalConfig::from_toml` on a file that parses. -/
def LocalConfig.from_toml (parse_url : String → Option Url) (config : LocalConfig) :
    Except ConfigStoreError LocalConfig := do
  rejectIf (config.schema_version != CONFIG_SCHEMA_VERSION)
    (.UnsupportedSchema CONFIG_SCHEMA_VERSION config.schema_version)
  (config.management.validate parse_url).mapError .Management
  return config

/-- `LocalConfigStore::load`: a missing file is the default configuration. -/
def LocalConfigStore.load (parse_url : String → Option Url) (file : StoredFile LocalConfig) :
    Except ConfigStoreError LocalConfig :=
  match file with
  | .missing => .ok {}
  | .unreadable => .error .Io
  | .oversized => .error .TooLarge
  | .malformed => .error .Parse
  | .contents config => config.from_toml parse_url

/-- What is loaded is what the file holds. -/
theorem LocalConfigStore.load_cases {parse_url : String → Option Url} {file : StoredFile LocalConfig} {loc : LocalConfig}
    (h : LocalConfigStore.load parse_url file = .ok loc) : file = .contents loc ∨ file = .missing ∧ loc = {} := by
  cases file with
  | missing => exact .inr ⟨rfl, (Except.ok.inj h).symm⟩
  | contents config =>
    simp only [LocalConfigStore.load, LocalConfig.from_toml, check_bind_eq_ok, pure_eq_ok] at h
    exact .inl (congrArg StoredFile.contents h.2.2)
  | _ => cases h

/-- `save`, whose contents replace the file when the write succeeds. -/
def StoredFile.replace {α : Type} (file : StoredFile α) (value : α) (written : Bool) : StoredFile α :=
  if written then .contents value else file

end ResticPal
