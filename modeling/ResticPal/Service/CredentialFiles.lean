import ResticPal.Lib.Directory
import ResticPal.Lib.Runs
import ResticPal.Service.Store
/-!
# The files of the credential store

`DpapiSecretStore` on its directory: one file a reference, its name the reference
with `.credential` after it, its contents a magic number and the secret as the
system's data protection has sealed it. What data protection returns, which calls
fail and which random suffixes are drawn is the operating system's choice.

`calls_refine_store`: calls on the files do what calls on the map from references
to secrets do, with the same replies, so the map is what the rest of the service
can be read against.
-/

open Lib

namespace ResticPal

open Text (Bytes)

namespace CredentialFiles

/-- The errors of `CredentialStoreError`, which the map of secrets tells apart only as far as its callers do. -/
inductive Error where
  | InvalidReference
  | ReferenceGenerationFailed
  | EmptySecret
  | SecretTooLarge
  | ProtectedDataTooLarge
  | NotFound
  | InvalidFormat
  | InvalidPlaintext
  | UnsafeStoreDirectory
  | UnexpectedStoreEntry
  | Io
  | Windows
  deriving DecidableEq

def Error.abstract : Error → CredentialStoreError
  | InvalidReference => .InvalidReference
  | ReferenceGenerationFailed => .ReferenceGenerationFailed
  | EmptySecret => .EmptySecret
  | SecretTooLarge => .SecretTooLarge
  | ProtectedDataTooLarge => .ProtectedDataTooLarge
  | NotFound => .NotFound
  | InvalidFormat => .InvalidFormat
  | InvalidPlaintext | UnsafeStoreDirectory | UnexpectedStoreEntry | Io | Windows => .Io

def FILE_MAGIC : Bytes := "RESTICPAL-CREDENTIAL\x01".toList.map (fun c => c.toNat.toUInt8)
def FILE_EXTENSION : String := "credential"
def MAX_PROTECTED_BYTES : Nat := 128 * 1024

/-- `path_for`, within the directory. -/
def file_name (reference : String) : String := reference ++ "." ++ FILE_EXTENSION

/-- The name of a temporary file: `.tmp-{process id}-{counter}`. -/
def temporary_name (process n : Nat) : String := numbered (".tmp-" ++ toString process) n ""

/-! ## Writing -/

/-- `TemporaryFile::drop`. -/
def discard (temporary : String) (error : Error) : FileProg String UInt8 (Except Error Unit) :=
  .abandon temporary (.error error)

/-- `write_atomically`. The access list is set on the temporary file, and again on the target. -/
def write_atomically (temporary reference : String) (contents : Bytes) : FileProg String UInt8 (Except Error Unit) :=
  .op (.create temporary) fun
    | none => discard temporary .Io
    | some _ => .op (.write temporary contents) fun
      | none => discard temporary .Io
      | some _ => .op (.sync temporary) fun
        | none => discard temporary .Io
        | some _ => .op .other fun
          | none => discard temporary .Windows
          | some _ => .op (.rename temporary (file_name reference)) fun
            | none => discard temporary .Windows
            | some _ => .op .other fun
              | none => .ret (.error .Windows)
              | some _ => .ret (.ok ())

/-- `put`, up to its call of `write_atomically`: what is to be written. `sealed` is what `protect_data` returns. -/
def put_contents (reference : String) (secret : Bytes) (sealed : Option Bytes) : Except Error Bytes := do
  rejectIf (!is_valid_secret_reference reference) .InvalidReference
  rejectIf secret.isEmpty .EmptySecret
  rejectIf (secret.length > MAX_SECRET_BYTES) .SecretTooLarge
  let blob ← sealed.elim (.error .Windows) .ok
  rejectIf (blob.length > MAX_PROTECTED_BYTES) .ProtectedDataTooLarge
  return FILE_MAGIC ++ blob

def put (temporary reference : String) (secret : Bytes) (sealed : Option Bytes) : FileProg String UInt8 (Except Error Unit) :=
  match put_contents reference secret sealed with
  | .error error => .ret (.error error)
  | .ok contents => write_atomically temporary reference contents

/-- The attempts of `put_new` on the random suffixes drawn, `none` where the generator fails. -/
def put_new_attempts (temporary stem : String) (secret : Bytes) (sealed : Option Bytes) :
    List (Option String) → FileProg String UInt8 (Except Error String)
  | [] => .ret (.error .ReferenceGenerationFailed)
  | none :: _ => .ret (.error .Windows)
  | some suffix :: rest =>
    let reference := stem ++ "-" ++ suffix
    if !is_valid_secret_reference reference then .ret (.error .InvalidReference)
    else .op (.exist (file_name reference)) fun
      | none => .ret (.error .Io)
      | some true => put_new_attempts temporary stem secret sealed rest
      | some false => (put temporary reference secret sealed).map (fun result => result.map (fun _ => reference))

def put_new (temporary stem : String) (secret : Bytes) (sealed : Option Bytes) (suffixes : List (Option String)) :
    FileProg String UInt8 (Except Error String) :=
  if !is_valid_secret_reference stem then .ret (.error .InvalidReference)
  else put_new_attempts temporary stem secret sealed (suffixes.take REFERENCE_GENERATION_ATTEMPTS)

/-! ## Reading and removing -/

/-- What `symlink_metadata` tells of an entry. -/
inductive EntryKind where
  | file
  | directory
  | reparsePoint
  deriving DecidableEq

/-- How the system answers a read: `none` where the metadata cannot be read. -/
structure ReadIo where
  kind : Option EntryKind
  read : Bool
  deriving DecidableEq

section

variable (unprotect_data : Bytes → Option Bytes)

/-- `get`, from the bytes it has read. -/
def decode (contents : Bytes) : Except Error Bytes := do
  rejectIf (contents.length > MAX_PROTECTED_BYTES + FILE_MAGIC.length) .ProtectedDataTooLarge
  rejectIf (!(FILE_MAGIC.isPrefixOf contents) || (contents.drop FILE_MAGIC.length).isEmpty) .InvalidFormat
  let plaintext ← (unprotect_data (contents.drop FILE_MAGIC.length)).elim (.error .Windows) .ok
  rejectIf (plaintext.isEmpty || plaintext.length > MAX_SECRET_BYTES) .InvalidPlaintext
  return plaintext

def get (dir : Directory String UInt8) (reference : String) (io : ReadIo) : Except Error Bytes :=
  if !is_valid_secret_reference reference then .error .InvalidReference
  else match (dir (file_name reference)).contents, io.kind with
    | none, _ => .error .NotFound
    | some _, none => .error .Io
    | some _, some .directory | some _, some .reparsePoint => .error .UnexpectedStoreEntry
    | some contents, some .file =>
      if !io.read then .error .Io
      else decode unprotect_data (contents.take (MAX_PROTECTED_BYTES + FILE_MAGIC.length + 1))

end

/-- `remove`: a missing file is removed already. -/
def remove (dir : Directory String UInt8) (reference : String) (answer : Answer) :
    Directory String UInt8 × Except Error Unit :=
  if !is_valid_secret_reference reference then (dir, .error .InvalidReference)
  else match (dir (file_name reference)).contents with
    | none => (dir, .ok ())
    | some _ =>
      match (FileOp.remove (file_name reference)).apply dir answer with
      | (dir, none) => (dir, .error .Io)
      | (dir, some _) => (dir, .ok ())

/-! ## Names -/

theorem file_name_inj {a b : String} (h : file_name a = file_name b) : a = b := by
  have hlist := congrArg String.toList h
  simp only [file_name, String.toList_append, List.append_assoc] at hlist
  exact String.toList_inj.1 (List.append_cancel_right hlist)

/-- `is_internal_temporary_name`: `.tmp-`, digits, a dash and digits. -/
def is_internal_temporary_name (name : String) : Bool :=
  if !".tmp-".toList.isPrefixOf name.toList then false
  else
    let suffix := name.toList.drop ".tmp-".toList.length
    match suffix.takeWhile (· != '-'), suffix.dropWhile (· != '-') with
    | _, [] => false
    | process, _ :: counter =>
      !process.isEmpty && !counter.isEmpty && process.all Char.isDigit && counter.all Char.isDigit

def Temporary (name : String) : Prop := is_internal_temporary_name name = true

/-- The temporary files of every process are known by their names. -/
theorem temporary_name_temporary (process n : Nat) : Temporary (temporary_name process n) := by
  have hlist : (temporary_name process n).toList = ".tmp-".toList ++ ((toString process).toList ++ '-' :: (toString n).toList) := by
    simp [temporary_name, numbered]
  have hdash : ∀ c ∈ (toString process).toList, (c != '-') = true := by
    intro c hc
    rw [bne_iff_ne]
    rintro rfl
    exact dash_not_mem_toString process hc
  unfold Temporary is_internal_temporary_name
  rw [hlist]
  simp only [List.drop_left, List.takeWhile_append_of_pos hdash, List.dropWhile_append_of_pos hdash]
  have hdigits (k : Nat) : ∀ c ∈ Nat.toDigits 10 k, c.isDigit = true :=
    fun c hc => Nat.isDigit_of_mem_toDigits (by decide) (by decide) hc
  simpa using ⟨hdigits process, hdigits n⟩

/-- A reference has no dot, so no file of a secret is a temporary one. -/
theorem file_name_not_temporary {reference : String} (h : is_valid_secret_reference reference = true) :
    ¬ Temporary (file_name reference) := by
  simp only [is_valid_secret_reference, Bool.and_eq_true, Bool.not_eq_true', Text.is_empty, beq_eq_false_iff_ne] at h
  obtain ⟨⟨hne, -⟩, hall⟩ := h
  cases hchars : reference.toList with
  | nil => exact absurd (String.toList_inj.1 (hchars.trans rfl)) hne
  | cons c rest =>
    rw [hchars] at hall
    have hdot : c ≠ '.' := by
      rintro rfl
      simp at hall
    have hlist : (file_name reference).toList = c :: (rest ++ ".credential".toList) := by
      simp [file_name, FILE_EXTENSION, hchars]
    have hstart : ".tmp-".toList.isPrefixOf (file_name reference).toList = false := by
      rw [hlist]
      simp [List.isPrefixOf, hdot.symm]
    simp only [Temporary, is_internal_temporary_name, hstart]
    simp

/-! ## What a write leaves -/

/-- What `write_atomically` promises: success means that the file is in place. An error does not mean that it is not. -/
def Written (moved : Bool) (result : Except Error Unit) : Prop :=
  match result with
  | .ok () => moved = true
  | .error error => error.abstract = .Io

theorem discard_replaces {job : Job String UInt8} {moved : Bool} {known : Option (Entry UInt8)} {error : Error}
    (h : error.abstract = .Io) : (discard job.temporary error).Replaces Written job moved known := by
  have hpost : Written moved (.error error) := h
  exact FileProg.abandon_replaces hpost known

theorem write_replaces (job : Job String UInt8) {reference : String} (h : job.target = file_name reference) :
    (write_atomically job.temporary reference job.contents).Replaces Written job false none := by
  refine ⟨rfl, ⟨rfl, [], false, rfl, ⟨rfl, _, false, rfl, ?_, discard_replaces rfl⟩, fun written => discard_replaces rfl⟩,
    discard_replaces rfl⟩
  rintro (_ | answer)
  · exact discard_replaces rfl
  · refine ⟨rfl, h.symm, by rw [List.nil_append], ?_, discard_replaces rfl⟩
    rintro (_ | answer)
    · exact (rfl : Error.Windows.abstract = .Io)
    · exact (rfl : true = true)

/-- A secret as the system has sealed it. -/
structure Seals (unprotect_data : Bytes → Option Bytes) (secret blob : Bytes) : Prop where
  opens : unprotect_data blob = some secret
  nonempty : blob ≠ []

instance (unprotect_data : Bytes → Option Bytes) (secret blob : Bytes) : Decidable (Seals unprotect_data secret blob) :=
  decidable_of_iff (unprotect_data blob = some secret ∧ blob ≠ [])
    ⟨fun ⟨opens, nonempty⟩ => ⟨opens, nonempty⟩, fun h => ⟨h.opens, h.nonempty⟩⟩

/-- What is written is read back. -/
theorem decode_sealed {unprotect_data : Bytes → Option Bytes} {secret blob : Bytes} (h : Seals unprotect_data secret blob)
    (hfits : blob.length ≤ MAX_PROTECTED_BYTES) (hne : secret ≠ []) (hlen : secret.length ≤ MAX_SECRET_BYTES) :
    decode unprotect_data (FILE_MAGIC ++ blob) = .ok secret := by
  have hsize : (FILE_MAGIC ++ blob).length ≤ MAX_PROTECTED_BYTES + FILE_MAGIC.length := by
    rw [List.length_append]
    omega
  simp only [decode, rejectIf_eq_ok, bind_eq_ok, pure_eq_ok, List.drop_left]
  refine ⟨(), by simpa using hsize, (), by simpa using h.nonempty, secret, by rw [h.opens]; rfl, (), ?_, rfl⟩
  simpa [hne] using hlen

/-! ## The map from references to secrets -/

section

variable (unprotect_data : Bytes → Option Bytes)

/-- A file as the map of secrets holds it. -/
def view (contents : Bytes) : StoredFile Bytes :=
  match decode unprotect_data (contents.take (MAX_PROTECTED_BYTES + FILE_MAGIC.length + 1)) with
  | .ok secret => .contents secret
  | .error .ProtectedDataTooLarge => .oversized
  | .error .InvalidFormat => .malformed
  | .error _ => .unreadable

/-- The files of the directory hold the secrets of the map. -/
def Represents (dir : Directory String UInt8) (store : CredentialStore) : Prop :=
  ∀ reference, is_valid_secret_reference reference = true →
    store.get? reference = (dir (file_name reference)).contents.map (view unprotect_data)

/-- A call on the store. -/
inductive Call where
  | put (reference : String) (secret : Bytes)
  | put_new (stem : String) (secret : Bytes)
  | get (reference : String)
  | remove (reference : String)
  deriving DecidableEq

/-- What a call returns. -/
inductive Reply (ε : Type) where
  | done (result : Except ε Unit)
  | stored (result : Except ε String)
  | secret (result : Except ε Bytes)
  deriving DecidableEq

def Reply.abstract : Reply Error → Reply CredentialStoreError
  | .done result => .done (result.mapError Error.abstract)
  | .stored result => .stored (result.mapError Error.abstract)
  | .secret result => .secret (result.mapError Error.abstract)

/-- What the operating system does in a call. -/
structure CallIo where
  process : Nat := 1
  number : Nat := 1
  sealed : Option Bytes := none
  suffixes : List (Option String) := []
  answers : List Answer := []
  read : ReadIo := ⟨some .file, true⟩

/-- A call on the files. -/
def perform (dir : Directory String UInt8) (io : CallIo) : Call → Directory String UInt8 × Reply Error
  | .put reference secret =>
    let (dir, result) := (put (temporary_name io.process io.number) reference secret io.sealed).run dir io.answers
    (dir, .done result)
  | .put_new stem secret =>
    let (dir, result) := (put_new (temporary_name io.process io.number) stem secret io.sealed io.suffixes).run dir io.answers
    (dir, .stored result)
  | .get reference => (dir, .secret (get unprotect_data dir reference io.read))
  | .remove reference =>
    let (dir, result) := remove dir reference (io.answers.headD ⟨true, 0⟩)
    (dir, .done result)

/-- How `write_atomically` ends, on a temporary name that is `free` or not: the file is created, written, synced,
given its access list and moved into place, and last the access list is set again. -/
def written (free : Bool) (answers : List Answer) : CredentialWrite :=
  let ok (i : Nat) := (answers.getD i ⟨true, 0⟩).ok
  if free && ok 0 && ok 1 && ok 2 && ok 3 && ok 4 then if ok 5 then .stored else .storedUnprotected
  else .refused .Io

/-- How the write of a `put` ends that has passed its checks. -/
def put_outcome (sealed : Option Bytes) (free : Bool) (answers : List Answer) : CredentialWrite :=
  match sealed with
  | none => .refused .Io
  | some blob => if blob.length > MAX_PROTECTED_BYTES then .refused .ProtectedDataTooLarge else written free answers

/-- What the attempts of `put_new` come to. Each asks first whether its file exists. -/
def put_new_outcome (sealed : Option Bytes) (free : Bool) (store : CredentialStore) (stem : String) :
    List (Option String) → List Answer → PutNewIo
  | [], answers => ⟨[], put_outcome sealed free answers⟩
  | none :: _, answers => ⟨[.error .Io], put_outcome sealed free answers⟩
  | some suffix :: rest, answers =>
    let reference := stem ++ "-" ++ suffix
    if !is_valid_secret_reference reference then ⟨[.ok suffix], put_outcome sealed free answers⟩
    else if !(answers.headD ⟨true, 0⟩).ok then ⟨[.error .Io], put_outcome sealed free answers⟩
    else if store.contains reference then
      let next := put_new_outcome sealed free store stem rest answers.tail
      ⟨.ok suffix :: next.draws, next.write⟩
    else ⟨[.ok suffix], put_outcome sealed free answers.tail⟩

/-- The same call on the map, where the operating system does the same. -/
def storeCall (store : CredentialStore) (io : CallIo) (free : Bool) : Call → CredentialStore × Reply CredentialStoreError
  | .put reference secret =>
    let (store, result) := store.put reference secret (put_outcome io.sealed free io.answers)
    (store, .done result)
  | .put_new stem secret =>
    let (store, result) := store.put_new stem secret (put_new_outcome io.sealed free store stem io.suffixes io.answers)
    (store, .stored result)
  | .get reference =>
    let found := is_valid_secret_reference reference && store.contains reference
    (store, .secret (if found && io.read != ⟨some .file, true⟩ then .error .Io else store.get reference))
  | .remove reference =>
    let ok := (io.answers.headD ⟨true, 0⟩).ok
    (CredentialStore.remove_all (fun _ => ok) store [reference],
      .done (if !is_valid_secret_reference reference then .error .InvalidReference
        else if store.contains reference && !ok then .error .Io
        else .ok ()))

/-- The data protection of the call seals the secret it is given, when it does not fail. -/
def CallIo.Seals (io : CallIo) : Call → Prop
  | .put _ secret | .put_new _ secret => ∀ blob, io.sealed = some blob → CredentialFiles.Seals unprotect_data secret blob
  | .get _ | .remove _ => True

end

section

variable {unprotect_data : Bytes → Option Bytes} {dir : Directory String UInt8} {store : CredentialStore}

theorem Represents.contains (h : Represents unprotect_data dir store) {reference : String}
    (hvalid : is_valid_secret_reference reference = true) :
    store.contains reference = (dir (file_name reference)).contents.isSome := by
  rw [BTreeMap.contains, h reference hvalid, Option.isSome_map]

/-- What is written under a reference, and nothing else, changes in the map. -/
theorem Represents.written (h : Represents unprotect_data dir store) {dir' : Directory String UInt8} {reference : String}
    {contents : Bytes}
    (hdir : ∀ name, ¬ Temporary name → dir' name = if name = file_name reference then ⟨some contents, true⟩ else dir name) :
    Represents unprotect_data dir' (store.insert reference (view unprotect_data contents)) := by
  intro other hother
  rw [hdir _ (file_name_not_temporary hother), BTreeMap.get?_insert]
  by_cases heq : other = reference
  · simp [heq]
  · have hname : file_name other ≠ file_name reference := fun hsame => heq (file_name_inj hsame)
    simp [heq, hname, h other hother]

theorem Represents.erased (h : Represents unprotect_data dir store) {dir' : Directory String UInt8} {reference : String}
    (hgone : (dir' (file_name reference)).contents = none)
    (hdir : ∀ name, name ≠ file_name reference → dir' name = dir name) :
    Represents unprotect_data dir' (store.erase reference) := by
  intro other hother
  rw [BTreeMap.get?_erase]
  by_cases heq : other = reference
  · simp [heq, hgone]
  · rw [if_neg heq, hdir _ fun hsame => heq (file_name_inj hsame)]
    exact h other hother

theorem Represents.unchanged (h : Represents unprotect_data dir store) {dir' : Directory String UInt8}
    (hdir : ∀ name, ¬ Temporary name → dir' name = dir name) : Represents unprotect_data dir' store := by
  intro reference hvalid
  rw [hdir _ (file_name_not_temporary hvalid)]
  exact h reference hvalid

theorem decode_error {contents : Bytes} {error : Error} (h : decode unprotect_data contents = .error error) :
    error = .ProtectedDataTooLarge ∨ error = .InvalidFormat ∨ error = .Windows ∨ error = .InvalidPlaintext := by
  unfold decode at h
  rcases bind_eq_error_iff.1 h with h | ⟨_, -, h⟩
  · exact .inl (rejectIf_eq_error.1 h).2
  rcases bind_eq_error_iff.1 h with h | ⟨_, -, h⟩
  · exact .inr (.inl (rejectIf_eq_error.1 h).2)
  rcases bind_eq_error_iff.1 h with h | ⟨plaintext, -, h⟩
  · cases hopened : unprotect_data (contents.drop FILE_MAGIC.length) with
    | none =>
      rw [hopened] at h
      exact .inr (.inr (.inl (Except.error.inj h).symm))
    | some plaintext =>
      rw [hopened] at h
      cases h
  rcases bind_eq_error_iff.1 h with h | ⟨_, -, h⟩
  · exact .inr (.inr (.inr (rejectIf_eq_error.1 h).2))
  · cases h

/-- `get` returns what the map holds. -/
theorem get_refines (h : Represents unprotect_data dir store) (reference : String) (io : CallIo) (free : Bool) :
    .secret ((get unprotect_data dir reference io.read).mapError Error.abstract) = (storeCall store io free (.get reference)).2 := by
  simp only [storeCall, get, CredentialStore.get, Reply.secret.injEq]
  cases hvalid : is_valid_secret_reference reference with
  | false => rfl
  | true =>
    rw [h.contains hvalid, h reference hvalid]
    cases (dir (file_name reference)).contents with
    | none => rfl
    | some contents =>
      rcases io.read with ⟨_ | _ | _, _ | _⟩
      any_goals rfl
      simp only [Option.map_some, view]
      cases hdecoded : decode unprotect_data (contents.take (MAX_PROTECTED_BYTES + FILE_MAGIC.length + 1)) with
      | ok secret => rfl
      | error error => rcases decode_error hdecoded with rfl | rfl | rfl | rfl <;> rfl

/-- What a write leaves of a directory. -/
structure Wrote (dir : Directory String UInt8) (temporary reference : String) (contents : Bytes) (write : CredentialWrite)
    (after : Directory String UInt8 × Except Error Unit) : Prop where
  result : after.2.mapError Error.abstract = write.result
  files : ∀ name, name ≠ temporary → after.1 name =
    if write.in_place = true ∧ name = file_name reference then ⟨some contents, true⟩ else dir name

theorem Wrote.discarded {dir' : Directory String UInt8} {temporary : String} (reference : String) (contents : Bytes) {error : Error}
    (herror : error.abstract = .Io) (hdir : ∀ name, name ≠ temporary → dir' name = dir name) (answers : List Answer) :
    Wrote dir temporary reference contents (.refused .Io) ((discard temporary error).run dir' answers) := by
  refine ⟨congrArg Except.error herror, fun name hname => ?_⟩
  simp only [discard, FileProg.abandon, FileProg.run, FileOp.apply]
  split
  · simp [hname, hdir, CredentialWrite.in_place]
  · simp [hname, hdir, CredentialWrite.in_place]

theorem headD_eq_getD (answers : List Answer) : answers.headD ⟨true, 0⟩ = answers.getD 0 ⟨true, 0⟩ := by
  cases answers <;> rfl

theorem getD_tail (answers : List Answer) (i : Nat) : answers.tail.getD i ⟨true, 0⟩ = answers.getD (i + 1) ⟨true, 0⟩ := by
  cases answers <;> rfl

/-- A write, whatever fails on its way. -/
theorem write_run (temporary reference : String) (contents : Bytes) (dir : Directory String UInt8) (answers : List Answer) :
    Wrote dir temporary reference contents (written (dir temporary).contents.isNone answers)
      ((write_atomically temporary reference contents).run dir answers) := by
  have hframe (entry : Entry UInt8) (name : String) (hname : name ≠ temporary) :
      Function.update dir temporary entry name = dir name := Function.update_of_ne hname _ _
  -- one case an operation: where it fails the temporary file is discarded, and the files are those of before
  simp only [written, write_atomically, FileProg.run, FileOp.apply, headD_eq_getD, Bool.and_comm (answers.getD 0 ⟨true, 0⟩).ok]
  cases (dir temporary).contents.isNone && (answers.getD 0 ⟨true, 0⟩).ok with
  | false => exact .discarded reference contents rfl (fun _ _ => rfl) _
  | true =>
    simp only [if_true, Bool.true_and, FileProg.run, FileOp.apply, headD_eq_getD, getD_tail, Function.update_self,
      Function.update_idem, Option.map_some, List.nil_append]
    cases (answers.getD 1 ⟨true, 0⟩).ok with
    | false => exact .discarded reference contents rfl (hframe _) _
    | true =>
      simp only [if_true, Bool.true_and, FileProg.run, FileOp.apply, headD_eq_getD, getD_tail, Function.update_self,
        Function.update_idem]
      cases (answers.getD 2 ⟨true, 0⟩).ok with
      | false => exact .discarded reference contents rfl (hframe _) _
      | true =>
        simp only [if_true, Bool.true_and, FileProg.run, FileOp.apply, headD_eq_getD, getD_tail]
        cases (answers.getD 3 ⟨true, 0⟩).ok with
        | false => exact .discarded reference contents rfl (hframe _) _
        | true =>
          simp only [if_true, Bool.true_and, FileProg.run, FileOp.apply, headD_eq_getD, getD_tail, Function.update_self]
          cases (answers.getD 4 ⟨true, 0⟩).ok with
          | false => exact .discarded reference contents rfl (hframe _) _
          | true =>
            have hfiles (name : String) (hname : name ≠ temporary) : Function.update (Function.update
                (Function.update dir temporary ⟨some contents, true⟩) (file_name reference) ⟨some contents, true⟩)
                temporary ⟨none, true⟩ name =
                if true = true ∧ name = file_name reference then ⟨some contents, true⟩ else dir name := by
              simp [Function.update_apply, hname]
            simp only [if_true, Bool.true_and, FileProg.run, FileOp.apply, headD_eq_getD, getD_tail, Option.isSome_some, Nat.reduceAdd]
            by_cases hprotected : (answers.getD 5 ⟨true, 0⟩).ok = true
            · rw [if_pos hprotected, if_pos hprotected]
              exact ⟨rfl, hfiles⟩
            · rw [if_neg hprotected, if_neg hprotected]
              exact ⟨rfl, hfiles⟩

/-- The checks of `put` are those of the map, and after them a sealed secret is written. -/
theorem put_contents_cases (reference : String) (secret : Bytes) {sealed : Option Bytes}
    (hsealed : ∀ blob, sealed = some blob → Seals unprotect_data secret blob) (store : CredentialStore) :
    (∃ error, put_contents reference secret sealed = .error error ∧
      ∀ free answers, store.put reference secret (put_outcome sealed free answers) = (store, .error error.abstract)) ∨
    ∃ blob, put_contents reference secret sealed = .ok (FILE_MAGIC ++ blob) ∧
      is_valid_secret_reference reference = true ∧ decode unprotect_data (FILE_MAGIC ++ blob) = .ok secret ∧
      ∀ free answers, store.put reference secret (put_outcome sealed free answers) =
        (if (written free answers).in_place then store.insert reference (.contents secret) else store,
          (written free answers).result) := by
  unfold put_contents CredentialStore.put put_outcome
  cases hvalid : is_valid_secret_reference reference with
  | false => exact .inl ⟨.InvalidReference, rfl, fun _ _ => rfl⟩
  | true =>
    cases hempty : secret.isEmpty with
    | true => exact .inl ⟨.EmptySecret, rfl, fun _ _ => rfl⟩
    | false =>
      by_cases hlong : secret.length > MAX_SECRET_BYTES
      · exact .inl ⟨.SecretTooLarge, by simp [rejectIf, hlong, bind, Except.bind], by simp [hlong, Error.abstract]⟩
      · cases sealed with
        | none => exact .inl ⟨.Windows, by simp [rejectIf, hlong, bind, Except.bind],
            fun _ _ => by simp [hlong, Error.abstract, CredentialWrite.in_place, CredentialWrite.result]⟩
        | some blob =>
          by_cases hfits : blob.length > MAX_PROTECTED_BYTES
          · exact .inl ⟨.ProtectedDataTooLarge, by simp [rejectIf, hlong, hfits, bind, Except.bind],
              fun _ _ => by simp [hlong, hfits, Error.abstract, CredentialWrite.in_place, CredentialWrite.result]⟩
          · have hne : secret ≠ [] := by simpa using hempty
            refine .inr ⟨blob, by simp [rejectIf, hlong, hfits, bind, Except.bind, pure, Except.pure], rfl,
              decode_sealed (hsealed blob rfl) (Nat.not_lt.1 hfits) hne (Nat.not_lt.1 hlong), fun free answers => ?_⟩
            simp only [hlong, hfits, if_false, Bool.not_true, Bool.false_eq_true]

/-- A sealed secret is what the map holds. -/
theorem view_sealed {blob secret : Bytes} (h : decode unprotect_data (FILE_MAGIC ++ blob) = .ok secret) :
    view unprotect_data (FILE_MAGIC ++ blob) = .contents secret := by
  have hlen : (FILE_MAGIC ++ blob).length ≤ MAX_PROTECTED_BYTES + FILE_MAGIC.length := by
    simp only [decode, bind_eq_ok, rejectIf_eq_ok, decide_eq_false_iff_not, Nat.not_lt] at h
    obtain ⟨_, hsize, -⟩ := h
    exact hsize
  rw [view, List.take_of_length_le (Nat.le_succ_of_le hlen), h]

/-- `put` does to the files what it does to the map. -/
theorem put_refines (h : Represents unprotect_data dir store) (reference : String) (secret : Bytes) (io : CallIo)
    (hsealed : ∀ blob, io.sealed = some blob → Seals unprotect_data secret blob) (answers : List Answer) :
    let temporary := temporary_name io.process io.number
    let after := (put temporary reference secret io.sealed).run dir answers
    let stored := store.put reference secret (put_outcome io.sealed (dir temporary).contents.isNone answers)
    after.2.mapError Error.abstract = stored.2 ∧ Represents unprotect_data after.1 stored.1 := by
  intro temporary
  rcases put_contents_cases reference secret hsealed store with ⟨error, hcontents, hput⟩ | ⟨blob, hcontents, -, hdecode, hput⟩
  · simp only [put, hcontents, hput]
    exact ⟨rfl, h⟩
  · simp only [put, hcontents, hput]
    obtain ⟨hresult, hfiles⟩ := write_run temporary reference (FILE_MAGIC ++ blob) dir answers
    refine ⟨hresult, ?_⟩
    have hfiles (name : String) (hname : ¬ Temporary name) := hfiles name fun heq => hname (heq ▸ temporary_name_temporary _ _)
    cases hplace : (written (dir temporary).contents.isNone answers).in_place with
    | false => exact h.unchanged (by simpa [hplace] using hfiles)
    | true =>
      rw [if_pos rfl, ← view_sealed hdecode]
      exact h.written (by simpa [hplace] using hfiles)

theorem put_new_attempts_refines (h : Represents unprotect_data dir store) (stem : String) (secret : Bytes) (io : CallIo)
    (hsealed : ∀ blob, io.sealed = some blob → Seals unprotect_data secret blob) (n : Nat) (suffixes : List (Option String))
    (answers : List Answer) :
    let temporary := temporary_name io.process io.number
    let given := put_new_outcome io.sealed (dir temporary).contents.isNone store stem suffixes answers
    let after := (put_new_attempts temporary stem secret io.sealed (suffixes.take n)).run dir answers
    let stored := store.put_new_attempts stem secret given.write (given.draws.take n)
    after.2.mapError Error.abstract = stored.2 ∧ Represents unprotect_data after.1 stored.1 := by
  intro temporary
  induction suffixes generalizing answers n with
  | nil =>
    rw [List.take_nil]
    simp only [put_new_outcome, List.take_nil]
    exact ⟨rfl, h⟩
  | cons suffix rest ih =>
    cases n with
    | zero => exact ⟨rfl, h⟩
    | succ n =>
      rcases suffix with _ | suffix
      · exact ⟨rfl, h⟩
      · simp only [List.take_succ_cons, put_new_attempts, put_new_outcome]
        cases hvalid : is_valid_secret_reference (stem ++ "-" ++ suffix) with
        | false =>
          simp only [Bool.not_false, if_true, List.take_succ_cons, CredentialStore.put_new_attempts, hvalid]
          exact ⟨rfl, h⟩
        | true =>
          simp only [Bool.not_true, Bool.false_eq_true, if_false, FileProg.run, FileOp.apply, h.contains hvalid]
          by_cases hok : (answers.headD ⟨true, 0⟩).ok = true
          · simp only [hok, if_true, Bool.not_true, Bool.false_eq_true, if_false]
            cases hused : (dir (file_name (stem ++ "-" ++ suffix))).contents with
            | some contents =>
              simp only [Option.isSome_some, if_true, List.take_succ_cons, CredentialStore.put_new_attempts, hvalid,
                h.contains hvalid, hused, Bool.not_true, Bool.false_eq_true, if_false]
              exact ih n answers.tail
            | none =>
              simp only [Option.isSome_none, List.take_succ_cons, CredentialStore.put_new_attempts, hvalid,
                h.contains hvalid, hused, Bool.not_true, Bool.false_eq_true, if_false, FileProg.run_map]
              obtain ⟨hresult, hafter⟩ := put_refines h (stem ++ "-" ++ suffix) secret io hsealed answers.tail
              refine ⟨?_, hafter⟩
              rw [← hresult]
              cases ((put temporary (stem ++ "-" ++ suffix) secret io.sealed).run dir answers.tail).2 with
              | ok stored => rfl
              | error error => rfl
          · simp only [hok]
            exact ⟨rfl, h⟩

theorem remove_refines (h : Represents unprotect_data dir store) (reference : String) (io : CallIo) (free : Bool) :
    let after := remove dir reference (io.answers.headD ⟨true, 0⟩)
    let stored := storeCall store io free (.remove reference)
    .done (after.2.mapError Error.abstract) = stored.2 ∧ Represents unprotect_data after.1 stored.1 := by
  simp only [storeCall, remove, CredentialStore.remove_all, List.foldl_cons, List.foldl_nil]
  cases hvalid : is_valid_secret_reference reference with
  | false => exact ⟨rfl, h⟩
  | true =>
    rw [h.contains hvalid]
    cases hfile : (dir (file_name reference)).contents with
    | none =>
      refine ⟨rfl, ?_⟩
      have herased := h.erased hfile fun _ _ => rfl
      cases (io.answers.headD ⟨true, 0⟩).ok with
      | true => exact herased
      | false => exact h
    | some contents =>
      simp only [FileOp.apply, hfile]
      cases (io.answers.headD ⟨true, 0⟩).ok with
      | false => exact ⟨rfl, h⟩
      | true => exact ⟨rfl, h.erased (by simp) fun name hname => by simp [hname]⟩

theorem perform_refines (h : Represents unprotect_data dir store) (call : Call) {io : CallIo}
    (hio : io.Seals unprotect_data call) :
    let after := perform unprotect_data dir io call
    let stored := storeCall store io (dir (temporary_name io.process io.number)).contents.isNone call
    after.2.abstract = stored.2 ∧ Represents unprotect_data after.1 stored.1 := by
  cases call with
  | put reference secret =>
    obtain ⟨hresult, hafter⟩ := put_refines h reference secret io hio io.answers
    exact ⟨congrArg Reply.done hresult, hafter⟩
  | put_new stem secret =>
    simp only [perform, storeCall, Reply.abstract, put_new, CredentialStore.put_new]
    split
    · exact ⟨rfl, h⟩
    · obtain ⟨hresult, hafter⟩ := put_new_attempts_refines h stem secret io hio REFERENCE_GENERATION_ATTEMPTS io.suffixes io.answers
      exact ⟨congrArg Reply.stored hresult, hafter⟩
  | get reference => exact ⟨get_refines h reference io _, h⟩
  | remove reference => exact remove_refines h reference io _

end

/-- Calls on the files, one after the other. -/
def performAll (unprotect_data : Bytes → Option Bytes) : Directory String UInt8 → List (Call × CallIo) →
    Directory String UInt8 × List (Reply Error)
  | dir, [] => (dir, [])
  | dir, (call, io) :: rest =>
    let (dir, reply) := perform unprotect_data dir io call
    let (dir, replies) := performAll unprotect_data dir rest
    (dir, reply :: replies)

/-- The calls, and whether the temporary name of each is free when it is made. -/
def observed (unprotect_data : Bytes → Option Bytes) : Directory String UInt8 → List (Call × CallIo) → List (Call × CallIo × Bool)
  | _, [] => []
  | dir, (call, io) :: rest =>
    (call, io, (dir (temporary_name io.process io.number)).contents.isNone) ::
      observed unprotect_data (perform unprotect_data dir io call).1 rest

/-- Calls on the map, one after the other. -/
def storeAll : CredentialStore → List (Call × CallIo × Bool) → CredentialStore × List (Reply CredentialStoreError)
  | store, [] => (store, [])
  | store, (call, io, free) :: rest =>
    let (store, reply) := storeCall store io free call
    let (store, replies) := storeAll store rest
    (store, reply :: replies)

/-- Whatever the operating system does, calls on the files return what the same calls on the map of secrets
return, and leave files that hold the secrets of the map. -/
theorem calls_refine_store {unprotect_data : Bytes → Option Bytes} {dir : Directory String UInt8} {store : CredentialStore}
    (h : Represents unprotect_data dir store) {calls : List (Call × CallIo)}
    (hseals : ∀ call ∈ calls, call.2.Seals unprotect_data call.1) :
    (performAll unprotect_data dir calls).2.map Reply.abstract = (storeAll store (observed unprotect_data dir calls)).2 ∧
      Represents unprotect_data (performAll unprotect_data dir calls).1 (storeAll store (observed unprotect_data dir calls)).1 := by
  induction calls generalizing dir store with
  | nil => exact ⟨rfl, h⟩
  | cons call calls ih =>
    obtain ⟨call, io⟩ := call
    obtain ⟨hio, hrest⟩ := List.forall_mem_cons.1 hseals
    obtain ⟨hreply, hnext⟩ := perform_refines h call hio
    obtain ⟨hreplies, hafter⟩ := ih hnext hrest
    exact ⟨congrArg₂ List.cons hreply hreplies, hafter⟩

/-- A secret stored in an empty directory and read back, under a data protection that seals nothing; then a
write whose access list cannot be set, and one whose file cannot be moved. -/
theorem calls_refine_store_put_get :
    let calls : List (Call × CallIo) := [(.put "token" [7], { sealed := some [7] }), (.get "token", {}),
      (.put "token" [8], { number := 2, sealed := some [8], answers := List.replicate 5 ⟨true, 0⟩ ++ [⟨false, 0⟩] }),
      (.put "token" [9], { number := 3, sealed := some [9], answers := List.replicate 4 ⟨true, 0⟩ ++ [⟨false, 0⟩] }),
      (.get "token", {})]
    let performed := performAll some (fun _ => ⟨none, true⟩) calls
    let stored := storeAll ∅ (observed some (fun _ => ⟨none, true⟩) calls)
    stored.2 = [.done (.ok ()), .secret (.ok [7]), .done (.error .Io), .done (.error .Io), .secret (.ok [8])] ∧
      performed.2.map Reply.abstract = stored.2 ∧ Represents some performed.1 stored.1 := by
  refine ⟨by decide, calls_refine_store (fun _ _ => rfl) ?_⟩
  have hseals (secret : Bytes) (hne : secret ≠ []) (blob : Bytes) (hblob : some secret = some blob) : Seals some secret blob := by
    cases hblob
    exact ⟨rfl, hne⟩
  simp only [List.forall_mem_cons, CallIo.Seals]
  exact ⟨hseals _ (by simp), trivial, hseals _ (by simp), hseals _ (by simp), trivial, by simp⟩

/-! ## Opening the store, threads and crashes -/

/-- A call that changes no file, and ends the function with `error` when it fails. -/
def call (error : Error) (next : FileProg String UInt8 (Except Error Unit)) : FileProg String UInt8 (Except Error Unit) :=
  .op .other fun
    | none => .ret (.error error)
    | some _ => next

/-- The loop of `open` over the entries of the directory: the next entry is asked for, then its metadata. -/
def open_entries : List (String × EntryKind) → FileProg String UInt8 (Except Error Unit)
  | [] => call .Io (.ret (.ok ()))
  | (name, kind) :: rest => call .Io (call .Io (
    if kind = .file && is_internal_temporary_name name then
      .op (.remove name) fun
        | none => .ret (.error .Io)
        | some _ => open_entries rest
    else if kind ≠ .file then .ret (.error .UnexpectedStoreEntry)
    else call .Windows (open_entries rest)))

/-- `open`: make the directory, refuse one that is no plain directory, set its access list, look at each entry. -/
def open_store (root : EntryKind) (entries : List (String × EntryKind)) : FileProg String UInt8 (Except Error Unit) :=
  call .Io (call .Io (
    if root ≠ .directory then .ret (.error .UnsafeStoreDirectory)
    else call .Windows (call .Io (open_entries entries))))

/-- What `open` leaves of a directory: it removes temporary files only, and when it succeeds the entries it was
given are plain files with no temporary one among them. -/
structure Opened (entries : List (String × EntryKind)) (dir : Directory String UInt8)
    (after : Directory String UInt8 × Except Error Unit) : Prop where
  kept : ∀ name, ¬ Temporary name → after.1 name = dir name
  absent : ∀ name, (dir name).contents = none → (after.1 name).contents = none
  gone : after.2 = .ok () → ∀ entry ∈ entries, entry.2 = .file ∧ (Temporary entry.1 → (after.1 entry.1).contents = none)

theorem Opened.refused (entries : List (String × EntryKind)) (dir : Directory String UInt8) (error : Error) :
    Opened entries dir (dir, .error error) :=
  ⟨fun _ _ => rfl, fun _ h => h, nofun⟩

theorem Opened.call {entries : List (String × EntryKind)} {dir : Directory String UInt8}
    {next : FileProg String UInt8 (Except Error Unit)} (h : ∀ answers, Opened entries dir (next.run dir answers)) (error : Error)
    (answers : List Answer) : Opened entries dir ((CredentialFiles.call error next).run dir answers) := by
  simp only [CredentialFiles.call, FileProg.run, FileOp.apply]
  cases (answers.headD ⟨true, 0⟩).ok with
  | false => exact .refused _ dir _
  | true => exact h _

theorem open_entries_run (entries : List (String × EntryKind)) (dir : Directory String UInt8) (answers : List Answer) :
    Opened entries dir ((open_entries entries).run dir answers) := by
  induction entries generalizing dir answers with
  | nil => exact .call (fun _ => ⟨fun _ _ => rfl, fun _ h => h, by simp⟩) _ _
  | cons entry rest ih =>
    obtain ⟨name, kind⟩ := entry
    unfold open_entries
    refine .call (.call (fun answers => ?_) _) _ _
    split
    · rename_i htemp
      simp only [Bool.and_eq_true, decide_eq_true_eq] at htemp
      obtain ⟨rfl, htemp⟩ := htemp
      simp only [FileProg.run, FileOp.apply]
      split
      · obtain ⟨hkept, habsent, hgone⟩ := ih (Function.update dir name ⟨none, false⟩) answers.tail
        refine ⟨fun other hother => ?_, fun other hother => habsent other ?_, fun hok => ?_⟩
        · have hne : other ≠ name := fun heq => hother (heq ▸ htemp)
          rw [hkept other hother, Function.update_of_ne hne]
        · rw [Function.update_apply]
          split
          · rfl
          · exact hother
        · exact List.forall_mem_cons.2 ⟨⟨rfl, fun _ => habsent name (by simp)⟩, hgone hok⟩
      · exact .refused _ dir _
    · rename_i hplain
      split
      · exact .refused _ dir _
      · rename_i hfile
        have hfile : kind = .file := by simpa using hfile
        subst hfile
        have hnot : ¬ Temporary name := by simpa [Temporary] using hplain
        refine .call (fun answers => ?_) _ _
        obtain ⟨hkept, habsent, hgone⟩ := ih dir answers
        exact ⟨hkept, habsent, fun hok => List.forall_mem_cons.2 ⟨⟨rfl, fun htemp => absurd htemp hnot⟩, hgone hok⟩⟩

theorem open_store_run (root : EntryKind) (entries : List (String × EntryKind)) (dir : Directory String UInt8)
    (answers : List Answer) : Opened entries dir ((open_store root entries).run dir answers) := by
  refine .call (.call (fun answers => ?_) _) _ _
  split
  · exact .refused _ dir _
  · exact .call (.call (open_entries_run entries dir) _) _ _

/-- The process with the threads that are storing secrets; its counter is `NEXT_TEMP_FILE`. -/
structure Threads where
  process : Process String UInt8 (Except Error Unit)
  /-- Whether this process could open the store. -/
  opened : Bool := true

inductive ThreadStep where
  /-- A thread calls `put`, and `protect_data` returns `sealed`. -/
  | put (reference : String) (secret : Bytes) (sealed : Option Bytes)
  /-- The next operation of a thread inside `write_atomically`. -/
  | act (thread : Nat) (answer : Answer)
  /-- The machine stops, and another process opens the store and finds `entries` in its directory, `root`. -/
  | restart (process : Nat) (lost : String → Option Bytes) (root : EntryKind) (entries : List (String × EntryKind)) (answers : List Answer)

namespace Threads

def init (start : Directory String UInt8) (process : Nat) : Threads := { process := ⟨process, 1, ⟨start, [], []⟩⟩ }

def dir (s : Threads) : Directory String UInt8 := s.process.threads.dir

def step (s : Threads) : ThreadStep → Option Threads
  | .put reference secret sealed =>
    if !s.opened then none
    else match put_contents reference secret sealed with
      | .error _ => some s
      | .ok contents =>
        let process := s.process.spawn temporary_name (file_name reference) contents
          (fun job => write_atomically job.temporary reference job.contents)
        some { s with process }
  | .act thread answer => (s.process.act thread answer).map fun process => { s with process }
  | .restart id lost root entries answers =>
    let crashed := s.process.crash id lost
    let (dir, result) := (open_store root entries).run crashed.threads.dir answers
    some { process := { crashed with threads := { crashed.threads with dir } }, opened := result.isOk }

/-- Data protection seals what it is given, when it does not fail. -/
def Sealing (unprotect_data : Bytes → Option Bytes) (_ : Threads) : ThreadStep → Prop
  | .put _ secret sealed => ∀ blob, sealed = some blob → Seals unprotect_data secret blob
  | .act _ _ | .restart _ _ _ _ _ => True

instance (unprotect_data : Bytes → Option Bytes) (s : Threads) : (l : ThreadStep) → Decidable (s.Sealing unprotect_data l)
  | .put _ _ none => .isTrue nofun
  | .put _ secret (some blob) =>
    decidable_of_iff (Seals unprotect_data secret blob) ⟨fun h _ heq => Option.some.inj heq ▸ h, fun h => h blob rfl⟩
  | .act _ _ | .restart _ _ _ _ _ => .isTrue trivial

/-- The job is a `put` of the run, and its file reads as the secret. -/
def PutOf (unprotect_data : Bytes → Option Bytes) (ls : List ThreadStep) (job : Job String UInt8) : Prop :=
  ∃ reference secret sealed, .put reference secret sealed ∈ ls ∧ job.target = file_name reference ∧
    decode unprotect_data job.contents = .ok secret

/-- What holds along every run. -/
def Ok (unprotect_data : Bytes → Option Bytes) (start : Directory String UInt8) (ls : List ThreadStep) (s : Threads) : Prop :=
  Process.Ok (fun name => name = temporary_name) Written Temporary start (PutOf unprotect_data ls) s.process

theorem Ok.step {unprotect_data : Bytes → Option Bytes} {start : Directory String UInt8}
    (hstart : ∀ name, ¬ Temporary name → (start name).synced = true) {ls : List ThreadStep} {s t : Threads} {l : ThreadStep}
    (h : s.Ok unprotect_data start ls) (hl : s.Sealing unprotect_data l) (ht : s.step l = some t) :
    t.Ok unprotect_data start (ls ++ [l]) := by
  have hmore : s.Ok unprotect_data start (ls ++ [l]) :=
    h.mono fun job ⟨reference, secret, sealed, hmem, hput⟩ =>
      ⟨reference, secret, sealed, List.mem_append_left _ hmem, hput⟩
  cases l with
  | put reference secret sealed =>
    simp only [Threads.step] at ht
    split at ht
    · cases ht
    · rcases put_contents_cases reference secret hl ∅ with ⟨error, hcontents, -⟩ | ⟨blob, hcontents, hvalid, hdecode, -⟩
      · rw [hcontents] at ht
        cases ht
        exact hmore
      · rw [hcontents] at ht
        cases ht
        change Process.Ok _ _ _ _ _ (s.process.spawn temporary_name (file_name reference) (FILE_MAGIC ++ blob)
          (fun job => write_atomically job.temporary reference job.contents))
        refine hmore.spawn ?_ rfl temporary_name_temporary (file_name_not_temporary hvalid)
          (fun temporary => write_replaces ⟨temporary, file_name reference, FILE_MAGIC ++ blob⟩ rfl)
          ⟨reference, secret, sealed, by simp, rfl, hdecode⟩
        rintro _ _ rfl rfl process n n' heq
        exact (numbered_inj heq).2
  | act thread answer =>
    obtain ⟨process, hact, rfl⟩ := Option.map_eq_some_iff.1 ht
    exact hmore.act hact
  | restart id lost root entries answers =>
    cases ht
    have hcrashed := hmore.crash hstart id lost
    have hopened := open_store_run root entries (s.process.crash id lost).threads.dir answers
    exact ⟨hcrashed.threads.cleaned rfl hopened.kept, hcrashed.drawn, hcrashed.jobs⟩

/-- However threads store secrets, whatever fails and wherever crashes come: a reference reads as the last
secret committed under it, every commit is a whole secret that was stored, a thread that reports success has
committed, and a process that could open the store finds no temporary file in it. -/
theorem secrets_survive {unprotect_data : Bytes → Option Bytes} {start : Directory String UInt8}
    (hstart : ∀ name, ¬ Temporary name → (start name).synced = true) {process : Nat} {ls : List ThreadStep} {t : Threads}
    (h : Run Threads.step (Sealing unprotect_data) (init start process) ls t) :
    (∀ reference, is_valid_secret_reference reference = true → (t.dir (file_name reference)).contents =
      (Job.last t.process.threads.committed (file_name reference)).or (start (file_name reference)).contents) ∧
    (∀ job ∈ t.process.threads.committed, PutOf unprotect_data ls job) ∧
    (∀ w ∈ t.process.threads.writers, w.prog = .ret (.ok ()) → w.job ∈ t.process.threads.committed) ∧
    ∀ id lost root entries answers u, t.step (.restart id lost root entries answers) = some u → u.opened = true →
      (∀ name, (t.process.crash id lost).threads.dir name |>.contents.isSome → ∃ kind, (name, kind) ∈ entries) →
      ∀ name, Temporary name → (u.dir name).contents = none := by
  have hok : t.Ok unprotect_data start ls :=
    h.inv_labels (fun ls t => t.Ok unprotect_data start ls) (fun _ _ _ _ hok hl ht => hok.step hstart hl ht)
      (.init process start)
  refine ⟨fun reference hvalid => hok.read (file_name_not_temporary hvalid),
    fun job hjob => hok.jobs job (List.mem_append_right _ hjob), fun w hw hret => ?_, ?_⟩
  · exact hok.threads.moved w hw (hok.threads.returned hw hret)
  · intro id lost root entries answers u hu hopened hlisted name hname
    cases hu
    obtain ⟨-, habsent, hgone⟩ := open_store_run root entries (t.process.crash id lost).threads.dir answers
    cases hfound : ((t.process.crash id lost).threads.dir name).contents with
    | none => exact habsent name hfound
    | some contents =>
      obtain ⟨kind, hentry⟩ := hlisted name (by simp [hfound])
      have hisOk : ((open_store root entries).run (t.process.crash id lost).threads.dir answers).2.isOk = true := hopened
      have hresult : ((open_store root entries).run (t.process.crash id lost).threads.dir answers).2 = .ok () := by
        revert hisOk
        cases ((open_store root entries).run (t.process.crash id lost).threads.dir answers).2 with
        | ok done => exact fun _ => rfl
        | error error => exact fun hisOk => nomatch hisOk
      exact (hgone hresult _ hentry).2 hname

/-- A secret is stored, and a crash cuts off the storing of the next one under the same reference. -/
def interrupted : List ThreadStep :=
  [.put "token" [7] (some [7]), .act 0 ⟨true, 0⟩, .act 0 ⟨true, 0⟩, .act 0 ⟨true, 0⟩, .act 0 ⟨true, 0⟩, .act 0 ⟨true, 0⟩,
    .put "token" [8] (some [8]), .act 1 ⟨true, 0⟩, .act 1 ⟨true, 0⟩,
    .restart 8 (fun _ => none) .directory [("token.credential", .file)] []]

theorem secrets_survive_interrupted :
    ∃ t : Threads, Run Threads.step (Sealing some) (init (fun _ => ⟨none, true⟩) 7) interrupted t ∧
      (t.dir "token.credential").contents = some (FILE_MAGIC ++ [7]) ∧
      ∀ job ∈ t.process.threads.committed, PutOf some interrupted job := by
  have hrun : Run Threads.step (Sealing some) (init (fun _ => ⟨none, true⟩) 7) interrupted _ := .of_isSome (by decide)
  exact ⟨_, hrun, by decide, (secrets_survive (fun _ _ => rfl) hrun).2.1⟩

end Threads

end CredentialFiles

end ResticPal
