import ResticPal.Lib.Directory
import ResticPal.Lib.Runs
import ResticPal.Service.ConfigFile
/-!
# Atomic replacement of the service's files

`atomic_file::replace`, through which `config.toml`, `state.json` and
`managed-policy-cache.json` are written, in the directory they share. Any number
of threads are inside `replace` at once. A crash may come at any time; the service
then starts again with a new process id and its counter at one, and finds the
temporary files the crash has left.
-/

open Lib

namespace ResticPal

open Text (Bytes)

namespace AtomicFile

inductive AtomicFileError where
  | Io
  | Windows
  deriving DecidableEq

def MAX_STATE_BYTES : Nat := 2 * 1024 * 1024

/-- The files written through `replace`. -/
inductive StoreFile where
  | config
  | state
  | policyCache
  deriving DecidableEq

namespace StoreFile

def file_name : StoreFile → String
  | config => "config.toml"
  | state => "state.json"
  | policyCache => "managed-policy-cache.json"

/-- The `label` with which the store calls `replace`. -/
def label : StoreFile → String
  | config => "config"
  | state => "state"
  | policyCache => "managed-policy"

/-- How long the file may be, for its `save` and for its `load`. -/
def limit : StoreFile → Nat
  | config => MAX_CONFIG_BYTES
  | state => MAX_STATE_BYTES
  | policyCache => MAX_CACHE_BYTES

end StoreFile

/-- The name of a temporary file: `.{label}-{process id}-{counter}.tmp`. -/
def temporary_name (label : String) (process : Nat) (n : Nat) : String :=
  numbered ("." ++ label ++ "-" ++ toString process) n ".tmp"

/-- `TemporaryFile::drop`: an error on the way removes the temporary file, and no one asks whether that worked. -/
def discard (temporary : String) (error : AtomicFileError) : FileProg String UInt8 (Except AtomicFileError Unit) :=
  .abandon temporary (.error error)

/-- `replace`, from where its directory exists and it has drawn a number. -/
def replace (temporary path : String) (contents : Bytes) : FileProg String UInt8 (Except AtomicFileError Unit) :=
  .op (.create temporary) fun
    -- The guard is armed before the file is opened: a file left by another process under this name goes too.
    | none => discard temporary .Io
    | some _ => .op (.write temporary contents) fun
      | none => discard temporary .Io
      | some _ => .op (.sync temporary) fun
        | none => discard temporary .Io
        | some _ => .op (.rename temporary path) fun
          | none => discard temporary .Windows
          | some _ => .ret (.ok ())

/-- What `replace` promises: it returns `Ok` when it has renamed its file, and an error when it has not. -/
def Returns (moved : Bool) (result : Except AtomicFileError Unit) : Prop := result = .ok () ↔ moved = true

theorem replace_replaces (job : Job String UInt8) :
    (replace job.temporary job.target job.contents).Replaces Returns job false none := by
  refine ⟨rfl, ⟨rfl, [], false, rfl, ⟨rfl, _, false, rfl, ⟨rfl, rfl, ?_, ?_, ?_⟩, ?_⟩, fun written => ?_⟩, ?_⟩
  · rw [List.nil_append]
  · simp [FileProg.Replaces, Returns]
  all_goals exact FileProg.abandon_replaces (by simp [Returns]) _

/-! ## Saves in any order, and crashes -/

/-- The process with the threads that are saving; its counter is `NEXT_TEMP_FILE`. -/
abbrev Saves := Process String UInt8 (Except AtomicFileError Unit)

inductive SaveStep where
  /-- A thread calls the `save` of a store, and `create_dir_all` succeeds or not. -/
  | save (file : StoreFile) (contents : Bytes) (made : Bool)
  /-- The next operation of a thread inside `replace`. -/
  | act (thread : Nat) (answer : Answer)
  /-- The machine stops, and the service starts again as another process. -/
  | crash (process : Nat) (lost : String → Option Bytes)

namespace Saves

/-- What a reader of the file finds. -/
def read (s : Saves) (file : StoreFile) : Option Bytes := (s.threads.dir file.file_name).contents

def step (s : Saves) : SaveStep → Option Saves
  | .save file contents made =>
    if contents.length > file.limit || !made then some s
    else some (s.spawn (temporary_name file.label) file.file_name contents
      (fun job => replace job.temporary job.target job.contents))
  | .act thread answer => s.act thread answer
  | .crash process lost => some (s.crash process lost)

end Saves

/-- Names `replace` gives to its temporary files. -/
def Temporary (name : String) : Prop := ∃ label process n, name = temporary_name label process n

theorem StoreFile.not_temporary (file : StoreFile) : ¬ Temporary file.file_name := by
  rintro ⟨label, process, n, h⟩
  have hhead := congrArg (·.toList.head?) h
  simp only [temporary_name, numbered, String.toList_append, List.append_assoc] at hhead
  cases file
  all_goals exact absurd hhead (by simp [StoreFile.file_name])

/-- The job is a save of the run, and within the limit of its file. -/
def SaveOf (ls : List SaveStep) (job : Job String UInt8) : Prop :=
  ∃ file, .save file job.contents true ∈ ls ∧ job.target = file.file_name ∧ job.contents.length ≤ file.limit

namespace Saves

/-- What holds along every run. -/
def Ok (start : Directory String UInt8) (ls : List SaveStep) (s : Saves) : Prop :=
  Process.Ok (fun name => ∃ label, name = temporary_name label) Returns Temporary start (SaveOf ls) s

theorem Ok.step {start : Directory String UInt8} (hstart : ∀ name, ¬ Temporary name → (start name).synced = true)
    {ls : List SaveStep} {s t : Saves} {l : SaveStep} (h : s.Ok start ls) (ht : s.step l = some t) : t.Ok start (ls ++ [l]) := by
  have hmore : s.Ok start (ls ++ [l]) :=
    h.mono fun job ⟨file, hmem, hsave⟩ => ⟨file, List.mem_append_left _ hmem, hsave⟩
  cases l with
  | save file contents made =>
    simp only [Saves.step] at ht
    split at ht
    · cases ht
      exact hmore
    · rename_i hok
      simp only [Bool.or_eq_true, Bool.not_eq_true', decide_eq_true_eq, not_or, Bool.not_eq_false, Nat.not_lt] at hok
      obtain ⟨hlimit, rfl⟩ := hok
      cases ht
      refine hmore.spawn ?_ ⟨file.label, rfl⟩ (fun process n => ⟨_, _, _, rfl⟩) file.not_temporary
        (fun _ => replace_replaces _) ⟨file, by simp, rfl, hlimit⟩
      rintro _ _ ⟨label, rfl⟩ ⟨label', rfl⟩ process n n' heq
      exact (numbered_inj heq).2
  | act thread answer => exact hmore.act ht
  | crash process lost =>
    cases ht
    exact hmore.crash hstart process lost

/-- The service before its first save. -/
def init (start : Directory String UInt8) (process : Nat) : Saves := ⟨process, 1, ⟨start, [], []⟩⟩

/-- However saves interleave, whatever fails and wherever crashes come: a file reads as the last save
committed to it, every commit is one whole save that fits the file's limit, and a save that has returned
reports success exactly when it was committed. -/
theorem read_last_committed {start : Directory String UInt8}
    (hstart : ∀ name, ¬ Temporary name → (start name).synced = true) {process : Nat} {ls : List SaveStep} {t : Saves}
    (h : Run Saves.step (fun _ _ => True) (init start process) ls t) :
    (∀ file, t.read file = (Job.last t.threads.committed file.file_name).or (start file.file_name).contents) ∧
    (∀ job ∈ t.threads.committed, SaveOf ls job) ∧
    ∀ w ∈ t.threads.writers, (w.moved = true → w.job ∈ t.threads.committed) ∧
      ∀ result, w.prog = .ret result → (result = .ok () ↔ w.moved = true) := by
  have hok : t.Ok start ls :=
    h.inv_labels (fun ls t => t.Ok start ls) (fun _ _ _ _ hok _ ht => hok.step hstart ht) (.init process start)
  exact ⟨fun file => hok.read file.not_temporary, fun job hjob => hok.jobs job (List.mem_append_right _ hjob),
    fun w hw => ⟨hok.threads.moved w hw, fun result hret => hok.threads.returned hw hret⟩⟩

/-- Two saves of the state that overlap. The first is committed, and the second cut off by a crash. -/
def overlapping : List SaveStep :=
  [.save .state [1] true, .save .state [2] true, .act 0 ⟨true, 0⟩, .act 1 ⟨true, 0⟩, .act 1 ⟨true, 0⟩, .act 0 ⟨true, 0⟩,
    .act 0 ⟨true, 0⟩, .act 0 ⟨true, 0⟩, .crash 8 (fun _ => none)]

theorem read_last_committed_overlapping :
    ∃ t : Saves, Run Saves.step (fun _ _ => True) (init (fun _ => ⟨none, true⟩) 7) overlapping t ∧
      t.read .state = some [1] ∧
      ∀ file, t.read file = (Job.last t.threads.committed file.file_name).or none := by
  have hrun : Run Saves.step (fun _ _ => True) (init (fun _ => ⟨none, true⟩) 7) overlapping _ :=
    .of_isSome (by decide)
  exact ⟨_, hrun, by decide, (read_last_committed (fun _ _ => rfl) hrun).1⟩

end Saves

end AtomicFile

end ResticPal
