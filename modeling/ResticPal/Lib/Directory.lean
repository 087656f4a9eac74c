import Mathlib
import ResticPal.Lib.Journal
/-!
# Files written by several threads, and crashes

A directory holds one entry a name. Code that works on it is a `FileProg`: the
operations it asks for, and what it goes on with for each answer. Threads take
their operations one at a time in any order; the operating system may fail any
of them, and a crash may come between any two. A crash stops every thread, and
keeps an entry only when it was on the disk: what was created, written or
removed and not synced since is then anything.

`Replaces` is the discipline of replacing a file through a temporary one: write
a file of one's own, sync it, rename it over the target. `Writers.Ok` is what
threads that keep it preserve, and says that every other file of the directory
is always what the completed renames, in their order, have made of it.

Trusted: a rename takes effect as a whole and is on the disk when it returns.
-/

namespace Lib

/-- What a name stands for: the bytes of the file, or no file, and whether that is on the disk. -/
structure Entry (β : Type) where
  contents : Option (List β)
  synced : Bool
  deriving DecidableEq

abbrev Directory (N β : Type) := N → Entry β

/-- An operation on files. -/
inductive FileOp (N β : Type) where
  /-- Create a file that does not exist yet. -/
  | create (name : N)
  /-- Add to the end of a file that the thread has created and holds open. -/
  | write (name : N) (bytes : List β)
  | sync (name : N)
  /-- Move a file over another, through to the disk. -/
  | rename (source target : N)
  | remove (name : N)
  | exist (name : N)
  /-- A call that changes no file. -/
  | other

/-- What the operating system does with a call. A write that fails may have written a part. -/
structure Answer where
  ok : Bool
  written : Nat := 0
  deriving DecidableEq

/-- The file operations of a thread, up to the value it returns. The answer to an operation is `none`
when it fails; only `exist` ever answers `some false`. -/
inductive FileProg (N β α : Type) where
  | ret (result : α)
  | op (operation : FileOp N β) (next : Option Bool → FileProg N β α)

/-- Replace `target` by `contents`, through `temporary`. -/
structure Job (N β : Type) where
  temporary : N
  target : N
  contents : List β
  deriving DecidableEq

variable {N β α : Type} [DecidableEq N]

namespace FileOp

def apply (dir : Directory N β) (answer : Answer) : FileOp N β → Directory N β × Option Bool
  | .create name =>
    if answer.ok && (dir name).contents.isNone then (Function.update dir name ⟨some [], false⟩, some true)
    else (dir, none)
  | .write name bytes =>
    if answer.ok then (Function.update dir name ⟨(dir name).contents.map (· ++ bytes), false⟩, some true)
    else (Function.update dir name ⟨(dir name).contents.map (· ++ bytes.take answer.written), false⟩, none)
  | .sync name =>
    if answer.ok then (Function.update dir name ⟨(dir name).contents, true⟩, some true) else (dir, none)
  | .rename source target =>
    if answer.ok && (dir source).contents.isSome then
      (Function.update (Function.update dir target (dir source)) source ⟨none, true⟩, some true)
    else (dir, none)
  | .remove name =>
    if answer.ok && (dir name).contents.isSome then (Function.update dir name ⟨none, false⟩, some true)
    else (dir, none)
  | .exist name => (dir, if answer.ok then some (dir name).contents.isSome else none)
  | .other => (dir, if answer.ok then some true else none)

/-- The operation is a rename, and it succeeds. -/
def moves (dir : Directory N β) (answer : Answer) : FileOp N β → Bool
  | .rename source _ => answer.ok && (dir source).contents.isSome
  | _ => false

end FileOp

namespace FileProg

/-- The next operation of a thread. -/
def step (dir : Directory N β) (answer : Answer) : FileProg N β α → Directory N β × FileProg N β α
  | .ret result => (dir, .ret result)
  | .op operation next => ((operation.apply dir answer).1, next (operation.apply dir answer).2)

def moves (dir : Directory N β) (answer : Answer) : FileProg N β α → Bool
  | .ret _ => false
  | .op operation _ => operation.moves dir answer

/-- A thread that runs to its end with no other thread between: what it leaves and what it returns. -/
def run (dir : Directory N β) (answers : List Answer) : FileProg N β α → Directory N β × α
  | .ret result => (dir, result)
  | .op operation next =>
    (next (operation.apply dir (answers.headD ⟨true, 0⟩)).2).run (operation.apply dir (answers.headD ⟨true, 0⟩)).1
      answers.tail

/-- The same operations, with another value returned. -/
def map {γ : Type} (f : α → γ) : FileProg N β α → FileProg N β γ
  | .ret result => .ret (f result)
  | .op operation next => .op operation fun answer => (next answer).map f

theorem run_map {γ : Type} (f : α → γ) (dir : Directory N β) (answers : List Answer) (prog : FileProg N β α) :
    (prog.map f).run dir answers = ((prog.run dir answers).1, f (prog.run dir answers).2) := by
  induction prog generalizing dir answers with
  | ret result => rfl
  | op operation next ih => exact ih _ _ _

/-- The program replaces the target of `job` through its temporary file and touches nothing else. `known`
is what it knows its temporary file to be, `moved` whether it has renamed it, and `post` what it must
return in either case. -/
def Replaces (post : Bool → α → Prop) (job : Job N β) (moved : Bool) (known : Option (Entry β)) :
    FileProg N β α → Prop
  | .ret result => post moved result
  | .op operation next =>
    match operation with
    | .create name => name = job.temporary ∧
        Replaces post job moved (some ⟨some [], false⟩) (next (some true)) ∧ Replaces post job moved known (next none)
    | .write name bytes => name = job.temporary ∧ ∃ contents synced, known = some ⟨some contents, synced⟩ ∧
        Replaces post job moved (some ⟨some (contents ++ bytes), false⟩) (next (some true)) ∧
        ∀ written, Replaces post job moved (some ⟨some (contents ++ bytes.take written), false⟩) (next none)
    | .sync name => name = job.temporary ∧ ∃ contents synced, known = some ⟨some contents, synced⟩ ∧
        Replaces post job moved (some ⟨some contents, true⟩) (next (some true)) ∧ Replaces post job moved known (next none)
    | .rename source target => source = job.temporary ∧ target = job.target ∧
        known = some ⟨some job.contents, true⟩ ∧
        Replaces post job true (some ⟨none, true⟩) (next (some true)) ∧ Replaces post job moved known (next none)
    | .remove name => name = job.temporary ∧
        Replaces post job moved (some ⟨none, false⟩) (next (some true)) ∧ Replaces post job moved known (next none)
    | .exist _ | .other => ∀ answer, Replaces post job moved known (next answer)

/-- Give up: remove the temporary file, if it can be removed, and return. -/
def abandon (temporary : N) (result : α) : FileProg N β α := .op (.remove temporary) fun _ => .ret result

omit [DecidableEq N] in
theorem abandon_replaces {post : Bool → α → Prop} {job : Job N β} {moved : Bool} {result : α} (h : post moved result)
    (known : Option (Entry β)) : (abandon job.temporary result).Replaces post job moved known :=
  ⟨rfl, h, h⟩

/-- What one operation of such a program does: its own knowledge stays true, and of the other files it
changes at most the target, by a completed rename. -/
theorem Replaces.step {post : Bool → α → Prop} {job : Job N β} {moved : Bool} {known : Option (Entry β)}
    {prog : FileProg N β α} (h : prog.Replaces post job moved known)
    {dir : Directory N β} (hknown : ∀ e ∈ known, dir job.temporary = e) (answer : Answer) :
    (∃ known', (∀ e ∈ known', (prog.step dir answer).1 job.temporary = e) ∧
      (prog.step dir answer).2.Replaces post job (moved || prog.moves dir answer) known') ∧
    ∀ name, name ≠ job.temporary → (prog.step dir answer).1 name =
      if prog.moves dir answer = true ∧ name = job.target then ⟨some job.contents, true⟩ else dir name := by
  cases prog with
  | ret result =>
    simp only [FileProg.step, FileProg.moves, Bool.or_false]
    exact ⟨⟨known, hknown, h⟩, by simp⟩
  | op operation next =>
    cases operation with
    | create name =>
      obtain ⟨rfl, hok, hfail⟩ := h
      simp only [FileProg.step, FileProg.moves, FileOp.apply, FileOp.moves, Bool.or_false]
      split
      · exact ⟨⟨_, by simp, hok⟩, fun name hname => by simp [hname]⟩
      · exact ⟨⟨known, hknown, hfail⟩, by simp⟩
    | write name bytes =>
      obtain ⟨rfl, contents, synced, rfl, hok, hfail⟩ := h
      have hdir : dir job.temporary = ⟨some contents, synced⟩ := hknown _ rfl
      simp only [FileProg.step, FileProg.moves, FileOp.apply, FileOp.moves, Bool.or_false, hdir, Option.map_some]
      split
      · exact ⟨⟨_, by simp, hok⟩, fun name hname => by simp [hname]⟩
      · exact ⟨⟨_, by simp, hfail answer.written⟩, fun name hname => by simp [hname]⟩
    | sync name =>
      obtain ⟨rfl, contents, synced, rfl, hok, hfail⟩ := h
      have hdir : dir job.temporary = ⟨some contents, synced⟩ := hknown _ rfl
      simp only [FileProg.step, FileProg.moves, FileOp.apply, FileOp.moves, Bool.or_false, hdir]
      split
      · exact ⟨⟨_, by simp, hok⟩, fun name hname => by simp [hname]⟩
      · exact ⟨⟨_, hknown, hfail⟩, by simp⟩
    | rename source target =>
      obtain ⟨rfl, rfl, rfl, hok, hfail⟩ := h
      have hdir : dir job.temporary = ⟨some job.contents, true⟩ := hknown _ rfl
      simp only [FileProg.step, FileProg.moves, FileOp.apply, FileOp.moves, hdir, Option.isSome_some, Bool.and_true]
      cases answer.ok with
      | true =>
        refine ⟨⟨some ⟨none, true⟩, by simp, by simpa using hok⟩, fun name hname => ?_⟩
        by_cases ht : name = job.target
        · subst ht
          simp [hname]
        · simp [hname, ht]
      | false => exact ⟨⟨_, hknown, by simpa using hfail⟩, by simp⟩
    | remove name =>
      obtain ⟨rfl, hok, hfail⟩ := h
      simp only [FileProg.step, FileProg.moves, FileOp.apply, FileOp.moves, Bool.or_false]
      split
      · exact ⟨⟨_, by simp, hok⟩, fun name hname => by simp [hname]⟩
      · exact ⟨⟨known, hknown, hfail⟩, by simp⟩
    | exist name =>
      simp only [FileProg.step, FileProg.moves, FileOp.apply, FileOp.moves, Bool.or_false]
      exact ⟨⟨known, hknown, h _⟩, by simp⟩
    | other =>
      simp only [FileProg.step, FileProg.moves, FileOp.apply, FileOp.moves, Bool.or_false]
      exact ⟨⟨known, hknown, h _⟩, by simp⟩

end FileProg

/-! ## Threads -/

/-- A thread at work on a job, and whether it has renamed its file. -/
structure Writer (N β α : Type) where
  job : Job N β
  prog : FileProg N β α
  moved : Bool := false

/-- A directory, the threads at work in it, and the jobs whose rename is done, in order. -/
structure Writers (N β α : Type) where
  dir : Directory N β
  writers : List (Writer N β α) := []
  committed : List (Job N β) := []

/-- A job as one write: the whole new contents, on the disk. -/
def Job.commit (dir : Directory N β) (job : Job N β) : Directory N β :=
  Function.update dir job.target ⟨some job.contents, true⟩

/-- The contents of the last of the jobs on a target. -/
def Job.last (jobs : List (Job N β)) (target : N) : Option (List β) :=
  (jobs.filter (fun job => job.target = target)).getLast?.map (·.contents)

theorem replay_commit (start : Directory N β) (jobs : List (Job N β)) (name : N) :
    replay Job.commit start jobs name = (Job.last jobs name).elim (start name) (fun contents => ⟨some contents, true⟩) := by
  induction jobs using List.reverseRecOn with
  | nil => rfl
  | append_singleton jobs job ih =>
    rw [replay_append, replay_cons, replay_nil, Job.commit, Function.update_apply, ih]
    by_cases hname : name = job.target
    · simp [Job.last, hname]
    · simp [Job.last, hname, Ne.symm hname]

namespace Writers

def start (s : Writers N β α) (job : Job N β) (prog : FileProg N β α) : Writers N β α :=
  { s with writers := s.writers ++ [⟨job, prog, false⟩] }

/-- The next operation of thread `i`. -/
def act (s : Writers N β α) (i : Nat) (answer : Answer) : Option (Writers N β α) :=
  s.writers[i]?.map fun w =>
    { dir := (w.prog.step s.dir answer).1
      writers := s.writers.set i ⟨w.job, (w.prog.step s.dir answer).2, w.moved || w.prog.moves s.dir answer⟩
      committed := if w.prog.moves s.dir answer then s.committed ++ [w.job] else s.committed }

/-- What a crash makes of a directory, `lost` of what was not on the disk. -/
def survives (lost : N → Option (List β)) (dir : Directory N β) : Directory N β :=
  fun name => if (dir name).synced then dir name else ⟨lost name, true⟩

def crash (s : Writers N β α) (lost : N → Option (List β)) : Writers N β α :=
  { s with dir := survives lost s.dir, writers := [] }

/-- The jobs the threads are at work on. -/
def jobs (s : Writers N β α) : List (Job N β) := s.writers.map (·.job)

omit [DecidableEq N] in
@[simp] theorem start_jobs (s : Writers N β α) (job : Job N β) (prog : FileProg N β α) :
    (s.start job prog).jobs = s.jobs ++ [job] := by
  simp [start, jobs]

theorem act_jobs {s t : Writers N β α} {i : Nat} {answer : Answer} (ht : s.act i answer = some t) : t.jobs = s.jobs := by
  obtain ⟨w, hw, rfl⟩ := Option.map_eq_some_iff.1 ht
  obtain ⟨hlt, hget⟩ := List.getElem?_eq_some_iff.1 hw
  refine List.ext_getElem? fun j => ?_
  simp only [jobs, List.map_set, List.getElem?_set]
  split
  · rename_i hij
    subst hij
    simp [hlt, hget]
  · rfl

/-- Only a job at work is committed. -/
theorem act_committed {s t : Writers N β α} {i : Nat} {answer : Answer} (ht : s.act i answer = some t) :
    t.committed = s.committed ∨ ∃ job ∈ s.jobs, t.committed = s.committed ++ [job] := by
  obtain ⟨w, hw, rfl⟩ := Option.map_eq_some_iff.1 ht
  cases hm : w.prog.moves s.dir answer with
  | false => exact .inl (by simp)
  | true => exact .inr ⟨w.job, List.mem_map_of_mem (List.mem_of_getElem? hw), by simp⟩

/-- Every thread keeps the discipline in a temporary file of its own, and the other files are the ones of
`start` with the committed jobs written over them. -/
structure Ok (post : Bool → α → Prop) (temporary : N → Prop) (start : Directory N β) (s : Writers N β α) : Prop where
  distinct : (s.jobs.map (·.temporary)).Nodup
  names : ∀ w ∈ s.writers, temporary w.job.temporary ∧ ¬ temporary w.job.target
  disciplined : ∀ w ∈ s.writers, ∃ known, (∀ e ∈ known, s.dir w.job.temporary = e) ∧
    w.prog.Replaces post w.job w.moved known
  moved : ∀ w ∈ s.writers, w.moved = true → w.job ∈ s.committed
  files : ∀ name, ¬ temporary name → s.dir name = replay Job.commit start s.committed name

namespace Ok

variable {post : Bool → α → Prop} {temporary : N → Prop} {start : Directory N β} {s : Writers N β α}

theorem init (start : Directory N β) : Ok post temporary start (⟨start, [], []⟩ : Writers N β α) :=
  ⟨by simp [jobs], by simp, by simp, by simp, fun _ _ => rfl⟩

/-- A thread may start whose temporary name no other thread uses. -/
theorem start_job (h : Ok post temporary start s) {job : Job N β} {prog : FileProg N β α}
    (hfresh : ∀ other ∈ s.jobs, other.temporary ≠ job.temporary) (htemp : temporary job.temporary)
    (htarget : ¬ temporary job.target) (hprog : prog.Replaces post job false none) :
    Ok post temporary start (s.start job prog) := by
  refine ⟨?_, ?_, ?_, ?_, h.files⟩
  · rw [start_jobs, List.map_append]
    refine List.nodup_append.2 ⟨h.distinct, by simp, ?_⟩
    simpa using hfresh
  · intro w hw
    rcases List.mem_append.1 hw with hw | hw
    · exact h.names w hw
    · rw [List.mem_singleton.1 hw]
      exact ⟨htemp, htarget⟩
  · intro w hw
    rcases List.mem_append.1 hw with hw | hw
    · exact h.disciplined w hw
    · rw [List.mem_singleton.1 hw]
      exact ⟨none, by simp, hprog⟩
  · intro w hw hm
    rcases List.mem_append.1 hw with hw | hw
    · exact h.moved w hw hm
    · rw [List.mem_singleton.1 hw] at hm
      cases hm

/-- Another thread's temporary file is neither this one's nor a target. -/
theorem temporary_ne (h : Ok post temporary start s) {i j : Nat} {w : Writer N β α} (hw : s.writers[i]? = some w)
    (hj : j < s.writers.length) (hij : i ≠ j) :
    s.writers[j].job.temporary ≠ w.job.temporary ∧ s.writers[j].job.temporary ≠ w.job.target := by
  obtain ⟨hlt, -⟩ := List.getElem?_eq_some_iff.1 hw
  constructor
  · intro heq
    have hsame : (s.jobs.map (·.temporary))[i]? = (s.jobs.map (·.temporary))[j]? := by
      simp [jobs, hw, hj, heq]
    exact hij ((List.getElem?_inj (by simpa [jobs] using hlt) h.distinct).1 hsame)
  · intro heq
    exact (h.names w (List.mem_of_getElem? hw)).2 (heq ▸ (h.names _ (List.getElem_mem hj)).1)

/-- Any thread may take its next step, whatever the system answers. -/
theorem act (h : Ok post temporary start s) {i : Nat} {answer : Answer} {t : Writers N β α}
    (ht : s.act i answer = some t) : Ok post temporary start t := by
  have hjobs := act_jobs ht
  obtain ⟨w, hw, rfl⟩ := Option.map_eq_some_iff.1 ht
  have hmem : w ∈ s.writers := List.mem_of_getElem? hw
  obtain ⟨htemp, htarget⟩ := h.names w hmem
  obtain ⟨known, hknown, hprog⟩ := h.disciplined w hmem
  obtain ⟨hown, hframe⟩ := hprog.step hknown answer
  refine ⟨by rw [hjobs]; exact h.distinct, ?_, ?_, ?_, ?_⟩
  · intro v hv
    rcases List.mem_or_eq_of_mem_set hv with hv | rfl
    · exact h.names v hv
    · exact ⟨htemp, htarget⟩
  · intro v hv
    obtain ⟨j, hj, rfl⟩ := List.getElem_of_mem hv
    rw [List.length_set] at hj
    by_cases hij : i = j
    · subst hij
      simpa using hown
    · obtain ⟨hother, hnot⟩ := h.temporary_ne hw hj hij
      simp only [List.getElem_set_ne hij]
      obtain ⟨known', hknown', hprog'⟩ := h.disciplined _ (List.getElem_mem hj)
      refine ⟨known', fun e he => ?_, hprog'⟩
      rw [hframe _ hother, if_neg (fun hc => hnot hc.2)]
      exact hknown' e he
  · intro v hv hm
    dsimp only
    rcases List.mem_or_eq_of_mem_set hv with hv | rfl
    · split
      · exact List.mem_append_left _ (h.moved v hv hm)
      · exact h.moved v hv hm
    · cases hmoves : w.prog.moves s.dir answer with
      | true => simp
      | false =>
        rw [hmoves, Bool.or_false] at hm
        simpa using h.moved w hmem hm
  · intro name hname
    have hne' : name ≠ w.job.temporary := fun heq => hname (heq ▸ htemp)
    dsimp only
    rw [hframe name hne', h.files name hname]
    cases w.prog.moves s.dir answer with
    | false => simp
    | true =>
      by_cases hn : name = w.job.target
      · subst hn
        simp [Job.commit]
      · simp [Job.commit, hn]

/-- A crash loses none of the other files, when those of the start were on the disk. -/
theorem crash (h : Ok post temporary start s) (hstart : ∀ name, ¬ temporary name → (start name).synced = true)
    (lost : N → Option (List β)) : Ok post temporary start (s.crash lost) := by
  refine ⟨by simp [Writers.crash, jobs], by simp [Writers.crash], by simp [Writers.crash], by simp [Writers.crash],
    fun name hname => ?_⟩
  have hsynced : (s.dir name).synced = true := by
    rw [h.files name hname, replay_commit]
    cases Job.last s.committed name with
    | none => exact hstart name hname
    | some contents => rfl
  refine (if_pos hsynced).trans (h.files name hname)

/-- While no thread is at work, temporary files may come and go. -/
theorem cleaned (h : Ok post temporary start s) {dir : Directory N β} (hnone : s.writers = [])
    (hdir : ∀ name, ¬ temporary name → dir name = s.dir name) : Ok post temporary start { s with dir } := by
  refine ⟨h.distinct, h.names, ?_, h.moved, fun name hname => (hdir name hname).trans (h.files name hname)⟩
  simp [hnone]

/-- What a finished thread returns. -/
theorem returned (h : Ok post temporary start s) {w : Writer N β α} (hw : w ∈ s.writers) {result : α}
    (hret : w.prog = .ret result) : post w.moved result := by
  obtain ⟨_, _, hprog⟩ := h.disciplined w hw
  rw [hret] at hprog
  exact hprog

end Ok

end Writers

/-! ## Processes -/

/-- The threads of one process, which numbers its temporary files. -/
structure Process (N β α : Type) where
  id : Nat
  next : Nat := 1
  threads : Writers N β α

namespace Process

/-- A thread draws a number for its temporary file and starts. -/
def spawn (s : Process N β α) (name : Nat → Nat → N) (target : N) (contents : List β) (prog : Job N β → FileProg N β α) :
    Process N β α :=
  let job := ⟨name s.id s.next, target, contents⟩
  { s with next := s.next + 1, threads := s.threads.start job (prog job) }

def act (s : Process N β α) (thread : Nat) (answer : Answer) : Option (Process N β α) :=
  (s.threads.act thread answer).map fun threads => { s with threads }

/-- The machine stops, and a process with another number takes over. -/
def crash (s : Process N β α) (id : Nat) (lost : N → Option (List β)) : Process N β α := ⟨id, 1, s.threads.crash lost⟩

/-- The threads keep to the discipline, in files that carry numbers this process has given out, and work on jobs of `P`. -/
structure Ok (names : (Nat → Nat → N) → Prop) (post : Bool → α → Prop) (temporary : N → Prop) (start : Directory N β)
    (P : Job N β → Prop) (s : Process N β α) : Prop where
  threads : s.threads.Ok post temporary start
  drawn : ∀ job ∈ s.threads.jobs, ∃ name, names name ∧ ∃ n < s.next, job.temporary = name s.id n
  jobs : ∀ job ∈ s.threads.jobs ++ s.threads.committed, P job

namespace Ok

variable {names : (Nat → Nat → N) → Prop} {post : Bool → α → Prop} {temporary : N → Prop} {start : Directory N β}
  {P : Job N β → Prop} {s : Process N β α}

theorem init (id : Nat) (start : Directory N β) : Ok names post temporary start P (⟨id, 1, ⟨start, [], []⟩⟩ : Process N β α) :=
  ⟨.init start, fun _ hjob => absurd hjob List.not_mem_nil, fun _ hjob => absurd hjob List.not_mem_nil⟩

theorem mono (h : Ok names post temporary start P s) {Q : Job N β → Prop} (hPQ : ∀ job, P job → Q job) :
    Ok names post temporary start Q s :=
  ⟨h.threads, h.drawn, fun job hjob => hPQ job (h.jobs job hjob)⟩

theorem spawn (h : Ok names post temporary start P s)
    (hnames : ∀ name name', names name → names name' → ∀ id n n', name id n = name' id n' → n = n')
    {name : Nat → Nat → N} (hname : names name) (htemp : ∀ id n, temporary (name id n)) {target : N}
    (htarget : ¬ temporary target) {contents : List β} {prog : Job N β → FileProg N β α}
    (hprog : ∀ temporary, (prog ⟨temporary, target, contents⟩).Replaces post ⟨temporary, target, contents⟩ false none)
    (hjob : P ⟨name s.id s.next, target, contents⟩) :
    Ok names post temporary start P (s.spawn name target contents prog) := by
  have hfresh : ∀ other ∈ s.threads.jobs, other.temporary ≠ name s.id s.next := by
    intro other hother heq
    obtain ⟨name', hname', n, hn, hdrawn⟩ := h.drawn other hother
    rw [hdrawn] at heq
    exact absurd (hnames name' name hname' hname _ _ _ heq) (Nat.ne_of_lt hn)
  refine ⟨h.threads.start_job hfresh (htemp _ _) htarget (hprog _), ?_, ?_⟩
  · simp only [Process.spawn, Writers.start_jobs, List.forall_mem_append, List.forall_mem_singleton]
    refine ⟨fun job hjob => ?_, name, hname, s.next, Nat.lt_succ_self _, rfl⟩
    obtain ⟨name', hname', n, hn, hdrawn⟩ := h.drawn job hjob
    exact ⟨name', hname', n, Nat.lt_succ_of_lt hn, hdrawn⟩
  · have hjobs := h.jobs
    simp only [Process.spawn, Writers.start_jobs, List.forall_mem_append, List.forall_mem_singleton] at hjobs ⊢
    exact ⟨⟨hjobs.1, hjob⟩, hjobs.2⟩

theorem act (h : Ok names post temporary start P s) {thread : Nat} {answer : Answer} {t : Process N β α}
    (ht : s.act thread answer = some t) : Ok names post temporary start P t := by
  obtain ⟨threads, hact, rfl⟩ := Option.map_eq_some_iff.1 ht
  refine ⟨h.threads.act hact, ?_, ?_⟩
  · rw [Writers.act_jobs hact]
    exact h.drawn
  · rw [Writers.act_jobs hact]
    rcases Writers.act_committed hact with hsame | ⟨job, hjob, hmore⟩
    · rw [hsame]
      exact h.jobs
    · have hjobs := h.jobs
      rw [hmore]
      simp only [List.forall_mem_append, List.forall_mem_singleton] at hjobs ⊢
      exact ⟨hjobs.1, hjobs.2, hjobs.1 job hjob⟩

theorem crash (h : Ok names post temporary start P s) (hstart : ∀ name, ¬ temporary name → (start name).synced = true)
    (id : Nat) (lost : N → Option (List β)) : Ok names post temporary start P (s.crash id lost) :=
  ⟨h.threads.crash hstart lost, fun _ hjob => absurd hjob List.not_mem_nil,
    fun job hjob => h.jobs job (List.mem_append_right _ hjob)⟩

/-- A file reads as the last job committed to it. -/
theorem read (h : Ok names post temporary start P s) {name : N} (hname : ¬ temporary name) :
    (s.threads.dir name).contents = (Job.last s.threads.committed name).or (start name).contents := by
  rw [h.threads.files name hname, replay_commit]
  cases Job.last s.threads.committed name with
  | none => rfl
  | some contents => rfl

end Ok

end Process

/-! ## Names made from a counter -/

/-- A stem, a number and an ending, such as `.copy-17.tmp`. -/
def numbered (stem : String) (n : Nat) (ending : String) : String := stem ++ "-" ++ toString n ++ ending

/-- What stands after the last `c` of a list, and before it. -/
theorem append_cons_inj_of_not_mem {γ : Type} {a b x y : List γ} {c : γ} (h : a ++ c :: x = b ++ c :: y) (hx : c ∉ x)
    (hy : c ∉ y) : a = b ∧ x = y := by
  rcases List.append_eq_append_iff.1 h with ⟨z, hb, hz⟩ | ⟨z, ha, hz⟩
  · cases z with
    | nil => simp_all
    | cons d z =>
      obtain ⟨-, rfl⟩ := List.cons_eq_cons.1 hz
      simp at hx
  · cases z with
    | nil => simp_all
    | cons d z =>
      obtain ⟨-, rfl⟩ := List.cons_eq_cons.1 hz
      simp at hy

theorem dash_not_mem_toString (n : Nat) : '-' ∉ (toString n).toList := by
  intro h
  rw [Nat.toString_eq_ofList_toDigits, String.toList_ofList] at h
  exact absurd (Nat.isDigit_of_mem_toDigits (by decide) (by decide) h) (by decide)

/-- The number can be read off such a name. -/
theorem numbered_inj {stem stem' ending : String} {n m : Nat} (h : numbered stem n ending = numbered stem' m ending) :
    stem = stem' ∧ n = m := by
  have hlist := congrArg String.toList h
  simp only [numbered, String.toList_append] at hlist
  have hcut := List.append_cancel_right hlist
  have hdash : "-".toList = ['-'] := rfl
  rw [hdash, List.append_assoc, List.append_assoc, List.singleton_append, List.singleton_append] at hcut
  obtain ⟨hstem, hnumber⟩ := append_cons_inj_of_not_mem hcut (dash_not_mem_toString n) (dash_not_mem_toString m)
  exact ⟨String.toList_inj.1 hstem, Nat.repr_inj.1 (String.toList_inj.1 hnumber)⟩

end Lib
