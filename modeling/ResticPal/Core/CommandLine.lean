import ResticPal.Lib.Arguments
import ResticPal.Core.Restic
import ResticPal.Core.Validity
/-!
# The restic command line

What restic makes of the argument vectors that `ResticCommandBuilder` builds.
`parse_command_line` is restic's reading of them, written without regard to the
builder. `command_line_means_config`: every vector a builder method returns
reads as what the configuration says, and as nothing more.
-/

open Lib Arguments

namespace ResticPal

/-! ## Restic's reading -/

def keeps (argument : String) : Bool := "--keep-".toList.isPrefixOf argument.toList

/-- The flags that take the next argument. -/
def takes_value (argument : String) : Bool :=
  argument == "--option" || argument == "--exclude" || argument == "--iexclude" || keeps argument

def dashed (argument : String) : Bool := argument.toList.head? == some '-'

/-- Split at the first `=`. -/
def split_option (text : String) : String × String :=
  (String.ofList (text.toList.takeWhile (· != '=')), String.ofList ((text.toList.dropWhile (· != '=')).drop 1))

/-- A number in decimal digits. -/
def decimal (text : String) : Nat := Nat.ofDigitChars 10 text.toList 0

structure CommandLine where
  options : List (String × String)
  exclusions : List String
  required_exclusions : List String
  keep : List (String × Nat)
  switches : List String
  positional : List String
  deriving DecidableEq

def parse_command_line (arguments : List String) : Option CommandLine :=
  (read takes_value dashed arguments).map fun sorted => {
    options := (sorted.valuesOf "--option").map split_option
    exclusions := sorted.valuesOf "--exclude"
    required_exclusions := sorted.valuesOf "--iexclude"
    keep := sorted.values.filterMap (fun p => if keeps p.1 then some (p.1, decimal p.2) else none)
    switches := sorted.switches
    positional := sorted.positional }

/-! ## Builder methods -/

/-- A call of a method of the builder. -/
inductive BuilderCall where
  | backup
  | backup_with_required_exclusions (exclusions : List PathBuf)
  | unlock
  | inspection (operation : ResticOperation)
  | repository_setup (operation : ResticOperation)
  | retention (operation : ResticOperation)

namespace BuilderCall

def invoke (to_lowercase : String → String) (executable : PathBuf) (config : EffectiveConfig) :
    BuilderCall → Except InvocationError ResticInvocation
  | backup => ResticCommandBuilder.backup to_lowercase executable config
  | backup_with_required_exclusions exclusions =>
    ResticCommandBuilder.backup_with_required_exclusions to_lowercase executable config exclusions
  | unlock => ResticCommandBuilder.unlock executable config
  | inspection operation => ResticCommandBuilder.inspection executable config operation
  | repository_setup operation => ResticCommandBuilder.repository_setup executable config operation
  | retention operation => ResticCommandBuilder.retention executable config operation

/-- The requested operation. -/
def operation : BuilderCall → ResticOperation
  | backup | backup_with_required_exclusions _ => .Backup
  | unlock => .Unlock
  | inspection operation | repository_setup operation | retention operation => operation

def required : BuilderCall → List PathBuf
  | backup_with_required_exclusions exclusions => exclusions
  | _ => []

end BuilderCall

/-! ## The meaning of a configuration -/

/-- The subcommand of an operation. -/
def ResticOperation.words : ResticOperation → List String
  | .Backup => ["backup"]
  | .Unlock => ["unlock"]
  | .Probe => ["cat", "config"]
  | .Snapshots => ["snapshots"]
  | .Check => ["check"]
  | .Initialize => ["init"]
  | .Forget => ["forget"]
  | .Prune => ["prune"]
  | .Rewrite | .Migrate | .Repair | .RemoveKey => []

def ResticOperation.switches : ResticOperation → List String
  | .Backup => ["--cleanup-cache", "--json", "--use-fs-snapshot"]
  | .Snapshots | .Check => ["--json"]
  | _ => []

def RetentionConfig.keep_counts (retention : RetentionConfig) : List (String × UInt32) :=
  [("--keep-daily", retention.daily), ("--keep-weekly", retention.weekly), ("--keep-monthly", retention.monthly),
    ("--keep-yearly", retention.yearly)]

/-- What a call should tell restic. -/
def BuilderCall.intended (call : BuilderCall) (config : EffectiveConfig) : CommandLine where
  options := config.repository.options.entries
  exclusions := if call.operation = .Backup then config.backup.exclusions else []
  required_exclusions := call.required.map (·.text)
  keep := if call.operation = .Forget then config.retention.keep_counts.map (fun p => (p.1, p.2.toNat)) else []
  switches := call.operation.switches
  positional := call.operation.words ++ if call.operation = .Backup then config.backup.paths.map (·.text) else []

/-! ## What the builder returns -/

/-- The arguments after the repository options. -/
def BuilderCall.arguments (call : BuilderCall) (config : EffectiveConfig) : List String :=
  match call.operation with
  | .Backup => ["--cleanup-cache", "backup", "--json", "--use-fs-snapshot"] ++
      config.backup.exclusions.flatMap (fun exclusion => ["--exclude", exclusion]) ++
      call.required.flatMap (fun exclusion => ["--iexclude", exclusion.text]) ++ config.backup.paths.map (·.text)
  | .Forget => "forget" :: config.retention.keep_counts.flatMap (fun p => [p.1, toString p.2.toNat])
  | operation => operation.words ++ operation.switches

/-- A call that succeeds. -/
structure BuilderCall.Builds (call : BuilderCall) (config : EffectiveConfig) (invocation : ResticInvocation) : Prop where
  operation : invocation.operation = call.operation
  allowed : call.operation.allowed_in config.repository.mode = true
  valid : config.validate = .ok ()
  arguments : invocation.arguments = repository_options config ++ call.arguments config

section Builds

variable {to_lowercase : String → String} {executable : PathBuf} {config : EffectiveConfig} {invocation : ResticInvocation}

theorem build_eq_ok {operation : ResticOperation} {arguments : List String}
    (h : ResticCommandBuilder.build executable config operation arguments = .ok invocation) :
    invocation.operation = operation ∧ invocation.arguments = repository_options config ++ arguments := by
  unfold ResticCommandBuilder.build at h
  cases hu : config.repository.url with
  | none => simp [hu] at h
  | some url =>
    simp only [hu, pure_eq_ok] at h
    subst h
    exact ⟨rfl, rfl⟩

theorem authorize_operation_eq_ok {mode : RepositoryMode} {operation : ResticOperation} :
    authorize_operation mode operation = .ok () ↔ operation.allowed_in mode = true := by
  simp [authorize_operation]

theorem backup_builds {exclusions : List PathBuf} {call : BuilderCall} (ho : call.operation = .Backup)
    (hr : call.required = exclusions) (h : ResticCommandBuilder.backup_with_required_exclusions to_lowercase executable
      config exclusions = .ok invocation) : call.Builds config invocation := by
  simp only [ResticCommandBuilder.backup_with_required_exclusions, check_bind_eq_ok, authorize_operation_eq_ok,
    mapError_eq_ok] at h
  obtain ⟨hallowed, -, hvalid, -, -, -, hbuild⟩ := h
  obtain ⟨hoperation, harguments⟩ := build_eq_ok hbuild
  refine ⟨hoperation.trans ho.symm, ho ▸ hallowed, hvalid, ?_⟩
  rw [harguments, BuilderCall.arguments, ho, hr]

/-- The methods that take one of two operations. -/
theorem either_builds {first second operation : ResticOperation} {error : InvocationError} {call : BuilderCall}
    {arguments : List String} (hc : call.operation = operation)
    (ha : operation = first ∨ operation = second → arguments = call.arguments config)
    (h : (do
      rejectIf (!(operation == first || operation == second)) error
      authorize_operation config.repository.mode operation
      config.validate.mapError .InvalidConfiguration
      ResticCommandBuilder.build executable config operation arguments) = .ok invocation) :
    call.Builds config invocation := by
  simp only [check_bind_eq_ok, rejectIf_eq_ok, authorize_operation_eq_ok, mapError_eq_ok] at h
  obtain ⟨heither, hallowed, hvalid, hbuild⟩ := h
  obtain ⟨hoperation, harguments⟩ := build_eq_ok hbuild
  refine ⟨hoperation.trans hc.symm, hc ▸ hallowed, hvalid, ?_⟩
  rw [harguments, ha]
  simpa only [Bool.not_eq_false', Bool.or_eq_true, beq_iff_eq] using heither

theorem invoke_builds {call : BuilderCall} (h : call.invoke to_lowercase executable config = .ok invocation) :
    call.Builds config invocation := by
  cases call with
  | backup => exact backup_builds rfl rfl h
  | backup_with_required_exclusions exclusions => exact backup_builds rfl rfl h
  | unlock =>
    simp only [BuilderCall.invoke, ResticCommandBuilder.unlock, check_bind_eq_ok, authorize_operation_eq_ok,
      mapError_eq_ok] at h
    obtain ⟨hallowed, hvalid, hbuild⟩ := h
    obtain ⟨hoperation, harguments⟩ := build_eq_ok hbuild
    exact ⟨hoperation, hallowed, hvalid, harguments⟩
  | inspection operation =>
    refine either_builds rfl ?_ h
    rintro (rfl | rfl) <;> rfl
  | repository_setup operation =>
    refine either_builds rfl ?_ h
    rintro (rfl | rfl) <;> rfl
  | retention operation =>
    refine either_builds rfl ?_ h
    rintro (rfl | rfl) <;> rfl

end Builds

/-! ## Reading it back -/

theorem split_option_append {name value : String} (h : '=' ∉ name.toList) :
    split_option (name ++ "=" ++ value) = (name, value) := by
  have htake : (name.toList ++ '=' :: value.toList).takeWhile (· != '=') = name.toList := by
    rw [List.takeWhile_append_of_pos fun c hc => by simpa using fun hq : c = '=' => h (hq ▸ hc)]
    simp
  have hdrop : (name.toList ++ '=' :: value.toList).dropWhile (· != '=') = '=' :: value.toList := by
    rw [List.dropWhile_append_of_pos fun c hc => by simpa using fun hq : c = '=' => h (hq ▸ hc)]
    simp
  have htext : (name ++ "=" ++ value).toList = name.toList ++ '=' :: value.toList := by simp
  unfold split_option
  rw [htext, htake, hdrop]
  simp

theorem valid_option_name {name : String} (h : is_valid_option_name name = true) : '=' ∉ name.toList := by
  intro hmem
  unfold is_valid_option_name at h
  split at h
  · cases h
  · rename_i first rest hname
    rw [Bool.and_eq_true, List.all_eq_true] at h
    rw [hname] at hmem
    rcases List.mem_cons.1 hmem with hfirst | hrest
    · rw [← hfirst] at h
      exact absurd h.1 (by decide)
    · exact absurd (h.2 _ hrest) (by decide)

/-- A drive letter or a backslash comes first. -/
theorem absolute_not_dashed {path : PathBuf} (h : path.is_absolute = true) : dashed path.text = false := by
  simp only [PathBuf.is_absolute, Bool.and_eq_true, PathBuf.prefixKind] at h
  unfold dashed
  cases htext : path.text.toList with
  | nil => rfl
  | cons c rest =>
    by_contra hc
    obtain rfl : c = '-' := by simpa using hc
    have hprefix := h.2
    rw [htext] at hprefix
    unfold Path.parse_prefix at hprefix
    have hstrip : Path.stripStart ['\\', '\\'] ('-' :: rest) = none := by
      unfold Path.stripStart
      refine if_neg ?_
      cases rest <;> simp
    rw [hstrip] at hprefix
    have hdrive : Path.parse_drive ('-' :: rest) = none := by
      unfold Path.parse_drive
      split
      · rename_i drive tail heq
        obtain ⟨rfl, -⟩ := List.cons.inj heq
        rfl
      · rfl
    rw [hdrive] at hprefix
    cases hprefix

/-- A path is no flag. -/
theorem path_is_positional {config : EffectiveConfig} (hv : config.validate = .ok ()) {path : PathBuf}
    (hp : path ∈ config.backup.paths) : takes_value path.text = false ∧ dashed path.text = false := by
  have hvalid := ((EffectiveConfig.validate_iff.1 hv).1 .BackupPaths).2 path hp
  simp only [validate_path, check_bind_eq_ok, rejectIf_eq_ok, Bool.or_eq_false_iff] at hvalid
  have hdashed := absolute_not_dashed (by simpa using hvalid.1.1.1.2)
  refine ⟨?_, hdashed⟩
  by_contra htakes
  have hflag : dashed path.text = true := by
    simp only [takes_value, Bool.not_eq_false, Bool.or_eq_true, beq_iff_eq] at htakes
    rcases htakes with ((h | h) | h) | h
    · rw [h]; decide
    · rw [h]; decide
    · rw [h]; decide
    · unfold keeps at h
      obtain ⟨rest, hrest⟩ := List.isPrefixOf_iff_prefix.1 h
      unfold dashed
      rw [← hrest]
      rfl
  rw [hdashed] at hflag
  cases hflag

/-- The options of a valid configuration, in order. -/
theorem options_split {config : EffectiveConfig} (hv : config.validate = .ok ()) :
    (config.repository.options.entries.map fun option => split_option (option.1 ++ "=" ++ option.2)) =
      config.repository.options.entries := by
  have hoption (option : String × String) (hmem : option ∈ config.repository.options.entries) :
      split_option (option.1 ++ "=" ++ option.2) = option := by
    have hvalid := ((EffectiveConfig.validate_iff.1 hv).1 .RepositoryOptions).2 option hmem
    simp only [validate_option, check_bind_eq_ok, rejectIf_eq_ok, Bool.not_eq_false'] at hvalid
    exact split_option_append (valid_option_name hvalid.2.1)
  rw [List.map_congr_left hoption, List.map_id']

theorem options_read (config : EffectiveConfig) : Reads takes_value dashed (repository_options config)
    { values := config.repository.options.entries.map fun option => ("--option", option.1 ++ "=" ++ option.2) } :=
  .values fun _ _ => by decide

theorem backup_read {call : BuilderCall} {config : EffectiveConfig} (hv : config.validate = .ok ())
    (ho : call.operation = .Backup) : Reads takes_value dashed (call.arguments config) {
      values := config.backup.exclusions.map (fun exclusion => ("--exclude", exclusion)) ++
        call.required.map (fun exclusion => ("--iexclude", exclusion.text))
      switches := ["--cleanup-cache", "--json", "--use-fs-snapshot"]
      positional := "backup" :: config.backup.paths.map (·.text) } := by
  have hfixed : Reads takes_value dashed ["--cleanup-cache", "backup", "--json", "--use-fs-snapshot"]
      { switches := ["--cleanup-cache", "--json", "--use-fs-snapshot"], positional := ["backup"] } := .words (by decide)
  have hexclusions : Reads takes_value dashed (config.backup.exclusions.flatMap fun exclusion => ["--exclude", exclusion])
      { values := config.backup.exclusions.map fun exclusion => ("--exclude", exclusion) } :=
    .values fun _ _ => by decide
  have hrequired : Reads takes_value dashed (call.required.flatMap fun exclusion => ["--iexclude", exclusion.text])
      { values := call.required.map fun exclusion => ("--iexclude", exclusion.text) } :=
    .values fun _ _ => by decide
  have hpositional (path : String) (hp : path ∈ config.backup.paths.map (·.text)) :
      takes_value path = false ∧ dashed path = false := by
    obtain ⟨source, hsource, rfl⟩ := List.mem_map.1 hp
    exact path_is_positional hv hsource
  have hpaths : Reads takes_value dashed _ _ := .words fun path hp => (hpositional path hp).1
  rw [List.filter_eq_nil_iff.2 fun path hp => by simp [(hpositional path hp).2],
    List.filter_eq_self.2 fun path hp => by simp [(hpositional path hp).2]] at hpaths
  have hall := ((hfixed.append hexclusions).append hrequired).append hpaths
  unfold BuilderCall.arguments
  rw [ho]
  simpa only [Sorted.append, List.nil_append, List.append_nil, List.cons_append] using hall

theorem keep_counts_keeps {retention : RetentionConfig} {p : String × UInt32} (h : p ∈ retention.keep_counts) :
    keeps p.1 = true := by
  simp only [RetentionConfig.keep_counts, List.mem_cons, List.not_mem_nil, or_false] at h
  rcases h with rfl | rfl | rfl | rfl <;> simp only <;> decide

theorem forget_read {call : BuilderCall} {config : EffectiveConfig} (ho : call.operation = .Forget) :
    Reads takes_value dashed (call.arguments config) {
      values := config.retention.keep_counts.map (fun p => (p.1, toString p.2.toNat))
      positional := ["forget"] } := by
  have hfixed : Reads takes_value dashed ["forget"] { positional := ["forget"] } := .words (by decide)
  have hcounts : Reads takes_value dashed
      (config.retention.keep_counts.flatMap fun p => [p.1, toString p.2.toNat])
      { values := config.retention.keep_counts.map fun p => (p.1, toString p.2.toNat) } := by
    refine .values fun p hp => ?_
    simp [takes_value, keep_counts_keeps hp]
  have hall := hfixed.append hcounts
  unfold BuilderCall.arguments
  rw [ho]
  simpa only [Sorted.append, List.nil_append, List.append_nil, List.cons_append] using hall

theorem words_read {call : BuilderCall} {config : EffectiveConfig} (hb : call.operation ≠ .Backup)
    (hf : call.operation ≠ .Forget) : Reads takes_value dashed (call.arguments config) {
      switches := call.operation.switches
      positional := call.operation.words } := by
  have hwords : call.arguments config = call.operation.words ++ call.operation.switches := by
    unfold BuilderCall.arguments
    split
    · exact absurd ‹_› hb
    · exact absurd ‹_› hf
    · rfl
  rw [hwords]
  generalize call.operation = operation at hb hf ⊢
  cases operation with
  | Backup => exact absurd rfl hb
  | Forget => exact absurd rfl hf
  | _ => exact .words (by decide)

/-- The whole vector of a call reads as intended. -/
theorem parse_arguments {call : BuilderCall} {config : EffectiveConfig} (hv : config.validate = .ok ())
    (hr : call.operation ≠ .Backup → call.required = []) :
    parse_command_line (repository_options config ++ call.arguments config) = some (call.intended config) := by
  have hoption : keeps "--option" = false := by decide
  have hexclude : keeps "--exclude" = false := by decide
  have hiexclude : keeps "--iexclude" = false := by decide
  have hsplit := options_split hv
  unfold parse_command_line BuilderCall.intended
  by_cases hb : call.operation = .Backup
  · rw [((options_read config).append (backup_read hv hb)).read_eq]
    simp [Sorted.append, Sorted.valuesOf, List.filterMap_append, List.filterMap_map, Function.comp_def, hb, hoption,
      hexclude, hiexclude, hsplit, ResticOperation.switches, ResticOperation.words]
  · by_cases hf : call.operation = .Forget
    · have hcounts : (config.retention.keep_counts.filterMap fun p =>
          if keeps p.1 then some (p.1, decimal (toString p.2.toNat)) else none) =
          config.retention.keep_counts.map fun p => (p.1, p.2.toNat) := by
        rw [← List.filterMap_eq_map]
        exact List.filterMap_congr fun p hp => by simp [keep_counts_keeps hp, decimal, Nat.toList_repr]
      have hflag {flag : String} (hflag : keeps flag = false) : (config.retention.keep_counts.filterMap fun p =>
          if p.1 = flag then some (toString p.2.toNat) else none) = [] := by
        refine List.filterMap_eq_nil_iff.2 fun p hp => if_neg fun he => ?_
        rw [← he, keep_counts_keeps hp] at hflag
        cases hflag
      rw [((options_read config).append (forget_read hf)).read_eq]
      simp only [Option.map_some, Sorted.append, Sorted.valuesOf, List.filterMap_append, List.filterMap_map,
        Function.comp_def, hcounts, hflag hoption, hflag hexclude, hflag hiexclude]
      simp [hf, hoption, hr hb, ResticOperation.switches, ResticOperation.words]
      exact hsplit
    · rw [((options_read config).append (words_read hb hf)).read_eq]
      simp [Sorted.append, Sorted.valuesOf, List.filterMap_map, Function.comp_def, hb, hf, hoption, hsplit, hr hb]

/-- Every argument vector means what the configuration says: restic reads the
configured options, the subcommand and the switches of the requested operation,
for `forget` the four counts, and for a backup the exclusions and the sources.
The operation is one the repository's mode allows, no option turns snapshots
off, and the credentials do not show. -/
theorem command_line_means_config {to_lowercase : String → String} {executable : PathBuf} {config : EffectiveConfig}
    {call : BuilderCall} {invocation : ResticInvocation}
    (h : call.invoke to_lowercase executable config = .ok invocation) :
    parse_command_line invocation.arguments = some (call.intended config) ∧
    invocation.operation = call.operation ∧ call.operation.allowed_in config.repository.mode = true ∧
    (∀ option ∈ (call.intended config).options, repository_option_disables_source_snapshots option.1 = false) ∧
    ∀ secret_refs invocation', call.invoke to_lowercase executable
      { config with repository := { config.repository with secret_refs } } = .ok invocation' →
      invocation'.arguments = invocation.arguments := by
  have hbuilds := invoke_builds h
  refine ⟨?_, hbuilds.operation, hbuilds.allowed, fun option hmem => ?_, fun secret_refs invocation' h' => ?_⟩
  · rw [hbuilds.arguments]
    refine parse_arguments hbuilds.valid fun hb => ?_
    cases call with
    | backup_with_required_exclusions exclusions => exact absurd rfl hb
    | _ => rfl
  · have hvalid := ((EffectiveConfig.validate_iff.1 hbuilds.valid).1 .RepositoryOptions).2 option hmem
    simp only [validate_option, check_bind_eq_ok, rejectIf_eq_ok] at hvalid
    exact hvalid.1
  · rw [(invoke_builds h').arguments, hbuilds.arguments]
    rfl

/-- An exclusion that looks like a switch, and an option whose value has an `=`. -/
def dashedExclusion : EffectiveConfig where
  backup := { paths := [⟨"C:\\Users"⟩], exclusions := ["--json"] }
  repository := {
    url := some "D:\\backups"
    options := (∅ : BTreeMap String String).insert "s3.layout" "a=b" }

theorem dashedExclusion_is_read :
    (BuilderCall.backup_with_required_exclusions [⟨"C:\\ProgramData\\ResticPal"⟩]).intended dashedExclusion =
      { options := [("s3.layout", "a=b")]
        exclusions := ["--json"]
        required_exclusions := ["C:\\ProgramData\\ResticPal"]
        keep := []
        switches := ["--cleanup-cache", "--json", "--use-fs-snapshot"]
        positional := ["backup", "C:\\Users"] } ∧
    ∃ invocation, (BuilderCall.backup_with_required_exclusions [⟨"C:\\ProgramData\\ResticPal"⟩]).invoke Text.to_ascii_lowercase
        ⟨"restic.exe"⟩ dashedExclusion = .ok invocation ∧
      parse_command_line invocation.arguments =
        some ((BuilderCall.backup_with_required_exclusions [⟨"C:\\ProgramData\\ResticPal"⟩]).intended dashedExclusion) := by
  refine ⟨by decide, ?_⟩
  have hinvoke : ∃ invocation, (BuilderCall.backup_with_required_exclusions [⟨"C:\\ProgramData\\ResticPal"⟩]).invoke Text.to_ascii_lowercase
      ⟨"restic.exe"⟩ dashedExclusion = .ok invocation := ⟨_, rfl⟩
  obtain ⟨invocation, h⟩ := hinvoke
  exact ⟨invocation, h, (command_line_means_config h).1⟩

end ResticPal
