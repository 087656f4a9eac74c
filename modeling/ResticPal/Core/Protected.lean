import ResticPal.Lib.Lexical
import ResticPal.Core.Restic
/-!
# Protected directories

A backup must not name a source inside a directory the service keeps to itself.
`lexical_resolution` is where Windows takes a path on a drive without asking the
file system: `.` stays, `..` leaves the last name and does nothing at the root.
`normalized_windows_path` does the same up to that last point, where it gives
up, and a path it gives up on lies in no directory.
-/

open Lib

namespace ResticPal

/-- The drive of a plain or verbatim drive prefix. -/
def Prefix.drive : Prefix → Option Char
  | .Disk drive | .VerbatimDisk drive => some drive
  | _ => none

section Resolution

variable (to_lowercase : String → String)

/-- The move a component below the root makes, with names compared in lower case. -/
def Component.move : Component → PathMove String
  | .ParentDir => .up
  | .Normal value => .down (to_lowercase value)
  | _ => .stay

/-- The drive and the names below its root that a path leads to. -/
def PathBuf.lexical_resolution (path : PathBuf) : Option (Char × List String) :=
  match path.components with
  | .Prefix kind :: .RootDir :: components =>
    kind.drive.map (fun drive => (drive.toLower, walk [] (components.map (Component.move to_lowercase))))
  | _ => none

end Resolution

/-- The path goes up from its root. -/
def PathBuf.climbs (path : PathBuf) : Bool := Lib.climbs 0 (path.components.map (Component.move id))

/-! ## Components -/

def Component.isBelow : Component → Bool
  | .Prefix _ | .RootDir => false
  | _ => true

theorem parse_single_component_below {verbatim : Bool} {name : List Char} {component : Component}
    (h : Path.parse_single_component verbatim name = some component) : component.isBelow = true := by
  unfold Path.parse_single_component at h
  split at h
  · cases h
  · split at h
    · split at h
      · cases h
        rfl
      · cases h
    · split at h <;> cases h <;> rfl

/-- A path is its prefix, its root and what lies below them. -/
theorem components_eq (path : PathBuf) : ∃ below, (∀ component ∈ below, component.isBelow = true) ∧
    path.components = path.prefixKind.toList.map .Prefix ++ (if path.yields_root then [.RootDir] else []) ++ below := by
  refine ⟨_, fun component hc => ?_, List.append_assoc _ _ _⟩
  rcases List.mem_append.1 hc with hc | hc
  · split at hc
    · rw [List.mem_singleton.1 hc]
      rfl
    · cases hc
  · obtain ⟨name, -, hname⟩ := List.mem_filterMap.1 hc
    exact parse_single_component_below hname

theorem has_root_of_yields_root {path : PathBuf} (h : path.yields_root = true) : path.has_root = true := by
  rw [PathBuf.yields_root, Bool.or_eq_true] at h
  rw [PathBuf.has_root, Bool.or_eq_true]
  refine h.imp_right fun himplied => ?_
  cases hkind : path.prefixKind with
  | none => simp [hkind] at himplied
  | some kind =>
    rw [hkind, Option.any_some, Bool.and_eq_true] at himplied
    exact himplied.1

/-- A path that begins with a prefix and a root is absolute, and neither comes again. -/
theorem components_of_rooted {path : PathBuf} {kind : Prefix} {components : List Component}
    (h : path.components = .Prefix kind :: .RootDir :: components) :
    path.is_absolute = true ∧ ∀ component ∈ components, component.isBelow = true := by
  obtain ⟨below, hbelow, hc⟩ := components_eq path
  have hroot := @has_root_of_yields_root path
  rw [hc] at h
  unfold PathBuf.is_absolute
  generalize path.prefixKind = kind?, path.yields_root = rooted at h hroot ⊢
  cases kind? with
  | none =>
    cases rooted with
    | true => cases h
    | false =>
      obtain rfl : below = .Prefix kind :: .RootDir :: components := h
      cases hbelow _ List.mem_cons_self
  | some kind' =>
    cases rooted with
    | false =>
      obtain rfl : below = .RootDir :: components := (List.cons.inj h).2
      cases hbelow _ List.mem_cons_self
    | true =>
      obtain rfl : below = components := (List.cons.inj (List.cons.inj h).2).2
      exact ⟨by rw [hroot rfl, Option.isSome_some, Bool.and_self], hbelow⟩

/-! ## Normalized paths -/

section Normalized

variable {to_lowercase : String → String}

theorem climbs_move (depth : Nat) (components : List Component) :
    Lib.climbs depth (components.map (Component.move to_lowercase)) =
      Lib.climbs depth (components.map (Component.move id)) := by
  induction components generalizing depth with
  | nil => rfl
  | cons component components ih =>
    cases component <;> simp only [List.map_cons, Component.move, Lib.climbs, ih]

/-- Below the root, normalizing is a walk that does not go up from it. -/
theorem normalize_below {base names : List String} {components : List Component}
    (h : ∀ component ∈ components, component.isBelow = true) :
    normalize to_lowercase (base ++ names.map ("name:" ++ ·)) base.length components =
      (walkBelow names (components.map (Component.move to_lowercase))).map
        (fun names => base ++ names.map ("name:" ++ ·)) := by
  induction components generalizing names with
  | nil => rfl
  | cons component components ih =>
    have hrest : ∀ component ∈ components, component.isBelow = true :=
      fun component hc => h component (List.mem_cons_of_mem _ hc)
    cases component with
    | Prefix kind => cases h _ List.mem_cons_self
    | RootDir => cases h _ List.mem_cons_self
    | CurDir => exact ih hrest
    | Normal value =>
      have hnames : base ++ names.map ("name:" ++ ·) ++ ["name:" ++ to_lowercase value] =
          base ++ (names ++ [to_lowercase value]).map ("name:" ++ ·) := by simp
      simp only [normalize, List.map_cons, Component.move, walkBelow, hnames]
      exact ih hrest
    | ParentDir =>
      simp only [normalize, List.map_cons, Component.move, walkBelow, List.length_append, List.length_map]
      rcases List.eq_nil_or_concat names with rfl | ⟨names, name, rfl⟩
      · simp
      · have hdrop : (base ++ (names ++ [name]).map ("name:" ++ ·)).dropLast = base ++ names.map ("name:" ++ ·) := by
          rw [List.map_append, ← List.append_assoc, List.map_singleton, List.dropLast_concat]
        simp only [List.concat_eq_append] at *
        rw [hdrop, if_neg (by simp), if_neg (by simp), List.dropLast_concat]
        exact ih hrest

theorem normalized_windows_path_eq {path : PathBuf} {drive : Char} {names : List String}
    (h : path.lexical_resolution to_lowercase = some (drive, names)) :
    normalized_windows_path to_lowercase path =
      if path.climbs then none
      else some (["disk:" ++ String.ofList [drive], "root"] ++ names.map ("name:" ++ ·)) := by
  unfold PathBuf.lexical_resolution at h
  split at h
  · rename_i kind components hc
    obtain ⟨letter, hletter, hresolved⟩ := Option.map_eq_some_iff.1 h
    obtain ⟨rfl, rfl⟩ := Prod.mk.inj hresolved
    obtain ⟨habsolute, hbelow⟩ := components_of_rooted hc
    have hprefix : normalizedPrefix to_lowercase kind = "disk:" ++ String.ofList [letter.toLower] := by
      cases kind <;> cases hletter <;> rfl
    have hclimbs : path.climbs = Lib.climbs 0 (components.map (Component.move to_lowercase)) := by
      rw [PathBuf.climbs, hc, climbs_move 0 components]
      rfl
    have hwalk := @normalize_below to_lowercase ["disk:" ++ String.ofList [letter.toLower], "root"] [] components hbelow
    simp only [normalized_windows_path, habsolute, Bool.not_true, Bool.false_eq_true, if_false, hc, normalize, hprefix,
      List.nil_append, List.length_singleton]
    refine Eq.trans hwalk ?_
    cases hw : walkBelow [] (components.map (Component.move to_lowercase)) with
    | some reached =>
      obtain ⟨hbelow, rfl⟩ := walkBelow_eq_some.1 hw
      rw [hclimbs, show Lib.climbs 0 _ = false from hbelow]
      rfl
    | none =>
      cases hcl : path.climbs with
      | true => rfl
      | false =>
        rw [hclimbs] at hcl
        have hreached := (@walkBelow_eq_some _ [] _ _).2 ⟨hcl, rfl⟩
        rw [hw] at hreached
        cases hreached
  · cases h

/-- A path that leads into a directory is found there, unless one of the two goes up from the root. -/
theorem same_or_descendant_iff {source directory : PathBuf} {drive : Char} {names below : List String}
    (hs : source.lexical_resolution to_lowercase = some (drive, names))
    (hd : directory.lexical_resolution to_lowercase = some (drive, below)) (h : below <+: names) :
    windows_path_is_same_or_descendant to_lowercase source directory = true ↔
      source.climbs = false ∧ directory.climbs = false := by
  unfold windows_path_is_same_or_descendant
  rw [normalized_windows_path_eq hs, normalized_windows_path_eq hd]
  cases source.climbs with
  | true => simp
  | false =>
    cases directory.climbs with
    | true => simp
    | false =>
      simp only [Bool.false_eq_true, if_false, and_self, iff_true]
      rw [isPrefix_iff_zip, List.prefix_append_right_inj]
      exact h.map _

end Normalized

/-! ## Backups -/

/-- A valid configuration has no option that turns snapshots off. -/
theorem validate_snapshot_options {config : EffectiveConfig} (h : config.validate = .ok ()) :
    reject_snapshot_disabling_options config = .ok () := by
  simp only [EffectiveConfig.validate, check_bind_eq_ok, rejectIf_eq_ok, forM_eq_ok, validate_option] at h
  obtain ⟨-, -, -, -, -, -, -, -, -, -, hoptions, -⟩ := h
  unfold reject_snapshot_disabling_options
  split
  · rename_i option hfound
    obtain ⟨entry, hentry, rfl⟩ := List.mem_map.1 (List.mem_of_find?_eq_some hfound)
    have hdisables := List.find?_some hfound
    rw [(hoptions entry hentry).1] at hdisables
    cases hdisables
  · rfl

/-- A backup of a source that resolves to a required exclusion, or below it, is
refused exactly when neither path goes up from its root. Without a repository
it is refused for that reason first. -/
theorem protected_source_refused_iff (to_lowercase : String → String) (executable : PathBuf) (config : EffectiveConfig)
    (exclusions : List PathBuf) (source directory : PathBuf) (drive : Char) (names below : List String)
    (hvalid : config.validate = .ok ()) (hsource : source ∈ config.backup.paths) (hdirectory : directory ∈ exclusions)
    (hs : source.lexical_resolution to_lowercase = some (drive, names))
    (hd : directory.lexical_resolution to_lowercase = some (drive, below)) (h : below <+: names) :
    (windows_path_is_same_or_descendant to_lowercase source directory = true ∧
      ResticCommandBuilder.backup_with_required_exclusions to_lowercase executable config exclusions =
        .error .ProtectedBackupSource) ↔
    source.climbs = false ∧ directory.climbs = false ∧ config.repository.url.isSome := by
  have hiff := same_or_descendant_iff hs hd h
  have hauthorized : authorize_operation config.repository.mode .Backup = .ok () := by
    cases config.repository.mode <;> rfl
  have hpaths : config.backup.paths.isEmpty = false := by
    cases hp : config.backup.paths with
    | nil =>
      rw [hp] at hsource
      cases hsource
    | cons _ _ => rfl
  unfold ResticCommandBuilder.backup_with_required_exclusions
  rw [hauthorized, validate_snapshot_options hvalid, hvalid, hpaths]
  constructor
  · rintro ⟨hinside, hrefused⟩
    obtain ⟨hcs, hcd⟩ := hiff.1 hinside
    refine ⟨hcs, hcd, ?_⟩
    cases hu : config.repository.url with
    | some _ => rfl
    | none =>
      rw [hu] at hrefused
      cases hrefused
  · rintro ⟨hcs, hcd, hu⟩
    have hinside := hiff.2 ⟨hcs, hcd⟩
    have hany : config.backup.paths.any (fun source =>
        exclusions.any (windows_path_is_same_or_descendant to_lowercase source)) = true :=
      List.any_eq_true.2 ⟨source, hsource, List.any_eq_true.2 ⟨directory, hdirectory, hinside⟩⟩
    have hurl : config.repository.url.isNone = false := by simpa using hu
    refine ⟨hinside, ?_⟩
    rw [hany, hurl]
    rfl

namespace ClimbingSource

-- `str::to_lowercase` on the names used here
open Text (to_ascii_lowercase)

def executable : PathBuf := ⟨"restic.exe"⟩

def directory : PathBuf := ⟨"C:\\ProgramData\\ResticPal"⟩

def config (source : String) : EffectiveConfig where
  repository := { url := some "local:D:\\repo" }
  backup := { paths := [⟨source⟩] }

/-- A source below the directory, by way of the drive's root. -/
def climbing : String := "c:\\..\\ProgramData\\resticpal\\Credentials"

theorem climbing_source_is_backed_up :
    (config climbing).validate = .ok () ∧
    PathBuf.lexical_resolution to_ascii_lowercase ⟨climbing⟩ = some ('c', ["programdata", "resticpal", "credentials"]) ∧
    directory.lexical_resolution to_ascii_lowercase = some ('c', ["programdata", "resticpal"]) ∧
    windows_path_is_same_or_descendant to_ascii_lowercase ⟨climbing⟩ directory = false ∧
    (ResticCommandBuilder.backup_with_required_exclusions to_ascii_lowercase executable (config climbing) [directory]).isOk =
      true := by
  decide

def plain : String := "\\\\?\\C:\\Users\\..\\ProgramData\\RESTICPAL"

theorem plain_source_is_refused :
    ResticCommandBuilder.backup_with_required_exclusions to_ascii_lowercase executable (config plain) [directory] =
      .error .ProtectedBackupSource :=
  ((protected_source_refused_iff to_ascii_lowercase executable (config plain) [directory] ⟨plain⟩ directory 'c'
    ["programdata", "resticpal"] ["programdata", "resticpal"] (by decide) (List.mem_singleton_self _)
    (List.mem_singleton_self _) (by decide) (by decide) List.prefix_rfl).2 (by decide)).2

end ClimbingSource

end ResticPal
