import ResticPal.Core.Protected
import ResticPal.Rust.PathCase
/-!
# Containment of paths

`windows_path_is_same_or_descendant` compares normal forms: a path lies in a directory
when its normal form begins with the directory's. On absolute paths that do not go up
from their root this is a preorder, whose equivalence is having one normal form.

A path keeps its normal form when it is written another way, with two exceptions. A change
of case can turn its prefix into one of another family. And `std::path` gives a verbatim
prefix a root only where a separator follows it, so `\\?\UNC\server\share` has none and
`\\server\share` has one.

- `containment_iff`: the preorder, and which aliases it respects.
-/

open Lib

namespace ResticPal

/-- Lower case is taken character by character, by the table `fold`. -/
structure CaseFolding (to_lowercase : String → String) (fold : Char → List Char) : Prop where
  per_character : ∀ s, to_lowercase s = String.ofList (s.toList.flatMap fold)
  nonempty : ∀ c, fold c ≠ []
  ascii : ∀ c, c.toNat < 128 → fold c = [c.toLower]
  symbols : ∀ {c s}, s ∈ Path.symbols → fold c = [s] → c = s

/-- An absolute path that does not go up from its root. -/
structure PathBuf.Bounded (path : PathBuf) : Prop where
  absolute : path.is_absolute = true
  below : path.climbs = false

/-- Another way to write a path: with other letter case, or, as split into a prefix, a
root and names, with a `.` or a detour among the names, or with the other form of a
drive or UNC prefix. -/
inductive PathBuf.Alias (fold : Char → List Char) (path path' : PathBuf) : Prop
  | letterCase (text : List.Forall₂ (fun c c' => fold c = fold c') path.text.toList path'.text.toList)
  | dot {before after : List (List Char)} (same_kind : path'.prefixKind = path.prefixKind)
      (same_root : path'.has_root = path.has_root) (names : path.names = before ++ after)
      (names' : path'.names = before ++ ['.'] :: after)
  | detour {before after : List (List Char)} {name : List Char} (same_kind : path'.prefixKind = path.prefixKind)
      (same_root : path'.has_root = path.has_root) (ordinary : name ∉ [[], ['.'], ['.', '.']])
      (names : path.names = before ++ after) (names' : path'.names = before ++ name :: ['.', '.'] :: after)
  | drive {letter : Char}
      (switched : (path.prefixKind = some (.Disk letter) ∧ path'.prefixKind = some (.VerbatimDisk letter)) ∨
        (path.prefixKind = some (.VerbatimDisk letter) ∧ path'.prefixKind = some (.Disk letter)))
      (names : path'.names = path.names)
  | unc {server share : String}
      (switched : (path.prefixKind = some (.UNC server share) ∧ path'.prefixKind = some (.VerbatimUNC server share)) ∨
        (path.prefixKind = some (.VerbatimUNC server share) ∧ path'.prefixKind = some (.UNC server share)))
      (names : path'.names = path.names)

/-- The other directory's last name is this one's with something after it. -/
def PathBuf.Extends (directory longer : PathBuf) : Prop :=
  ∃ front name rest, rest ≠ "" ∧ directory.components = front ++ [.Normal name] ∧
    longer.components = front ++ [.Normal (name ++ rest)]

/-! ## Normal forms -/

section Normal

variable {to_lowercase : String → String}

/-- The move a name between separators makes. -/
def nameMove (to_lowercase : String → String) (name : List Char) : PathMove String :=
  if name = [] ∨ name = ['.'] then .stay
  else if name = ['.', '.'] then .up
  else .down (to_lowercase (String.ofList name))

/-- A name's component makes its move, and a name without a component stays. -/
theorem parse_single_component_move (verbatim : Bool) (name : List Char) :
    match Path.parse_single_component verbatim name with
    | some component => component.move to_lowercase = nameMove to_lowercase name
    | none => nameMove to_lowercase name = .stay := by
  unfold Path.parse_single_component nameMove
  by_cases hempty : name = []
  · simp [hempty]
  · by_cases hdot : name = ['.']
    · cases verbatim <;> simp [hdot, Component.move]
    · by_cases hup : name = ['.', '.']
      · simp [hup, Component.move]
      · simp [hempty, hdot, hup, Component.move]

theorem walkBelow_components (verbatim : Bool) (reached : List String) (names : List (List Char)) :
    walkBelow reached ((names.filterMap (Path.parse_single_component verbatim)).map (Component.move to_lowercase)) =
      walkBelow reached (names.map (nameMove to_lowercase)) := by
  suffices h : ∀ moves : List (PathMove String), walkBelow reached (moves ++
      (names.filterMap (Path.parse_single_component verbatim)).map (Component.move to_lowercase)) =
        walkBelow reached (moves ++ names.map (nameMove to_lowercase)) from h []
  induction names with
  | nil => exact fun _ => rfl
  | cons name names ih =>
    intro moves
    have hmove := @parse_single_component_move to_lowercase verbatim name
    cases hc : Path.parse_single_component verbatim name with
    | some component =>
      rw [hc] at hmove
      rw [List.filterMap_cons_some hc, List.map_cons, List.map_cons, hmove, List.append_cons, ih, ← List.append_cons]
    | none =>
      rw [hc] at hmove
      rw [List.filterMap_cons_none hc, List.map_cons, hmove, walkBelow_stay, ih]

theorem components_of_kind {path : PathBuf} {kind : Prefix} (hkind : path.prefixKind = some kind) :
    path.components = .Prefix kind :: ((if path.yields_root then [.RootDir] else []) ++
      path.names.filterMap (Path.parse_single_component path.verbatim)) := by
  have hdot : path.include_cur_dir = false := by rw [PathBuf.include_cur_dir, hkind, Option.isNone_some, Bool.false_and]
  rw [PathBuf.components, hkind, hdot]
  simp

/-- The normal form of an absolute path: its prefix, its root where it has one, and the names it leads to. -/
theorem normalized_of_absolute {path : PathBuf} {kind : Prefix} (habsolute : path.is_absolute = true)
    (hkind : path.prefixKind = some kind) : normalized_windows_path to_lowercase path =
      (walkBelow [] (path.names.map (nameMove to_lowercase))).map (fun names =>
        normalizedPrefix to_lowercase kind :: ((if path.yields_root then ["root"] else []) ++ names.map ("name:" ++ ·))) := by
  have hbelow : ∀ component ∈ path.names.filterMap (Path.parse_single_component path.verbatim),
      component.isBelow = true := by
    intro component hc
    obtain ⟨name, -, hname⟩ := List.mem_filterMap.1 hc
    exact parse_single_component_below hname
  have hwalk : ∀ base : List String, normalize to_lowercase base base.length
      (path.names.filterMap (Path.parse_single_component path.verbatim)) =
        (walkBelow [] (path.names.map (nameMove to_lowercase))).map (fun names => base ++ names.map ("name:" ++ ·)) := by
    intro base
    have h := @normalize_below to_lowercase base [] _ hbelow
    rw [walkBelow_components, List.map_nil, List.append_nil] at h
    exact h
  simp only [normalized_windows_path, habsolute, components_of_kind hkind, normalize, Bool.not_true,
    Bool.false_eq_true, if_false]
  cases path.yields_root with
  | true => exact hwalk [_, "root"]
  | false => exact hwalk [_]

/-- A normal form begins with the path's prefix and its root. -/
theorem normalized_eq_some {path : PathBuf} {normal : List String}
    (h : normalized_windows_path to_lowercase path = some normal) :
    path.is_absolute = true ∧ ∃ (kind : Prefix) (names : List String), path.prefixKind = some kind ∧
      normal = normalizedPrefix to_lowercase kind ::
        ((if path.yields_root then ["root"] else []) ++ names.map ("name:" ++ ·)) := by
  have habsolute : path.is_absolute = true := by
    by_contra hrelative
    simp [normalized_windows_path, hrelative] at h
  obtain ⟨kind, hkind⟩ := Option.isSome_iff_exists.1 (Bool.and_eq_true_iff.1 habsolute).2
  rw [normalized_of_absolute habsolute hkind] at h
  obtain ⟨names, -, rfl⟩ := Option.map_eq_some_iff.1 h
  exact ⟨habsolute, kind, names, hkind, rfl⟩

/-- A bounded path has a normal form. -/
theorem PathBuf.Bounded.normalized {path : PathBuf} (h : path.Bounded) :
    ∃ normal, normalized_windows_path to_lowercase path = some normal := by
  obtain ⟨kind, hkind⟩ := Option.isSome_iff_exists.1 (Bool.and_eq_true_iff.1 h.absolute).2
  have hclimbs : Lib.climbs 0 ((path.names.filterMap (Path.parse_single_component path.verbatim)).map
      (Component.move to_lowercase)) = false := by
    rw [climbs_move, ← h.below, PathBuf.climbs, components_of_kind hkind]
    cases path.yields_root <;> rfl
  have hwalk := (@walkBelow_eq_some _ [] _ _).2 ⟨hclimbs, rfl⟩
  rw [walkBelow_components] at hwalk
  exact ⟨_, by rw [normalized_of_absolute h.absolute hkind, hwalk, Option.map_some]⟩

theorem normalize_of_normalized {path : PathBuf} {normal : List String}
    (h : normalized_windows_path to_lowercase path = some normal) :
    normalize to_lowercase [] 0 path.components = some normal := by
  unfold normalized_windows_path at h
  split at h
  · cases h
  · exact h

/-- A last name comes last in the normal form. -/
theorem normalize_concat (normal : List String) (floor : Nat) (front : List Component) (name : String) :
    normalize to_lowercase normal floor (front ++ [.Normal name]) =
      (normalize to_lowercase normal floor front).map (· ++ ["name:" ++ to_lowercase name]) := by
  induction front generalizing normal floor with
  | nil => rfl
  | cons component front ih =>
    cases component with
    | Prefix kind => exact ih _ _
    | RootDir => exact ih _ _
    | CurDir => exact ih _ _
    | Normal value => exact ih _ _
    | ParentDir =>
      simp only [List.cons_append, normalize]
      split
      · rfl
      · exact ih _ _

/-- Containment compares normal forms from their start. -/
theorem contained_iff {path directory : PathBuf} :
    windows_path_is_same_or_descendant to_lowercase path directory = true ↔
      ∃ inner outer, normalized_windows_path to_lowercase path = some inner ∧
        normalized_windows_path to_lowercase directory = some outer ∧ outer <+: inner := by
  unfold windows_path_is_same_or_descendant
  cases normalized_windows_path to_lowercase path with
  | none => simp
  | some inner =>
    cases normalized_windows_path to_lowercase directory with
    | none => simp
    | some outer =>
      simp only [isPrefix_iff_zip, Option.some.injEq, exists_and_left, exists_eq_left']

/-- The answers do not tell apart paths of one normal form. -/
theorem contained_congr {path path' : PathBuf}
    (h : normalized_windows_path to_lowercase path = normalized_windows_path to_lowercase path') (other : PathBuf) :
    windows_path_is_same_or_descendant to_lowercase path other =
        windows_path_is_same_or_descendant to_lowercase path' other ∧
      windows_path_is_same_or_descendant to_lowercase other path =
        windows_path_is_same_or_descendant to_lowercase other path' := by
  constructor
  · rw [Bool.eq_iff_iff, contained_iff, contained_iff, h]
  · rw [Bool.eq_iff_iff, contained_iff, contained_iff, h]

/-! ## The preorder -/

theorem contained_refl {path : PathBuf} (h : path.Bounded) :
    windows_path_is_same_or_descendant to_lowercase path path = true := by
  obtain ⟨normal, hpath⟩ := h.normalized
  exact contained_iff.2 ⟨_, _, hpath, hpath, List.prefix_rfl⟩

theorem contained_trans {path middle directory : PathBuf}
    (h₁ : windows_path_is_same_or_descendant to_lowercase path middle = true)
    (h₂ : windows_path_is_same_or_descendant to_lowercase middle directory = true) :
    windows_path_is_same_or_descendant to_lowercase path directory = true := by
  obtain ⟨inner, outer, hpath, hmiddle, houter⟩ := contained_iff.1 h₁
  obtain ⟨inner', outer', hmiddle', hdirectory, houter'⟩ := contained_iff.1 h₂
  obtain rfl : outer = inner' := Option.some.inj (hmiddle.symm.trans hmiddle')
  exact contained_iff.2 ⟨_, _, hpath, hdirectory, houter'.trans houter⟩

theorem contained_antisymm {path other : PathBuf} (hpath : path.Bounded) :
    (windows_path_is_same_or_descendant to_lowercase path other = true ∧
        windows_path_is_same_or_descendant to_lowercase other path = true) ↔
      normalized_windows_path to_lowercase path = normalized_windows_path to_lowercase other := by
  constructor
  · rintro ⟨h₁, h₂⟩
    obtain ⟨inner, outer, hin, hout, hbegins⟩ := contained_iff.1 h₁
    obtain ⟨inner', outer', hin', hout', hbegins'⟩ := contained_iff.1 h₂
    obtain rfl : outer = inner' := Option.some.inj (hout.symm.trans hin')
    obtain rfl : inner = outer' := Option.some.inj (hin.symm.trans hout')
    rw [hin, hout, hbegins.eq_of_length_le hbegins'.length_le]
  · intro h
    rw [← (contained_congr h path).2, ← (contained_congr h path).1, and_self]
    exact contained_refl hpath

/-! ## Other ways to write a path -/

/-- Prefixes of different families have different normal forms. -/
theorem family_of_normalizedPrefix {kind kind' : Prefix}
    (h : normalizedPrefix to_lowercase kind = normalizedPrefix to_lowercase kind') : kind.family = kind'.family := by
  have hstart : ∀ kind : Prefix, (normalizedPrefix to_lowercase kind).toList.take 2 = match kind.family with
      | .disk => ['d', 'i']
      | .unc => ['u', 'n']
      | .device => ['d', 'e']
      | .verbatim => ['v', 'e'] := by
    intro kind
    cases kind <;> simp [normalizedPrefix, Prefix.family]
  have hsame := (hstart kind).symm.trans ((congrArg (fun s => s.toList.take 2) h).trans (hstart kind'))
  cases hk : kind.family <;> cases hk' : kind'.family <;> simp [hk, hk'] at hsame ⊢

/-- A root is no name. -/
theorem root_of_normal {root root' : Bool} {names names' : List String}
    (h : (if root then ["root"] else []) ++ names.map ("name:" ++ ·) =
      (if root' then ["root"] else []) ++ names'.map ("name:" ++ ·)) : root = root' := by
  have hname : ∀ {names rest : List String}, names.map ("name:" ++ ·) ≠ "root" :: rest := by
    intro names rest heq
    obtain ⟨name, -, -, hfirst, -⟩ := List.map_eq_cons_iff.1 heq
    simp [String.ext_iff] at hfirst
  cases root <;> cases root'
  · rfl
  · exact absurd h hname
  · exact absurd h.symm hname
  · rfl

/-- Paths of one normal form start alike. -/
theorem start_of_normalized {path path' : PathBuf} {normal : List String}
    (h : normalized_windows_path to_lowercase path = some normal)
    (h' : normalized_windows_path to_lowercase path' = some normal) :
    path'.is_absolute = true ∧ path.family = path'.family ∧ path.yields_root = path'.yields_root := by
  obtain ⟨-, kind, names, hkind, rfl⟩ := normalized_eq_some h
  obtain ⟨habsolute, kind', names', hkind', hnormal⟩ := normalized_eq_some h'
  obtain ⟨hstart, hrest⟩ := List.cons.inj hnormal
  refine ⟨habsolute, ?_, root_of_normal hrest⟩
  rw [PathBuf.family, PathBuf.family, hkind, hkind', Option.map_some, Option.map_some, family_of_normalizedPrefix hstart]

/-- No path lies in one on another drive. -/
theorem not_contained_of_drive {path directory : PathBuf} {drive drive' : Char} (hkind : path.prefixKind = some (.Disk drive))
    (hkind' : directory.prefixKind = some (.Disk drive')) (hdrive : drive.toLower ≠ drive'.toLower) :
    windows_path_is_same_or_descendant to_lowercase path directory = false := by
  by_contra hcontained
  obtain ⟨inner, outer, hinner, houter, hbegins⟩ := contained_iff.1 (Bool.eq_true_of_not_eq_false hcontained)
  obtain ⟨-, kind, names, hk, rfl⟩ := normalized_eq_some hinner
  obtain ⟨-, kind', names', hk', rfl⟩ := normalized_eq_some houter
  obtain rfl := Option.some.inj (hk.symm.trans hkind)
  obtain rfl := Option.some.inj (hk'.symm.trans hkind')
  have hsame := (List.cons_prefix_cons.1 hbegins).1
  simp only [normalizedPrefix] at hsame
  simp [String.ext_iff] at hsame
  exact hdrive hsame.symm

/-- Absolute paths that start alike and whose names lead to one place have one normal form. -/
theorem normalized_congr {path path' : PathBuf} (habsolute : path.is_absolute = true) (habsolute' : path'.is_absolute = true)
    (hkinds : path'.prefixKind.map (normalizedPrefix to_lowercase) =
      path.prefixKind.map (normalizedPrefix to_lowercase)) (hroot : path.yields_root = path'.yields_root)
    (hnames : walkBelow [] (path'.names.map (nameMove to_lowercase)) =
      walkBelow [] (path.names.map (nameMove to_lowercase))) :
    normalized_windows_path to_lowercase path' = normalized_windows_path to_lowercase path := by
  obtain ⟨kind, hkind⟩ := Option.isSome_iff_exists.1 (Bool.and_eq_true_iff.1 habsolute).2
  obtain ⟨kind', hkind'⟩ := Option.isSome_iff_exists.1 (Bool.and_eq_true_iff.1 habsolute').2
  rw [hkind, hkind', Option.map_some, Option.map_some, Option.some.injEq] at hkinds
  rw [normalized_of_absolute habsolute hkind, normalized_of_absolute habsolute' hkind', hnames, hkinds, hroot]

variable {fold : Char → List Char} (folding : CaseFolding to_lowercase fold)

include folding

theorem CaseFolding.keepsSymbols : KeepsSymbols (fun c c' => fold c = fold c') := by
  have hself : ∀ s ∈ Path.symbols, fold s = [s] := by
    intro s hs
    have hascii : s.toNat < 128 ∧ s.toLower = s := by
      simp only [Path.symbols, List.mem_cons, List.not_mem_nil, or_false] at hs
      obtain rfl | rfl | rfl | rfl | rfl := hs
      all_goals decide
    rw [folding.ascii s hascii.1, hascii.2]
  constructor
  · rintro c c' s h hs rfl
    exact folding.symbols hs (h.symm.trans (hself c hs))
  · rintro c c' s h hs rfl
    exact folding.symbols hs (h.trans (hself c' hs))

theorem CaseFolding.lowercase_eq {a b : List Char} (h : List.Forall₂ (fun c c' => fold c = fold c') a b) :
    to_lowercase (String.ofList a) = to_lowercase (String.ofList b) := by
  have hflat : a.flatMap fold = b.flatMap fold := by
    induction h with
    | nil => rfl
    | cons hc _ ih => rw [List.flatMap_cons, List.flatMap_cons, hc, ih]
  rw [folding.per_character, folding.per_character, String.toList_ofList, String.toList_ofList, hflat]

theorem CaseFolding.drive_eq {c d : Char} (h : fold c = fold d) (hc : c.isAlpha = true) (hd : d.isAlpha = true) :
    c.toUpper.toLower = d.toUpper.toLower := by
  have hcase : ∀ {c : Char}, c.isAlpha = true → c.toNat < 128 ∧ c.toUpper.toLower = c.toLower := by
    intro c hc
    have hascii : c.toNat < 128 := by
      have hrange : (decide ('A'.val ≤ c.val ∧ c.val ≤ 'Z'.val) ||
          decide ('a'.val ≤ c.val) && decide (c.val ≤ 'z'.val)) = true := hc
      simp only [Bool.or_eq_true, Bool.and_eq_true, decide_eq_true_eq] at hrange
      rcases hrange with ⟨-, hupper⟩ | ⟨-, hlower⟩
      · have hle : c.toNat ≤ 90 := UInt32.le_iff_toNat_le.1 hupper
        omega
      · have hle : c.toNat ≤ 122 := UInt32.le_iff_toNat_le.1 hlower
        omega
    have hall : ∀ n < 128, (Char.ofNat n).toUpper.toLower = (Char.ofNat n).toLower := by decide
    refine ⟨hascii, ?_⟩
    have hletter := hall c.toNat hascii
    rwa [Char.ofNat_toNat] at hletter
  rw [(hcase hc).2, (hcase hd).2]
  rw [folding.ascii c (hcase hc).1, folding.ascii d (hcase hd).1] at h
  exact List.singleton_inj.1 h

theorem CaseFolding.normalizedPrefix_eq {kind kind' : Prefix}
    (h : Prefix.Variant (fun c c' => fold c = fold c') kind kind') :
    normalizedPrefix to_lowercase kind = normalizedPrefix to_lowercase kind' := by
  cases h with
  | verbatim h => simp only [normalizedPrefix, folding.lowercase_eq h]
  | verbatimUNC hs ht => simp only [normalizedPrefix, folding.lowercase_eq hs, folding.lowercase_eq ht]
  | verbatimDisk h hc hd => simp only [normalizedPrefix, folding.drive_eq h hc hd]
  | deviceNS h => simp only [normalizedPrefix, folding.lowercase_eq h]
  | unc hs ht => simp only [normalizedPrefix, folding.lowercase_eq hs, folding.lowercase_eq ht]
  | disk h hc hd => simp only [normalizedPrefix, folding.drive_eq h hc hd]

theorem CaseFolding.nameMove_eq {name name' : List Char}
    (h : List.Forall₂ (fun c c' => fold c = fold c') name name') :
    nameMove to_lowercase name = nameMove to_lowercase name' := by
  have hdot : name = ['.'] ↔ name' = ['.'] := folding.keepsSymbols.eq_symbols_iff h (by simp [Path.symbols])
  have hup : name = ['.', '.'] ↔ name' = ['.', '.'] := folding.keepsSymbols.eq_symbols_iff h (by simp [Path.symbols])
  have hempty : name = [] ↔ name' = [] := folding.keepsSymbols.eq_symbols_iff h (by simp)
  simp only [nameMove, hdot, hup, hempty, folding.lowercase_eq h]

theorem CaseFolding.moves_eq {names names' : List (List Char)}
    (h : List.Forall₂ (List.Forall₂ (fun c c' => fold c = fold c')) names names') :
    names.map (nameMove to_lowercase) = names'.map (nameMove to_lowercase) := by
  induction h with
  | nil => rfl
  | cons hname _ ih => rw [List.map_cons, List.map_cons, folding.nameMove_eq hname, ih]

/-- An absolute alias of the same family and root has the same normal form. -/
theorem PathBuf.Alias.normalized_eq {path path' : PathBuf} (h : path.Alias fold path')
    (habsolute : path.is_absolute = true) (habsolute' : path'.is_absolute = true)
    (hfamily : path.family = path'.family) (hroot : path.yields_root = path'.yields_root) :
    normalized_windows_path to_lowercase path' = normalized_windows_path to_lowercase path := by
  cases h with
  | letterCase text =>
    obtain ⟨hkinds, -, hnames⟩ := split_variant folding.keepsSymbols text hfamily
    refine normalized_congr habsolute habsolute' ?_ hroot (by rw [folding.moves_eq hnames])
    generalize path.prefixKind = kind, path'.prefixKind = kind' at hkinds
    cases hkinds with
    | none => rfl
    | some hkind => rw [Option.map_some, Option.map_some, folding.normalizedPrefix_eq hkind]
  | dot same_kind same_root names names' =>
    refine normalized_congr habsolute habsolute' (by rw [same_kind]) hroot ?_
    rw [names, names', List.map_append, List.map_append, List.map_cons]
    exact walkBelow_stay _ _ _
  | @detour before after name same_kind same_root ordinary names names' =>
    refine normalized_congr habsolute habsolute' (by rw [same_kind]) hroot ?_
    have hdown : nameMove to_lowercase name = .down (to_lowercase (String.ofList name)) := by
      simp only [List.mem_cons, List.not_mem_nil, or_false, not_or] at ordinary
      simp [nameMove, ordinary]
    rw [names, names', List.map_append, List.map_append, List.map_cons, List.map_cons, hdown]
    exact walkBelow_detour _ _ _ _
  | drive switched names =>
    refine normalized_congr habsolute habsolute' ?_ hroot (by rw [names])
    obtain ⟨hkind, hkind'⟩ | ⟨hkind, hkind'⟩ := switched
    · rw [hkind, hkind']
      rfl
    · rw [hkind, hkind']
      rfl
  | unc switched names =>
    refine normalized_congr habsolute habsolute' ?_ hroot (by rw [names])
    obtain ⟨hkind, hkind'⟩ | ⟨hkind, hkind'⟩ := switched
    · rw [hkind, hkind']
      rfl
    · rw [hkind, hkind']
      rfl

/-- A longer name is another name in lower case too. -/
theorem CaseFolding.longer_name {name rest : String} (h : rest ≠ "") :
    to_lowercase name ≠ to_lowercase (name ++ rest) := by
  intro heq
  rw [folding.per_character, folding.per_character, String.toList_append, List.flatMap_append, String.ofList_inj] at heq
  have hrest : rest.toList.flatMap fold = [] := List.self_eq_append_right.1 heq
  cases hc : rest.toList with
  | nil => exact h (String.toList_eq_nil_iff.1 hc)
  | cons c _ =>
    rw [List.flatMap_eq_nil_iff] at hrest
    exact folding.nonempty c (hrest c (by rw [hc]; exact List.mem_cons_self))

theorem PathBuf.Extends.not_contained {directory longer : PathBuf} (h : directory.Extends longer) :
    windows_path_is_same_or_descendant to_lowercase longer directory = false := by
  obtain ⟨front, name, rest, hrest, hdirectory, hlonger⟩ := h
  by_contra hcontained
  obtain ⟨inner, outer, hinner, houter, hbegins⟩ := contained_iff.1 (Bool.eq_true_of_not_eq_false hcontained)
  have hin := normalize_of_normalized hinner
  have hout := normalize_of_normalized houter
  rw [hlonger, normalize_concat] at hin
  rw [hdirectory, normalize_concat] at hout
  obtain ⟨base, hbase, rfl⟩ := Option.map_eq_some_iff.1 hin
  obtain ⟨base', hbase', rfl⟩ := Option.map_eq_some_iff.1 hout
  obtain rfl : base = base' := Option.some.inj (hbase.symm.trans hbase')
  have hname := hbegins.eq_of_length (by simp)
  simp only [List.append_cancel_left_eq, List.cons.injEq, and_true, String.append_right_inj] at hname
  exact folding.longer_name hrest hname

/-- The preorder of containment on bounded paths, and the aliases it respects: the absolute
ones that keep the family of the path's prefix and its root. -/
theorem containment_iff :
    (∀ path : PathBuf, path.Bounded → windows_path_is_same_or_descendant to_lowercase path path = true) ∧
    (∀ path middle directory : PathBuf, path.Bounded → middle.Bounded → directory.Bounded →
      windows_path_is_same_or_descendant to_lowercase path middle = true →
      windows_path_is_same_or_descendant to_lowercase middle directory = true →
      windows_path_is_same_or_descendant to_lowercase path directory = true) ∧
    (∀ path other : PathBuf, path.Bounded → other.Bounded →
      ((windows_path_is_same_or_descendant to_lowercase path other = true ∧
          windows_path_is_same_or_descendant to_lowercase other path = true) ↔
        normalized_windows_path to_lowercase path = normalized_windows_path to_lowercase other)) ∧
    (∀ directory longer : PathBuf, directory.Bounded → directory.Extends longer →
      windows_path_is_same_or_descendant to_lowercase longer directory = false) ∧
    (∀ path path' : PathBuf, path.Bounded → path.Alias fold path' →
      ((∀ other : PathBuf, other.Bounded →
          windows_path_is_same_or_descendant to_lowercase path' other =
              windows_path_is_same_or_descendant to_lowercase path other ∧
            windows_path_is_same_or_descendant to_lowercase other path' =
              windows_path_is_same_or_descendant to_lowercase other path) ↔
        path'.is_absolute = true ∧ path.family = path'.family ∧ path.yields_root = path'.yields_root)) := by
  refine ⟨fun path h => contained_refl h, fun _ _ _ _ _ _ => contained_trans, fun _ _ h _ => contained_antisymm h,
    fun _ _ _ h => h.not_contained folding, fun path path' hbounded halias => ⟨fun hsame => ?_, ?_⟩⟩
  · obtain ⟨normal, hnormal⟩ := hbounded.normalized
    obtain ⟨hfrom, hinto⟩ := hsame path hbounded
    rw [contained_refl hbounded] at hfrom hinto
    have hequal := (contained_antisymm hbounded).1 ⟨hinto, hfrom⟩
    exact start_of_normalized hnormal (hequal.symm.trans hnormal)
  · rintro ⟨habsolute, hfamily, hroot⟩ other -
    exact contained_congr (halias.normalized_eq folding hbounded.absolute habsolute hfamily hroot) other

end Normal

namespace VerbatimMarker

open Text (to_ascii_lowercase)

def fold (c : Char) : List Char := [c.toLower]

theorem folding : CaseFolding to_ascii_lowercase fold where
  per_character s := by rw [to_ascii_lowercase, List.map_eq_flatMap]; rfl
  nonempty c := by simp [fold]
  ascii c _ := rfl
  symbols := by
    intro c s hs h
    have hlower : c.toLower = s := List.singleton_inj.1 h
    by_cases hascii : c.toNat < 128
    · have hall : ∀ n < 128, (Char.ofNat n).toLower ∈ Path.symbols → Char.ofNat n = (Char.ofNat n).toLower := by decide
      have hsymbol := hall c.toNat hascii
      rw [Char.ofNat_toNat, hlower] at hsymbol
      exact hsymbol hs
    · have hupper : ¬ (c.val ≥ 'A'.val ∧ c.val ≤ 'Z'.val) := by
        rintro ⟨-, hmax⟩
        have hlt : c.toNat ≤ 90 := UInt32.le_iff_toNat_le.1 hmax
        omega
      have hsame : c.toLower = c := dif_neg hupper
      exact hsame.symm.trans hlower

/-- A folder on a share, by the verbatim form of its prefix. -/
def marked : PathBuf := ⟨"\\\\?\\UNC\\server\\share\\data"⟩

def lowered : PathBuf := ⟨"\\\\?\\unc\\server\\share\\data"⟩

def share : PathBuf := ⟨"\\\\SERVER\\share"⟩

/-- In lower case, the marker of a verbatim UNC prefix is a name, and the folder lies on no share. -/
theorem lowered_marker_leaves_share :
    marked.Bounded ∧ lowered.Bounded ∧ share.Bounded ∧ marked.Alias fold lowered ∧
      windows_path_is_same_or_descendant to_ascii_lowercase marked share = true ∧
      windows_path_is_same_or_descendant to_ascii_lowercase lowered share = false := by
  refine ⟨⟨by decide, by decide⟩, ⟨by decide, by decide⟩, ⟨by decide, by decide⟩, .letterCase ?_, by decide, by decide⟩
  decide

/-- A verbatim share has a root only where a separator follows it. -/
example : windows_path_is_same_or_descendant to_ascii_lowercase ⟨"\\\\?\\UNC\\server\\share"⟩ share = false ∧
    windows_path_is_same_or_descendant to_ascii_lowercase ⟨"\\\\?\\UNC\\server\\share\\"⟩ share = true := by
  decide

def report : PathBuf := ⟨"C:\\Data\\Report"⟩

def recased : PathBuf := ⟨"c:\\DATA\\report"⟩

/-- On a drive, all letters may change. -/
theorem drive_letters_may_change : report.family = recased.family ∧
    windows_path_is_same_or_descendant to_ascii_lowercase recased ⟨"C:\\data"⟩ = true := by
  have hfamily : report.family = recased.family := by decide
  have halias : report.Alias fold recased := .letterCase (by decide)
  have hsame := ((containment_iff folding).2.2.2.2 report recased ⟨by decide, by decide⟩ halias).2
    ⟨by decide, hfamily, by decide⟩ ⟨"C:\\data"⟩ ⟨by decide, by decide⟩
  exact ⟨hfamily, hsame.1.trans (by decide)⟩

end VerbatimMarker

end ResticPal
