import Mathlib.Data.List.Forall2
import ResticPal.Rust.Path
/-!
# Splitting paths that differ in case

Two texts are variants when they agree position by position up to a relation on
characters that keeps the symbols of path syntax. `std::path` splits variants alike, but
for the prefix: it recognises a drive by an ASCII letter, and the marker of
`\\?\UNC\` in upper case only. So `parse_prefix_variant` asks for prefixes of one
family, and everything after the prefix follows from that.
-/

namespace ResticPal

/-- The characters of path syntax. -/
def Path.symbols : List Char := ['\\', '/', ':', '.', '?']

/-- What kind of place a prefix names. -/
inductive PrefixFamily where
  | disk
  | unc
  | device
  | verbatim
  deriving DecidableEq

def Prefix.family : Prefix → PrefixFamily
  | .Disk _ | .VerbatimDisk _ => .disk
  | .UNC _ _ | .VerbatimUNC _ _ => .unc
  | .DeviceNS _ => .device
  | .Verbatim _ => .verbatim

namespace PathBuf

def family (path : PathBuf) : Option PrefixFamily := path.prefixKind.map Prefix.family

end PathBuf

/-- A relation on characters that tells symbols apart from everything else. -/
structure KeepsSymbols (R : Char → Char → Prop) : Prop where
  left : ∀ {c c' s}, R c c' → s ∈ Path.symbols → c = s → c' = s
  right : ∀ {c c' s}, R c c' → s ∈ Path.symbols → c' = s → c = s

section Variants

variable {R : Char → Char → Prop}

/-- Prefixes of one form whose texts are variants. -/
inductive Prefix.Variant (R : Char → Char → Prop) : Prefix → Prefix → Prop
  | verbatim {a b : List Char} (h : List.Forall₂ R a b) : Variant R (.Verbatim (.ofList a)) (.Verbatim (.ofList b))
  | verbatimUNC {a b c d : List Char} (hs : List.Forall₂ R a b) (ht : List.Forall₂ R c d) :
      Variant R (.VerbatimUNC (.ofList a) (.ofList c)) (.VerbatimUNC (.ofList b) (.ofList d))
  | verbatimDisk {c d : Char} (h : R c d) (hc : c.isAlpha = true) (hd : d.isAlpha = true) :
      Variant R (.VerbatimDisk c.toUpper) (.VerbatimDisk d.toUpper)
  | deviceNS {a b : List Char} (h : List.Forall₂ R a b) : Variant R (.DeviceNS (.ofList a)) (.DeviceNS (.ofList b))
  | unc {a b c d : List Char} (hs : List.Forall₂ R a b) (ht : List.Forall₂ R c d) :
      Variant R (.UNC (.ofList a) (.ofList c)) (.UNC (.ofList b) (.ofList d))
  | disk {c d : Char} (h : R c d) (hc : c.isAlpha = true) (hd : d.isAlpha = true) :
      Variant R (.Disk c.toUpper) (.Disk d.toUpper)

theorem Prefix.Variant.prefixLength_eq {kind kind' : Prefix} (h : Variant R kind kind') :
    Path.prefixLength kind = Path.prefixLength kind' := by
  have hempty : ∀ {c d : List Char}, List.Forall₂ R c d → (String.ofList c = "" ↔ String.ofList d = "") := by
    intro c d hcd
    cases hcd <;> simp
  cases h with
  | verbatim h => simp [Path.prefixLength, h.length_eq]
  | verbatimUNC hs ht => simp only [Path.prefixLength, String.length_ofList, hs.length_eq, ht.length_eq, hempty ht]
  | verbatimDisk => rfl
  | deviceNS h => simp [Path.prefixLength, h.length_eq]
  | unc hs ht => simp only [Path.prefixLength, String.length_ofList, hs.length_eq, ht.length_eq, hempty ht]
  | disk => rfl

theorem Prefix.Variant.isVerbatim_eq {kind kind' : Prefix} (h : Variant R kind kind') :
    Path.isVerbatim kind = Path.isVerbatim kind' := by
  cases h <;> rfl

theorem forall₂_takeWhile {p : Char → Bool} (hp : ∀ c c', R c c' → p c = p c') {xs ys : List Char}
    (h : List.Forall₂ R xs ys) : List.Forall₂ R (xs.takeWhile p) (ys.takeWhile p) := by
  induction h with
  | nil => exact .nil
  | @cons c c' xs ys hc _ ih =>
    rw [List.takeWhile_cons, List.takeWhile_cons, ← hp c c' hc]
    split
    · exact .cons hc ih
    · exact .nil

theorem forall₂_dropWhile {p : Char → Bool} (hp : ∀ c c', R c c' → p c = p c') {xs ys : List Char}
    (h : List.Forall₂ R xs ys) : List.Forall₂ R (xs.dropWhile p) (ys.dropWhile p) := by
  induction h with
  | nil => exact .nil
  | @cons c c' xs ys hc hrest ih =>
    rw [List.dropWhile_cons, List.dropWhile_cons, ← hp c c' hc]
    split
    · exact ih
    · exact .cons hc hrest

namespace KeepsSymbols

variable (keeps : KeepsSymbols R)

include keeps

theorem eq_iff {c c' s : Char} (h : R c c') (hs : s ∈ Path.symbols) : c = s ↔ c' = s :=
  ⟨keeps.left h hs, keeps.right h hs⟩

theorem is_sep_byte_eq {c c' : Char} (h : R c c') : Path.is_sep_byte c = Path.is_sep_byte c' := by
  have hback := keeps.eq_iff h (s := '\\') (by decide)
  have hslash := keeps.eq_iff h (s := '/') (by decide)
  rw [Bool.eq_iff_iff]
  simp only [Path.is_sep_byte, Bool.or_eq_true, beq_iff_eq, hback, hslash]

theorem is_verbatim_sep_eq {c c' : Char} (h : R c c') : Path.is_verbatim_sep c = Path.is_verbatim_sep c' := by
  rw [Bool.eq_iff_iff]
  simp only [Path.is_verbatim_sep, beq_iff_eq, keeps.eq_iff h (s := '\\') (by decide)]

/-- Only a text of symbols itself is a variant of it. -/
theorem eq_symbols_iff {xs ys pattern : List Char} (h : List.Forall₂ R xs ys)
    (hpattern : ∀ s ∈ pattern, s ∈ Path.symbols) : xs = pattern ↔ ys = pattern := by
  induction h generalizing pattern with
  | nil => rfl
  | @cons c c' xs ys hc _ ih =>
    cases pattern with
    | nil => simp
    | cons s pattern =>
      rw [List.cons.injEq, List.cons.injEq, keeps.eq_iff hc (hpattern s List.mem_cons_self),
        ih (fun s hs => hpattern s (List.mem_cons_of_mem _ hs))]

/-- Variants compare alike with a text of symbols, either slash standing for a backslash. -/
theorem map_slash_eq {xs ys pattern : List Char} (h : List.Forall₂ R xs ys)
    (hpattern : ∀ s ∈ pattern, s ∈ Path.symbols) :
    xs.map (fun c => if c == '/' then '\\' else c) = pattern ↔
      ys.map (fun c => if c == '/' then '\\' else c) = pattern := by
  induction h generalizing pattern with
  | nil => rfl
  | @cons c c' xs ys hc _ ih =>
    cases pattern with
    | nil => simp
    | cons s pattern =>
      have hs : s ∈ Path.symbols := hpattern s List.mem_cons_self
      have hslash := keeps.eq_iff hc (s := '/') (by decide)
      have hhead : (if c == '/' then '\\' else c) = s ↔ (if c' == '/' then '\\' else c') = s := by
        by_cases hsep : c = '/'
        · rw [hsep, hslash.1 hsep]
        · have hsep' : c' ≠ '/' := fun h => hsep (hslash.2 h)
          simp only [beq_iff_eq, hsep, hsep', if_false]
          exact keeps.eq_iff hc hs
      simp only [List.map_cons, List.cons.injEq, hhead, ih (fun s hs => hpattern s (List.mem_cons_of_mem _ hs))]

theorem stripStart_variant {xs ys pattern : List Char} (h : List.Forall₂ R xs ys)
    (hpattern : ∀ s ∈ pattern, s ∈ Path.symbols) :
    Option.Rel (List.Forall₂ R) (Path.stripStart pattern xs) (Path.stripStart pattern ys) := by
  have hiff := keeps.map_slash_eq (List.forall₂_take pattern.length h) hpattern
  unfold Path.stripStart
  by_cases hx : (xs.take pattern.length).map (fun c => if c == '/' then '\\' else c) = pattern
  · rw [if_pos hx, if_pos (hiff.1 hx)]
    exact .some (List.forall₂_drop pattern.length h)
  · rw [if_neg hx, if_neg (fun hy => hx (hiff.2 hy))]
    exact .none

theorem parse_next_component_variant {xs ys : List Char} (h : List.Forall₂ R xs ys) (verbatim : Bool) :
    List.Forall₂ R (Path.parse_next_component xs verbatim).1 (Path.parse_next_component ys verbatim).1 ∧
      List.Forall₂ R (Path.parse_next_component xs verbatim).2 (Path.parse_next_component ys verbatim).2 := by
  have hsep : ∀ c c', R c c' → (!(if verbatim then Path.is_verbatim_sep else Path.is_sep_byte) c) =
      !(if verbatim then Path.is_verbatim_sep else Path.is_sep_byte) c' := by
    intro c c' hc
    cases verbatim with
    | true => simp [keeps.is_verbatim_sep_eq hc]
    | false => simp [keeps.is_sep_byte_eq hc]
  exact ⟨forall₂_takeWhile hsep h, List.forall₂_drop 1 (forall₂_dropWhile hsep h)⟩

theorem mem_iff {xs ys : List Char} {s : Char} (h : List.Forall₂ R xs ys) (hs : s ∈ Path.symbols) :
    s ∈ xs ↔ s ∈ ys := by
  induction h with
  | nil => rfl
  | @cons c c' xs ys hc _ ih =>
    rw [List.mem_cons, List.mem_cons, ih, eq_comm, keeps.eq_iff hc hs, eq_comm]

theorem parse_unc_variant {xs ys : List Char} (h : List.Forall₂ R xs ys) :
    Option.Rel (Prefix.Variant R) (Path.parse_unc xs) (Path.parse_unc ys) := by
  obtain ⟨hserver, hrest⟩ := keeps.parse_next_component_variant h false
  obtain ⟨hshare, -⟩ := keeps.parse_next_component_variant hrest false
  have hempty : ∀ {a b : List Char}, List.Forall₂ R a b → (a = [] ↔ b = []) := by
    intro a b hab
    cases hab <;> simp
  simp only [Path.parse_unc, ne_eq, hempty hserver, hempty hshare]
  split
  · exact .some (.unc hserver hshare)
  · exact .none

end KeepsSymbols

theorem stripStart_eq_some {pattern xs rest : List Char} (h : Path.stripStart pattern xs = some rest) :
    rest = xs.drop pattern.length := by
  unfold Path.stripStart at h
  split at h
  · exact (Option.some.inj h).symm
  · cases h

theorem parse_drive_variant {xs ys : List Char} {drive drive' : Char} (h : List.Forall₂ R xs ys)
    (hx : Path.parse_drive xs = some drive) (hy : Path.parse_drive ys = some drive') :
    ∃ c d, R c d ∧ c.isAlpha = true ∧ d.isAlpha = true ∧ drive = c.toUpper ∧ drive' = d.toUpper := by
  have hletter : ∀ {zs : List Char} {letter : Char}, Path.parse_drive zs = some letter →
      ∃ c, zs.head? = some c ∧ c.isAlpha = true ∧ letter = c.toUpper := by
    intro zs letter hz
    unfold Path.parse_drive at hz
    split at hz
    · rename_i c rest
      split at hz
      · rename_i halpha
        exact ⟨c, rfl, halpha, (Option.some.inj hz).symm⟩
      · cases hz
    · cases hz
  obtain ⟨c, hc, hcalpha, rfl⟩ := hletter hx
  obtain ⟨d, hd, hdalpha, rfl⟩ := hletter hy
  cases h with
  | nil => cases hc
  | cons hcd _ =>
    cases hc
    cases hd
    exact ⟨_, _, hcd, hcalpha, hdalpha, rfl, rfl⟩

theorem parse_drive_exact_eq_some {xs : List Char} {drive : Char} (h : Path.parse_drive_exact xs = some drive) :
    Path.parse_drive xs = some drive := by
  unfold Path.parse_drive_exact at h
  split at h
  · exact h
  · cases h

section Families

variable (keeps : KeepsSymbols R) {xs ys : List Char} (h : List.Forall₂ R xs ys)

include keeps h

theorem parse_verbatim_variant (hfamily : (Path.parse_verbatim xs).family = (Path.parse_verbatim ys).family) :
    Prefix.Variant R (Path.parse_verbatim xs) (Path.parse_verbatim ys) := by
  have hname := (keeps.parse_next_component_variant h true).1
  unfold Path.parse_verbatim at hfamily ⊢
  cases hx : Path.stripStart ['U', 'N', 'C', '\\'] xs with
  | some restx =>
    cases hy : Path.stripStart ['U', 'N', 'C', '\\'] ys with
    | some resty =>
      have hrest : List.Forall₂ R restx resty := by
        rw [stripStart_eq_some hx, stripStart_eq_some hy]
        exact List.forall₂_drop _ h
      obtain ⟨hserver, hafter⟩ := keeps.parse_next_component_variant hrest true
      exact .verbatimUNC hserver (keeps.parse_next_component_variant hafter true).1
    | none =>
      rw [hx, hy] at hfamily
      dsimp only at hfamily
      split at hfamily <;> cases hfamily
  | none =>
    cases hy : Path.stripStart ['U', 'N', 'C', '\\'] ys with
    | some resty =>
      rw [hx, hy] at hfamily
      dsimp only at hfamily
      split at hfamily <;> cases hfamily
    | none =>
      rw [hx, hy] at hfamily
      dsimp only at hfamily ⊢
      cases hdx : Path.parse_drive_exact xs with
      | some drive =>
        cases hdy : Path.parse_drive_exact ys with
        | some drive' =>
          obtain ⟨c, d, hcd, hc, hd, rfl, rfl⟩ :=
            parse_drive_variant h (parse_drive_exact_eq_some hdx) (parse_drive_exact_eq_some hdy)
          exact .verbatimDisk hcd hc hd
        | none =>
          rw [hdx, hdy] at hfamily
          cases hfamily
      | none =>
        cases hdy : Path.parse_drive_exact ys with
        | some drive' =>
          rw [hdx, hdy] at hfamily
          cases hfamily
        | none => exact .verbatim hname

/-- Prefixes of one family are variants. -/
theorem parse_prefix_variant
    (hfamily : (Path.parse_prefix xs).map Prefix.family = (Path.parse_prefix ys).map Prefix.family) :
    Option.Rel (Prefix.Variant R) (Path.parse_prefix xs) (Path.parse_prefix ys) := by
  have hslash : '/' ∈ xs.take 4 ↔ '/' ∈ ys.take 4 := keeps.mem_iff (List.forall₂_take 4 h) (by decide)
  have hstart : Option.Rel (List.Forall₂ R) (Path.stripStart ['\\', '\\'] xs) (Path.stripStart ['\\', '\\'] ys) :=
    keeps.stripStart_variant h (by simp [Path.symbols])
  unfold Path.parse_prefix at hfamily ⊢
  generalize Path.stripStart ['\\', '\\'] xs = startx, Path.stripStart ['\\', '\\'] ys = starty at hstart hfamily ⊢
  cases hstart with
  | none =>
    dsimp only at hfamily ⊢
    cases hx : Path.parse_drive xs with
    | some drive =>
      cases hy : Path.parse_drive ys with
      | some drive' =>
        obtain ⟨c, d, hcd, hc, hd, rfl, rfl⟩ := parse_drive_variant h hx hy
        exact .some (.disk hcd hc hd)
      | none =>
        rw [hx, hy] at hfamily
        cases hfamily
    | none =>
      cases hy : Path.parse_drive ys with
      | some drive' =>
        rw [hx, hy] at hfamily
        cases hfamily
      | none => exact .none
  | @some restx resty hrest =>
    have hquery : Option.Rel (List.Forall₂ R) (Path.stripStart ['?', '\\'] restx) (Path.stripStart ['?', '\\'] resty) :=
      keeps.stripStart_variant hrest (by simp [Path.symbols])
    have hdot : Option.Rel (List.Forall₂ R) (Path.stripStart ['.', '\\'] restx) (Path.stripStart ['.', '\\'] resty) :=
      keeps.stripStart_variant hrest (by simp [Path.symbols])
    dsimp only at hfamily ⊢
    generalize Path.stripStart ['?', '\\'] restx = queryx, Path.stripStart ['?', '\\'] resty = queryy,
      Path.stripStart ['.', '\\'] restx = dotx, Path.stripStart ['.', '\\'] resty = doty at hquery hdot hfamily ⊢
    cases hquery with
    | some hverbatim =>
      dsimp only at hfamily ⊢
      by_cases hs : '/' ∈ xs.take 4
      · rw [if_pos hs, if_pos (hslash.1 hs)]
        exact keeps.parse_unc_variant hrest
      · rw [if_neg hs, if_neg (fun hs' => hs (hslash.2 hs'))] at hfamily ⊢
        exact .some (parse_verbatim_variant keeps hverbatim (Option.some.inj hfamily))
    | none =>
      cases hdot with
      | some hdevice => exact .some (.deviceNS (keeps.parse_next_component_variant hdevice false).1)
      | none => exact keeps.parse_unc_variant hrest

end Families

/-! ## After the prefix -/

theorem forall₂_splitAll {separator : Char → Bool} (hsep : ∀ c c', R c c' → separator c = separator c')
    {xs ys : List Char} (h : List.Forall₂ R xs ys) :
    List.Forall₂ (List.Forall₂ R) (Path.splitAll separator xs) (Path.splitAll separator ys) := by
  induction h with
  | nil => exact .cons .nil .nil
  | @cons c c' xs ys hc _ ih =>
    unfold Path.splitAll
    generalize Path.splitAll separator xs = namesx, Path.splitAll separator ys = namesy at ih ⊢
    cases ih with
    | nil => exact .cons (.cons hc .nil) .nil
    | cons hname hnames =>
      dsimp only
      rw [← hsep c c' hc]
      split
      · exact .cons .nil (.cons hname hnames)
      · exact .cons (.cons hc hname) hnames

/-- What splitting two paths of one family has in common, when their texts are variants. -/
theorem split_variant (keeps : KeepsSymbols R) {path path' : PathBuf}
    (h : List.Forall₂ R path.text.toList path'.text.toList) (hfamily : path.family = path'.family) :
    Option.Rel (Prefix.Variant R) path.prefixKind path'.prefixKind ∧ path.has_physical_root = path'.has_physical_root ∧
      List.Forall₂ (List.Forall₂ R) path.names path'.names := by
  have hparsed : Option.Rel (Prefix.Variant R) path.prefixKind path'.prefixKind := parse_prefix_variant keeps h hfamily
  have hkinds : (path.prefixKind.map Path.prefixLength).getD 0 = (path'.prefixKind.map Path.prefixLength).getD 0 ∧
      (path.prefixKind.map Path.isVerbatim).getD false = (path'.prefixKind.map Path.isVerbatim).getD false := by
    generalize path.prefixKind = kind, path'.prefixKind = kind' at hparsed
    cases hparsed with
    | none => exact ⟨rfl, rfl⟩
    | some hkind => exact ⟨hkind.prefixLength_eq, hkind.isVerbatim_eq⟩
  have hverbatim : path.verbatim = path'.verbatim := hkinds.2
  have hseparator : path.separator = path'.separator := by rw [PathBuf.separator, PathBuf.separator, hverbatim]
  have hsep : ∀ c c', R c c' → path'.separator c = path'.separator c' := by
    intro c c' hc
    unfold PathBuf.separator
    split
    · exact keeps.is_verbatim_sep_eq hc
    · exact keeps.is_sep_byte_eq hc
  have hbody : List.Forall₂ R path.body path'.body := by
    rw [PathBuf.body, PathBuf.body, hkinds.1]
    exact List.forall₂_drop _ h
  have hphysical : path.has_physical_root = path'.has_physical_root := by
    unfold PathBuf.has_physical_root
    generalize path.body = body, path'.body = body' at hbody
    cases hbody with
    | nil => rfl
    | cons hc _ => exact keeps.is_sep_byte_eq hc
  refine ⟨hparsed, hphysical, ?_⟩
  rw [PathBuf.names, PathBuf.names, hseparator, hphysical]
  split
  · exact .cons .nil (forall₂_splitAll hsep (List.forall₂_drop 1 hbody))
  · exact forall₂_splitAll hsep hbody

end Variants

end ResticPal
