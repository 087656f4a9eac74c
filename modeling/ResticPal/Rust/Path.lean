import ResticPal.Rust.Text
/-!
# Windows paths

`std::path` on Windows: how a path's text splits into a prefix, a root and
components. A configured path is valid Unicode (it comes from TOML or JSON), so
`to_string_lossy` is its text.
-/

namespace ResticPal

/-- `std::path::Prefix`. -/
inductive Prefix where
  | Verbatim (name : String)
  | VerbatimUNC (server share : String)
  | VerbatimDisk (drive : Char)
  | DeviceNS (name : String)
  | UNC (server share : String)
  | Disk (drive : Char)
  deriving DecidableEq, Repr

/-- `std::path::Component`, without the prefix's own text. -/
inductive Component where
  | Prefix (kind : Prefix)
  | RootDir
  | CurDir
  | ParentDir
  | Normal (name : String)
  deriving DecidableEq, Repr

structure PathBuf where
  text : String
  deriving DecidableEq, Repr

namespace Path

/-! ## Prefixes -/

def is_sep_byte (c : Char) : Bool := c == '\\' || c == '/'

def is_verbatim_sep (c : Char) : Bool := c == '\\'

/-- The text up to the first separator, and the text after it. -/
def parse_next_component (path : List Char) (verbatim : Bool) : List Char × List Char :=
  let separator := if verbatim then is_verbatim_sep else is_sep_byte
  (path.takeWhile (fun c => !separator c), (path.dropWhile (fun c => !separator c)).drop 1)

/-- `PrefixParser::strip_prefix`: either slash matches a backslash of the pattern. -/
def stripStart (pattern path : List Char) : Option (List Char) :=
  if (path.take pattern.length).map (fun c => if c == '/' then '\\' else c) = pattern then
    some (path.drop pattern.length)
  else none

/-- `X:`, with the letter in upper case. -/
def parse_drive : List Char → Option Char
  | drive :: ':' :: _ => if drive.isAlpha then some drive.toUpper else none
  | _ => none

/-- In a verbatim path, only a drive that is a whole component. -/
def parse_drive_exact (path : List Char) : Option Char :=
  if (path.drop 2).head?.all is_sep_byte then parse_drive path else none

def parse_verbatim (path : List Char) : Prefix :=
  match stripStart ['U', 'N', 'C', '\\'] path with
  | some path =>
    let (server, path) := parse_next_component path true
    let (share, _) := parse_next_component path true
    .VerbatimUNC (String.ofList server) (String.ofList share)
  | none =>
    match parse_drive_exact path with
    | some drive => .VerbatimDisk drive
    | none => .Verbatim (String.ofList (parse_next_component path true).1)

def parse_unc (path : List Char) : Option Prefix :=
  let (server, path) := parse_next_component path false
  let (share, _) := parse_next_component path false
  if server ≠ [] ∧ share ≠ [] then some (.UNC (String.ofList server) (String.ofList share)) else none

/-- `std::sys::path::parse_prefix`. -/
def parse_prefix (path : List Char) : Option Prefix :=
  match stripStart ['\\', '\\'] path with
  | some rest =>
    match stripStart ['?', '\\'] rest, stripStart ['.', '\\'] rest with
    -- A forward slash in the first four characters makes the path not verbatim.
    | some verbatim, _ => if '/' ∈ path.take 4 then parse_unc rest else some (parse_verbatim verbatim)
    | none, some device => some (.DeviceNS (String.ofList (parse_next_component device false).1))
    | none, none => parse_unc rest
  | none => (parse_drive path).map .Disk

/-- How many characters of the path a prefix takes. -/
def prefixLength : Prefix → Nat
  | .Verbatim name => 4 + name.length
  | .VerbatimUNC server share => 8 + server.length + (if share = "" then 0 else 1 + share.length)
  | .VerbatimDisk _ => 6
  | .DeviceNS name => 4 + name.length
  | .UNC server share => 2 + server.length + (if share = "" then 0 else 1 + share.length)
  | .Disk _ => 2

def isVerbatim : Prefix → Bool
  | .Verbatim _ | .VerbatimUNC _ _ | .VerbatimDisk _ => true
  | _ => false

/-- `Prefix::has_implicit_root`: every prefix but a plain drive. -/
def has_implicit_root : Prefix → Bool
  | .Disk _ => false
  | _ => true

/-! ## Components -/

/-- Split at every separator. -/
def splitAll (separator : Char → Bool) : List Char → List (List Char)
  | [] => [[]]
  | c :: cs =>
    match splitAll separator cs with
    | [] => [[c]]
    | d :: ds => if separator c then [] :: d :: ds else (c :: d) :: ds

/-- `Components::parse_single_component`: empty components are dropped, and `.`
is kept in verbatim paths only. -/
def parse_single_component (verbatim : Bool) (name : List Char) : Option Component :=
  if name = [] then none
  else if name = ['.'] then (if verbatim then some .CurDir else none)
  else if name = ['.', '.'] then some .ParentDir
  else some (.Normal (String.ofList name))

end Path

namespace PathBuf

/-- `Components::prefix`. -/
def prefixKind (path : PathBuf) : Option Prefix := Path.parse_prefix path.text.toList

def verbatim (path : PathBuf) : Bool := (path.prefixKind.map Path.isVerbatim).getD false

/-- The text after the prefix. -/
def body (path : PathBuf) : List Char :=
  path.text.toList.drop ((path.prefixKind.map Path.prefixLength).getD 0)

def separator (path : PathBuf) : Char → Bool :=
  if path.verbatim then Path.is_verbatim_sep else Path.is_sep_byte

/-- `has_physical_root`: either slash comes right after the prefix, also after a verbatim one. -/
def has_physical_root (path : PathBuf) : Bool := path.body.head?.any Path.is_sep_byte

/-- `has_root`: a separator after the prefix, or a prefix other than a plain drive. -/
def has_root (path : PathBuf) : Bool := path.has_physical_root || path.prefixKind.any Path.has_implicit_root

/-- `Path::is_absolute` on Windows. -/
def is_absolute (path : PathBuf) : Bool := path.has_root && path.prefixKind.isSome

/-- A root follows the prefix as a component: where a separator stands, and for the prefixes that imply one and are
not verbatim. -/
def yields_root (path : PathBuf) : Bool :=
  path.has_physical_root || path.prefixKind.any (fun kind => Path.has_implicit_root kind && !Path.isVerbatim kind)

/-- What stands between the separators after the prefix, empty parts included. The root is taken off first, since it
may be a slash that is no separator in a verbatim path. -/
def names (path : PathBuf) : List (List Char) :=
  if path.has_physical_root then [] :: Path.splitAll path.separator (path.body.drop 1)
  else Path.splitAll path.separator path.body

/-- `include_cur_dir`, which is asked where there is no prefix: a leading `.` is kept when nothing precedes it. -/
def include_cur_dir (path : PathBuf) : Bool := path.prefixKind.isNone && path.names.head? == some ['.']

/-- `Path::components`. -/
def components (path : PathBuf) : List Component :=
  path.prefixKind.toList.map .Prefix ++ (if path.yields_root then [.RootDir] else []) ++
    (if path.include_cur_dir then [.CurDir] else []) ++
    path.names.filterMap (Path.parse_single_component path.verbatim)

end PathBuf

end ResticPal
