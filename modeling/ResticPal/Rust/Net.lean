import ResticPal.Rust.Text
/-!
# Addresses

The parts of a parsed URL that the source reads, and `std::net::IpAddr`'s
parser. Parsing a URL is the `url` crate's: it stays a parameter
`parse_url : String → Option Url` of whatever uses it.
-/

namespace ResticPal

structure Url where
  scheme : String
  host_str : Option String
  username : String
  password : Option String
  fragment : Option String
  deriving DecidableEq, Repr

namespace IpAddr

/-- One to three decimal digits, without a leading zero, at most 255. -/
def read_octet (text : List Char) : Option Nat :=
  if text.all Char.isDigit && text.length ≤ 3 && (text.length == 1 || text.head?.any (· != '0')) && text != [] then
    let n := text.foldl (fun n c => n * 10 + (c.toNat - '0'.toNat)) 0
    if n ≤ 255 then some n else none
  else none

def hexDigit (c : Char) : Option Nat :=
  if c.isDigit then some (c.toNat - '0'.toNat)
  else if 'a' ≤ c.toLower && c.toLower ≤ 'f' then some (c.toLower.toNat - 'a'.toNat + 10)
  else none

/-- One to four hexadecimal digits. -/
def read_group (text : List Char) : Option Nat :=
  if text = [] ∨ 4 < text.length then none
  else text.foldlM (fun n c => (hexDigit c).map (fun d => n * 16 + d)) 0

/-- `Ipv4Addr::from_str`. -/
def parse_ipv4 (text : List Char) : Option (List Nat) :=
  match text.splitOn '.' with
  | [a, b, c, d] => [a, b, c, d].mapM read_octet
  | _ => none

/-- Groups between single colons; the last may be a dotted IPv4 address, two groups long. -/
def read_groups (parts : List (List Char)) : Option (List Nat) :=
  match parts with
  | [] => some []
  | [last] =>
    match parse_ipv4 last with
    | some [a, b, c, d] => some [a * 256 + b, c * 256 + d]
    | _ => (read_group last).map ([·])
  | part :: parts => (read_group part).bind (fun n => (read_groups parts).map (n :: ·))

/-- The parts before and after the first `::`. -/
def splitDouble : List Char → Option (List Char × List Char)
  | ':' :: ':' :: rest => some ([], rest)
  | c :: rest => (splitDouble rest).map (fun p => (c :: p.1, p.2))
  | [] => none

def partsOf (text : List Char) : List (List Char) := if text = [] then [] else text.splitOn ':'

/-- `Ipv6Addr::from_str`: eight groups, or at most seven around one `::`. -/
def parse_ipv6 (text : List Char) : Option (List Nat) :=
  match splitDouble text with
  | none => (read_groups (partsOf text)).filter (·.length == 8)
  | some (head, tail) =>
    match (partsOf head).mapM read_group, read_groups (partsOf tail) with
    | some hs, some ts =>
      if hs.length + ts.length ≤ 7 then some (hs ++ List.replicate (8 - (hs.length + ts.length)) 0 ++ ts) else none
    | _, _ => none

/-- `host.parse::<IpAddr>().is_ok_and(|address| address.is_loopback())`. -/
def parses_as_loopback (host : String) : Bool :=
  match parse_ipv4 host.toList with
  | some octets => octets.head?.any (· == 127)
  | none => parse_ipv6 host.toList == some [0, 0, 0, 0, 0, 0, 0, 1]

end IpAddr

end ResticPal
