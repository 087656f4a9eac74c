import Mathlib.Algebra.Ring.Nat
import Mathlib.Data.String.Basic
/-!
# TOML documents

A string without quotes, backslashes and control characters is written between
quotes as it is. One with quotes or backslashes, but no apostrophe, is written as a
literal: between apostrophes, as it is. Either way it takes two bytes more than the
string. How other strings are escaped is left open.
-/

namespace Lib.Toml

def isControl (c : Char) : Bool := c.toNat < 0x20 || c.toNat == 0x7f

def isPlain (c : Char) : Bool := c != '"' && c != '\\' && !isControl c

def isLiteral (c : Char) : Bool := c != '\'' && !isControl c

def string (escaped : String → String) (s : String) : String :=
  if s.toList.all isPlain then "\"" ++ s ++ "\""
  else if s.toList.all isLiteral then "'" ++ s ++ "'"
  else escaped s

def isBare (c : Char) : Bool := c.isAlphanum || c == '_' || c == '-'

def key (escaped : String → String) (name : String) : String :=
  if name != "" && name.toList.all isBare then name else string escaped name

/-- An array of several values, one a line, as the pretty writer lays it out. -/
def array : List String → String
  | [] => "[]"
  | [value] => "[" ++ value ++ "]"
  | first :: second :: rest =>
    "[\n" ++ (first :: second :: rest).foldr (fun value after => "    " ++ value ++ ",\n" ++ after) "" ++ "]"

def entry (name value : String) : String := name ++ " = " ++ value ++ "\n"

/-- The entries that have a value. -/
def entries (fields : List (String × Option String)) : String :=
  fields.foldr (fun field after => field.2.elim "" (entry field.1) ++ after) ""

def table (name : String) (fields : List (String × Option String)) : String := "\n[" ++ name ++ "]\n" ++ entries fields

theorem utf8ByteSize_string (escaped : String → String) {s : String} (h : s.toList.all isLiteral = true) :
    (string escaped s).utf8ByteSize = s.utf8ByteSize + 2 := by
  have hquote : String.utf8ByteSize "\"" = 1 := by decide
  have hapostrophe : String.utf8ByteSize "'" = 1 := by decide
  rw [string, if_pos h]
  split
  · rw [String.utf8ByteSize_append, String.utf8ByteSize_append, hquote]
    omega
  · rw [String.utf8ByteSize_append, String.utf8ByteSize_append, hapostrophe]
    omega

theorem utf8ByteSize_array_le (values : List String) :
    (array values).utf8ByteSize ≤ (values.map String.utf8ByteSize).sum + 6 * values.length + 3 := by
  have hopen : String.utf8ByteSize "[" = 1 := by decide
  have hline : String.utf8ByteSize "[\n" = 2 := by decide
  have hindent : String.utf8ByteSize "    " = 4 := by decide
  have hcomma : String.utf8ByteSize ",\n" = 2 := by decide
  have hclose : String.utf8ByteSize "]" = 1 := by decide
  have hvalues (values : List String) :
      (values.foldr (fun value after => "    " ++ value ++ ",\n" ++ after) "").utf8ByteSize =
        (values.map String.utf8ByteSize).sum + 6 * values.length := by
    induction values with
    | nil => decide
    | cons value values ih =>
      rw [List.foldr_cons, String.utf8ByteSize_append, String.utf8ByteSize_append, String.utf8ByteSize_append, ih, hindent,
        hcomma, List.map_cons, List.sum_cons, List.length_cons]
      omega
  match values with
  | [] => decide
  | [value] =>
    rw [array, String.utf8ByteSize_append, String.utf8ByteSize_append, hopen, hclose, List.map_cons, List.map_nil,
      List.sum_cons, List.sum_nil, List.length_singleton]
    omega
  | first :: second :: rest =>
    rw [array, String.utf8ByteSize_append, String.utf8ByteSize_append, hvalues, hline, hclose]
    omega

end Lib.Toml
