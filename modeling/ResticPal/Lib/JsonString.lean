import Mathlib.Algebra.BigOperators.Group.List.Basic
import Mathlib.Algebra.Ring.Nat
import Mathlib.Data.String.Basic
/-!
# Strings in a JSON document

A string is written between quotes, and its quotes, backslashes and control
characters are escaped: the ones with a short form by two characters, the other
control characters by their number in six. `utf8ByteSize_quote` counts the bytes:
those of the string, the two quotes, and what each escape adds. `pretty` is an
object with its members on lines of their own; `array` and `object` are on one line.
-/

namespace Lib.JsonString

/-- The letter after the backslash, for the characters that have a short escape. -/
def shortEscape : Char → Option Char
  | '"' => some '"'
  | '\\' => some '\\'
  | '\x08' => some 'b'
  | '\t' => some 't'
  | '\n' => some 'n'
  | '\x0c' => some 'f'
  | '\r' => some 'r'
  | _ => none

def isControl (c : Char) : Bool := c.toNat < 0x20

def escapeChar (c : Char) : List Char :=
  match shortEscape c with
  | some letter => ['\\', letter]
  | none =>
    if isControl c then ['\\', 'u', '0', '0', Nat.digitChar (c.toNat / 16), Nat.digitChar (c.toNat % 16)] else [c]

/-- The string as it stands in the document. -/
def quote (s : String) : String := String.ofList ('"' :: s.toList.flatMap escapeChar ++ ['"'])

/-- The bytes by which a character's escape is longer than the character. -/
def escapeCost (c : Char) : Nat :=
  match shortEscape c with
  | some _ => 1
  | none => if isControl c then 5 else 0

def escapeCosts (s : String) : Nat := (s.toList.map escapeCost).sum

theorem shortEscape_sizes {c letter : Char} (h : shortEscape c = some letter) :
    c.utf8Size = 1 ∧ letter.utf8Size = 1 := by
  unfold shortEscape at h
  split at h <;> cases h <;> decide

theorem digitChar_utf8Size {n : Nat} (h : n < 16) : (Nat.digitChar n).utf8Size = 1 := by
  have : ∀ m < 16, (Nat.digitChar m).utf8Size = 1 := by decide
  exact this n h

theorem isControl_utf8Size {c : Char} (h : isControl c = true) : c.utf8Size = 1 := by
  have hlt : c.toNat < 0x20 := by simpa [isControl] using h
  have hval : c.toNat ≤ 0x7f := by omega
  exact Char.utf8Size_eq_one_iff.2 (UInt32.le_iff_toNat_le.2 hval)

theorem utf8Len_escapeChar (c : Char) : String.utf8Len (escapeChar c) = c.utf8Size + escapeCost c := by
  unfold escapeChar escapeCost
  cases hs : shortEscape c with
  | some letter =>
    obtain ⟨hc, hletter⟩ := shortEscape_sizes hs
    simp [hc, hletter]
    decide
  | none =>
    by_cases hc : isControl c = true
    · have hlt : c.toNat < 0x20 := by simpa [isControl] using hc
      have hhigh := digitChar_utf8Size (n := c.toNat / 16) (by omega)
      have hlow := digitChar_utf8Size (n := c.toNat % 16) (by omega)
      simp only [hc, if_true, String.utf8Len_cons, String.utf8Len_nil, hhigh, hlow, isControl_utf8Size hc]
      decide
    · simp [hc]

theorem utf8Len_flatMap_escapeChar (l : List Char) :
    String.utf8Len (l.flatMap escapeChar) = String.utf8Len l + (l.map escapeCost).sum := by
  induction l with
  | nil => rfl
  | cons c l ih =>
    simp only [List.flatMap_cons, String.utf8Len_append, utf8Len_escapeChar, ih, String.utf8Len_cons, List.map_cons,
      List.sum_cons]
    omega

theorem utf8ByteSize_quote (s : String) : (quote s).utf8ByteSize = s.utf8ByteSize + escapeCosts s + 2 := by
  have hquote : Char.utf8Size '"' = 1 := by decide
  have hs : s.utf8ByteSize = String.utf8Len s.toList := by rw [← String.utf8ByteSize_ofList, String.ofList_toList]
  rw [quote, String.utf8ByteSize_ofList, List.cons_append, String.utf8Len_cons, String.utf8Len_append,
    utf8Len_flatMap_escapeChar, String.utf8Len_cons, String.utf8Len_nil, hquote, hs, escapeCosts, Nat.zero_add]

theorem escapeCosts_append (a b : String) : escapeCosts (a ++ b) = escapeCosts a + escapeCosts b := by
  rw [escapeCosts, String.toList_append, List.map_append, List.sum_append, escapeCosts, escapeCosts]

theorem escapeCosts_replicate (c : Char) (n : Nat) :
    escapeCosts (String.ofList (List.replicate n c)) = n * escapeCost c := by
  rw [escapeCosts, String.toList_ofList, List.map_replicate, List.sum_replicate_nat]

theorem utf8ByteSize_replicate (c : Char) (n : Nat) :
    (String.ofList (List.replicate n c)).utf8ByteSize = n * c.utf8Size := by
  rw [String.utf8ByteSize_ofList]
  induction n with
  | zero => rw [List.replicate_zero, String.utf8Len_nil, Nat.zero_mul]
  | succ n ih => rw [List.replicate_succ, String.utf8Len_cons, ih, Nat.succ_mul]

theorem escapeCost_le {c : Char} (h : isControl c = false) : escapeCost c ≤ c.utf8Size := by
  have hsize : 0 < c.utf8Size := c.utf8Size_pos
  unfold escapeCost
  split
  · exact hsize
  · rw [h]
    exact Nat.zero_le _

/-- Without control characters, the escapes at most double a string. -/
theorem escapeCosts_le {s : String} (h : ∀ c ∈ s.toList, isControl c = false) : escapeCosts s ≤ s.utf8ByteSize := by
  have hlist (l : List Char) (h : ∀ c ∈ l, isControl c = false) : (l.map escapeCost).sum ≤ String.utf8Len l := by
    induction l with
    | nil => exact Nat.le_refl _
    | cons c l ih =>
      obtain ⟨hc, hl⟩ := List.forall_mem_cons.1 h
      have hcost := escapeCost_le hc
      have hcosts := ih hl
      rw [List.map_cons, List.sum_cons, String.utf8Len_cons]
      omega
  rw [← String.ofList_toList (s := s), String.utf8ByteSize_ofList, escapeCosts, String.toList_ofList]
  exact hlist s.toList h

/-! ## Objects -/

/-- One member: its name, and its value as it stands in the document. -/
def member (field : String × String) : String := "\n  " ++ quote field.1 ++ ": " ++ field.2

/-- An object with at least one member, indented by two blanks. -/
def pretty (first : String × String) (rest : List (String × String)) : String :=
  "\x7b" ++ member first ++ rest.foldr (fun field text => "," ++ member field ++ text) "\n\x7d"

def fieldSize (field : String × String) : Nat := (quote field.1).utf8ByteSize + field.2.utf8ByteSize

theorem utf8ByteSize_member (field : String × String) : (member field).utf8ByteSize = fieldSize field + 5 := by
  have hindent : String.utf8ByteSize "\n  " = 3 := by decide
  have hcolon : String.utf8ByteSize ": " = 2 := by decide
  rw [member, String.utf8ByteSize_append, String.utf8ByteSize_append, String.utf8ByteSize_append, hindent, hcolon,
    fieldSize]
  omega

theorem utf8ByteSize_rest (rest : List (String × String)) :
    (rest.foldr (fun field text => "," ++ member field ++ text) "\n\x7d").utf8ByteSize =
      (rest.map fieldSize).sum + 6 * rest.length + 2 := by
  induction rest with
  | nil => decide
  | cons field rest ih =>
    have hcomma : String.utf8ByteSize "," = 1 := by decide
    rw [List.foldr_cons, String.utf8ByteSize_append, String.utf8ByteSize_append, utf8ByteSize_member, ih, hcomma,
      List.map_cons, List.sum_cons, List.length_cons]
    omega

/-- The size of an object: its names, its values, and six bytes a line. -/
theorem utf8ByteSize_pretty (first : String × String) (rest : List (String × String)) :
    (pretty first rest).utf8ByteSize =
      (((first :: rest).map Prod.fst).map (fun name => (quote name).utf8ByteSize)).sum +
        (((first :: rest).map Prod.snd).map String.utf8ByteSize).sum + 6 * rest.length + 8 := by
  have hopen : String.utf8ByteSize "\x7b" = 1 := by decide
  have hfields : fieldSize first + (rest.map fieldSize).sum =
      (((first :: rest).map Prod.fst).map (fun name => (quote name).utf8ByteSize)).sum +
        (((first :: rest).map Prod.snd).map String.utf8ByteSize).sum := by
    rw [← List.sum_cons, ← List.map_cons, List.map_map, List.map_map, ← List.sum_map_add]
    rfl
  rw [← hfields, pretty, String.utf8ByteSize_append, String.utf8ByteSize_append, utf8ByteSize_member,
    utf8ByteSize_rest, hopen]
  omega

/-! ## On one line -/

/-- Texts with a comma between two. -/
def separated : List String → String
  | [] => ""
  | first :: rest => first ++ rest.foldr (fun text after => "," ++ text ++ after) ""

def array (values : List String) : String := "[" ++ separated values ++ "]"

def object (fields : List (String × String)) : String :=
  "\x7b" ++ separated (fields.map (fun field => quote field.1 ++ ":" ++ field.2)) ++ "\x7d"

theorem utf8ByteSize_separated (texts : List String) :
    (separated texts).utf8ByteSize = (texts.map String.utf8ByteSize).sum + (texts.length - 1) := by
  have hcomma : String.utf8ByteSize "," = 1 := by decide
  have hrest (rest : List String) : (rest.foldr (fun text after => "," ++ text ++ after) "").utf8ByteSize =
      (rest.map String.utf8ByteSize).sum + rest.length := by
    induction rest with
    | nil => decide
    | cons text rest ih =>
      rw [List.foldr_cons, String.utf8ByteSize_append, String.utf8ByteSize_append, ih, hcomma, List.map_cons,
        List.sum_cons, List.length_cons]
      omega
  cases texts with
  | nil => decide
  | cons first rest =>
    rw [separated, String.utf8ByteSize_append, hrest, List.map_cons, List.sum_cons, List.length_cons]
    omega

theorem utf8ByteSize_array (values : List String) :
    (array values).utf8ByteSize = (values.map String.utf8ByteSize).sum + (values.length - 1) + 2 := by
  have hopen : String.utf8ByteSize "[" = 1 := by decide
  have hclose : String.utf8ByteSize "]" = 1 := by decide
  rw [array, String.utf8ByteSize_append, String.utf8ByteSize_append, utf8ByteSize_separated, hopen, hclose]
  omega

theorem utf8ByteSize_object (fields : List (String × String)) :
    (object fields).utf8ByteSize = (fields.map (fun field => fieldSize field + 1)).sum + (fields.length - 1) + 2 := by
  have hopen : String.utf8ByteSize "\x7b" = 1 := by decide
  have hcolon : String.utf8ByteSize ":" = 1 := by decide
  have hclose : String.utf8ByteSize "\x7d" = 1 := by decide
  have hfields : ((fields.map (fun field => quote field.1 ++ ":" ++ field.2)).map String.utf8ByteSize) =
      fields.map (fun field => fieldSize field + 1) := by
    rw [List.map_map]
    refine List.map_congr_left fun field _ => ?_
    rw [Function.comp_apply, String.utf8ByteSize_append, String.utf8ByteSize_append, hcolon, fieldSize]
    omega
  rw [object, String.utf8ByteSize_append, String.utf8ByteSize_append, utf8ByteSize_separated, hfields, List.length_map,
    hopen, hclose]
  omega

/-! ## Control characters -/

/-- Without control characters, so without line breaks. -/
def NoControl (s : String) : Prop := ∀ c ∈ s.toList, isControl c = false

theorem NoControl.append {a b : String} (ha : NoControl a) (hb : NoControl b) : NoControl (a ++ b) := by
  intro c hc
  rw [String.toList_append] at hc
  exact (List.mem_append.1 hc).elim (ha c) (hb c)

theorem isControl_escapeChar {c d : Char} (h : d ∈ escapeChar c) : isControl d = false := by
  unfold escapeChar at h
  cases hs : shortEscape c with
  | some letter =>
    rw [hs] at h
    have hletter : isControl letter = false := by
      unfold shortEscape at hs
      split at hs <;> cases hs <;> decide
    rcases List.mem_cons.1 h with rfl | h
    · decide
    · rwa [List.mem_singleton.1 h]
  | none =>
    rw [hs] at h
    dsimp only at h
    split at h
    next hc =>
      have hlt : c.toNat < 0x20 := by simpa [isControl] using hc
      have hdigit : ∀ m < 16, isControl (Nat.digitChar m) = false := by decide
      simp only [List.mem_cons, List.not_mem_nil, or_false] at h
      rcases h with rfl | rfl | rfl | rfl | rfl | rfl
      · decide
      · decide
      · decide
      · decide
      · exact hdigit _ (by omega)
      · exact hdigit _ (by omega)
    next hc =>
      rw [List.mem_singleton.1 h]
      exact Bool.eq_false_iff.2 hc

theorem quote_noControl (s : String) : NoControl (quote s) := by
  intro c hc
  rw [quote, String.toList_ofList] at hc
  have hquote : isControl '"' = false := by decide
  rcases List.mem_append.1 hc with hc | hc
  · rcases List.mem_cons.1 hc with rfl | hc
    · exact hquote
    · obtain ⟨d, -, hd⟩ := List.mem_flatMap.1 hc
      exact isControl_escapeChar hd
  · rwa [List.mem_singleton.1 hc]

theorem separated_noControl {texts : List String} (h : ∀ text ∈ texts, NoControl text) : NoControl (separated texts) := by
  have hnil : NoControl "" := by simp [NoControl]
  have hcomma : NoControl "," := by simp [NoControl, isControl]
  have hrest {rest : List String} (h : ∀ text ∈ rest, NoControl text) :
      NoControl (rest.foldr (fun text after => "," ++ text ++ after) "") := by
    induction rest with
    | nil => exact hnil
    | cons text rest ih =>
      obtain ⟨htext, hrest⟩ := List.forall_mem_cons.1 h
      exact (hcomma.append htext).append (ih hrest)
  cases texts with
  | nil => exact hnil
  | cons first rest =>
    obtain ⟨hfirst, hothers⟩ := List.forall_mem_cons.1 h
    exact hfirst.append (hrest hothers)

theorem object_noControl {fields : List (String × String)} (h : ∀ field ∈ fields, NoControl field.2) :
    NoControl (object fields) := by
  have hopen : NoControl "\x7b" := by simp [NoControl, isControl]
  have hcolon : NoControl ":" := by simp [NoControl, isControl]
  have hclose : NoControl "\x7d" := by simp [NoControl, isControl]
  refine (hopen.append (separated_noControl fun text htext => ?_)).append hclose
  obtain ⟨field, hfield, rfl⟩ := List.mem_map.1 htext
  exact ((quote_noControl field.1).append hcolon).append (h field hfield)

/-! ## Numbers -/

/-- The digits of a number. -/
theorem utf8ByteSize_toString {n k : Nat} (hk : 0 < k) (h : n < 10 ^ k) : (toString n).utf8ByteSize ≤ k := by
  have hdigits : ∀ c ∈ Nat.toDigits 10 n, c.utf8Size = 1 := by
    intro c hc
    have hdigit := Nat.isDigit_of_mem_toDigits (by decide) (by decide) hc
    simp only [Char.isDigit, Bool.and_eq_true, decide_eq_true_eq] at hdigit
    exact Char.utf8Size_eq_one_iff.2 (UInt32.le_trans hdigit.2 (by decide))
  have hlen (l : List Char) (h : ∀ c ∈ l, c.utf8Size = 1) : String.utf8Len l = l.length := by
    induction l with
    | nil => rfl
    | cons c l ih =>
      obtain ⟨hc, hl⟩ := List.forall_mem_cons.1 h
      rw [String.utf8Len_cons, hc, ih hl, List.length_cons]
  rw [Nat.toString_eq_ofList_toDigits, String.utf8ByteSize_ofList, hlen _ hdigits]
  exact (Nat.length_toDigits_le_iff (by decide) hk).2 h

end Lib.JsonString
