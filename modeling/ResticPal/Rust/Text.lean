import Mathlib.Data.String.Basic
import Mathlib.Data.List.TakeWhile
import Mathlib.Algebra.Ring.Nat
/-!
# Text

The string functions of Rust's standard library that the source calls, on
Lean strings: `len` counts UTF-8 bytes, `chars().count()` is `String.length`.
-/

namespace ResticPal.Text

/-- `char::is_whitespace`: the Unicode `White_Space` property. -/
def is_whitespace (c : Char) : Bool :=
  let n := c.toNat
  (9 ≤ n && n ≤ 13) || n == 0x20 || n == 0x85 || n == 0xA0 || n == 0x1680 || (0x2000 ≤ n && n ≤ 0x200A) ||
    n == 0x2028 || n == 0x2029 || n == 0x202F || n == 0x205F || n == 0x3000

/-- `str::trim`. -/
def trim (s : String) : String :=
  String.ofList ((s.toList.dropWhile is_whitespace).reverse.dropWhile is_whitespace).reverse

/-- `str::is_empty`. -/
def is_empty (s : String) : Bool := s == ""

/-- `s.contains(['\0', '\r', '\n'])`: NUL and the line breaks. -/
def hasBreak (s : String) : Bool := s.toList.any (fun c => c == '\x00' || c == '\r' || c == '\n')

/-- `str::len`, in bytes. -/
def len (s : String) : Nat := s.utf8ByteSize

/-- `str::encode_utf16().count()`. -/
def utf16Count (s : String) : Nat := (s.toList.map (fun c => if 0x10000 ≤ c.toNat then 2 else 1)).sum

/-- `str::eq_ignore_ascii_case`. `Char.toLower` maps ASCII letters only. -/
def eq_ignore_ascii_case (a b : String) : Bool := a.toList.map Char.toLower == b.toList.map Char.toLower

/-- `str::to_ascii_lowercase`. -/
def to_ascii_lowercase (s : String) : String := String.ofList (s.toList.map Char.toLower)

/-- Bytes of a file or a network response. -/
abbrev Bytes := List UInt8

/-- `str::as_bytes`. -/
def as_bytes (s : String) : Bytes := s.toUTF8.data.toList

/-- `String::from_utf8`. -/
def from_utf8 (b : Bytes) : Option String := String.fromUTF8? ⟨b.toArray⟩

theorem as_bytes_of_from_utf8 {b : Bytes} {s : String} (h : from_utf8 b = some s) : as_bytes s = b := by
  unfold from_utf8 String.fromUTF8? at h
  split at h
  · cases h; rfl
  · cases h

theorem from_utf8_as_bytes (s : String) : from_utf8 (as_bytes s) = some s := by
  have hbytes : (⟨(as_bytes s).toArray⟩ : ByteArray) = s.toUTF8 := rfl
  have hvalid : s.toUTF8.IsValidUTF8 := s.isValidUTF8
  rw [from_utf8, hbytes, String.fromUTF8?, dif_pos hvalid]
  rfl

theorem as_bytes_length (s : String) : (as_bytes s).length = len s := by
  simp [as_bytes, len]

theorem as_bytes_append (a b : List Char) :
    as_bytes (String.ofList (a ++ b)) = as_bytes (String.ofList a) ++ as_bytes (String.ofList b) := by
  simp [as_bytes]

theorem utf8EncodeChar_ascii {c : Char} {b : UInt8} (h : b ∈ String.utf8EncodeChar c) (hb : b.toNat < 0x80) :
    c.toNat = b.toNat := by
  have hc : c.val.toNat = c.toNat := rfl
  delta String.utf8EncodeChar at h
  dsimp only at h
  rw [hc] at h
  split at h
  · rename_i hle
    rw [List.mem_singleton] at h
    rw [h, UInt8.toNat_ofNat', Nat.mod_eq_of_lt (by omega)]
  · have hhigh {n : Nat} (hn : 128 ≤ n) (hlt : n < 256) : ¬ (UInt8.ofNat n).toNat < 0x80 := by
      rw [UInt8.toNat_ofNat', Nat.mod_eq_of_lt (by omega)]
      omega
    split at h
    · simp only [List.mem_cons, List.not_mem_nil, or_false] at h
      rcases h with rfl | rfl
      · exact absurd hb (hhigh (by omega) (by omega))
      · exact absurd hb (hhigh (by omega) (by omega))
    · split at h
      · simp only [List.mem_cons, List.not_mem_nil, or_false] at h
        rcases h with rfl | rfl | rfl
        all_goals exact absurd hb (hhigh (by omega) (by omega))
      · simp only [List.mem_cons, List.not_mem_nil, or_false] at h
        rcases h with rfl | rfl | rfl | rfl
        all_goals exact absurd hb (hhigh (by omega) (by omega))

theorem as_bytes_singleton (c : Char) : as_bytes (String.ofList [c]) = String.utf8EncodeChar c := by
  rw [as_bytes, String.toUTF8, String.toByteArray_ofList, List.utf8Encode_singleton, List.data_toByteArray]

/-- A byte below 0x80 stands for its character. -/
theorem mem_as_bytes {s : String} {b : UInt8} (h : b ∈ as_bytes s) (hb : b.toNat < 0x80) :
    ∃ c ∈ s.toList, c.toNat = b.toNat := by
  have hlist (l : List Char) (h : b ∈ as_bytes (String.ofList l)) : ∃ c ∈ l, c.toNat = b.toNat := by
    induction l with
    | nil => exact absurd h List.not_mem_nil
    | cons c l ih =>
      rw [← List.singleton_append, as_bytes_append, as_bytes_singleton] at h
      rcases List.mem_append.1 h with h | h
      · exact ⟨c, List.mem_cons_self, utf8EncodeChar_ascii h hb⟩
      · obtain ⟨d, hd, heq⟩ := ih h
        exact ⟨d, List.mem_cons_of_mem c hd, heq⟩
  refine hlist s.toList ?_
  rwa [String.ofList_toList]

/-- `trim` leaves nothing of a text when all of it is whitespace. -/
theorem trim_is_empty {s : String} : is_empty (trim s) = true ↔ ∀ c ∈ s.toList, is_whitespace c = true := by
  have hempty : is_empty (trim s) = true ↔ ∀ c ∈ s.toList.dropWhile is_whitespace, is_whitespace c = true := by
    simp [is_empty, trim, String.ext_iff, List.dropWhile_eq_nil_iff]
  rw [hempty]
  constructor
  · intro h
    have hnil : s.toList.dropWhile is_whitespace = [] := by
      by_contra hne
      have hhead := List.head_dropWhile_not is_whitespace hne
      rw [h _ (List.head_mem hne)] at hhead
      cases hhead
    exact List.dropWhile_eq_nil_iff.1 hnil
  · intro h c hc
    exact h c (List.dropWhile_sublist _ |>.subset hc)

end ResticPal.Text
