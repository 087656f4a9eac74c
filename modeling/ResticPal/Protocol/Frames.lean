import ResticPal.Lib.LittleEndian
import ResticPal.Lib.Source
import ResticPal.Rust.Text
/-!
# Frames

`resticpal-protocol/src/lib.rs`: a message on the pipe is the length of its JSON text,
in four bytes, and the text. `write_frame` appends to what was written before;
`read_frame` reads from any reader, whatever pieces that hands out. `serde_json` is a
`Codec`.

- `read_frame_written`, `read_frame_invalid`, `read_frame_short`: what a call returns, by
  the bytes to come.
- `framing_is_self_delimiting`: frames are read back one after another.
-/

open Lib

namespace ResticPal

open Text (Bytes)

def MAX_FRAME_BYTES : Nat := 1024 * 1024

inductive FrameError where
  | Io
  | Json
  | TooLarge (length : Nat)
  | InvalidLength (length : Nat)
  deriving DecidableEq

/-- `serde_json::to_vec` and `serde_json::from_slice` at a type. -/
structure Codec (T : Type) where
  to_vec : T → Option Bytes
  from_slice : Bytes → Option T

section Frames

variable {T R : Type} [Source R UInt8] (codec : Codec T)

def write_frame (written : Bytes) (value : T) : Bytes × Except FrameError Unit :=
  match codec.to_vec value with
  | none => (written, .error .Json)
  | some payload =>
    if payload.length > MAX_FRAME_BYTES then (written, .error (.TooLarge payload.length))
    else (written ++ LittleEndian.toBytes 4 payload.length ++ payload, .ok ())

/-- `read_exact`; `none` when the stream ends before. -/
def read_exact (reader : R) (n : Nat) : Option Bytes × R :=
  let read := Source.fill n reader
  (if read.1.length < n then none else some read.1, read.2)

def read_frame (reader : R) : Except FrameError T × R :=
  match read_exact reader 4 with
  | (none, reader) => (.error .Io, reader)
  | (some header, reader) =>
    let length := LittleEndian.ofBytes header
    if length = 0 ∨ length > MAX_FRAME_BYTES then (.error (.InvalidLength length), reader)
    else match read_exact reader length with
      | (none, reader) => (.error .Io, reader)
      | (some payload, reader) => match codec.from_slice payload with
        | some value => (.ok value, reader)
        | none => (.error .Json, reader)

/-- Read one frame after another, up to the first that fails. -/
def read_frames : Nat → R → Except FrameError (List T) × R
  | 0, reader => (.ok [], reader)
  | n + 1, reader => match read_frame codec reader with
    | (.error error, reader) => (.error error, reader)
    | (.ok value, reader) => match read_frames n reader with
      | (.error error, reader) => (.error error, reader)
      | (.ok values, reader) => (.ok (value :: values), reader)

/-! ## What a call does -/

theorem read_exact_eq (reader : R) (n : Nat) :
    (read_exact reader n).1 = (if (Source.rest reader).length < n then none else some ((Source.rest reader).take n)) ∧
      Source.rest (read_exact reader n).2 = (Source.rest reader).drop n := by
  obtain ⟨hread, hrest⟩ := Source.fill_eq n reader
  refine ⟨?_, hrest⟩
  rw [read_exact, hread, List.length_take]
  by_cases h : (Source.rest reader).length < n
  · rw [if_pos h, if_pos (by omega)]
  · rw [if_neg h, if_neg (by omega)]

theorem read_exact_some (reader : R) {n : Nat} {front back : Bytes} (h : Source.rest reader = front ++ back)
    (hn : front.length = n) : ∃ left, read_exact reader n = (some front, left) ∧ Source.rest left = back := by
  obtain ⟨hread, hrest⟩ := read_exact_eq reader n
  have hlength : ¬ (Source.rest reader).length < n := by
    rw [h, List.length_append]
    omega
  rw [if_neg hlength, h, ← hn, List.take_left] at hread
  rw [h, ← hn, List.drop_left] at hrest
  rw [← hn]
  exact ⟨_, Prod.ext hread rfl, hrest⟩

theorem read_exact_none (reader : R) {n : Nat} (h : (Source.rest reader).length < n) :
    ∃ left, read_exact reader n = (none, left) := by
  obtain ⟨hread, -⟩ := read_exact_eq reader n
  rw [if_pos h] at hread
  exact ⟨_, Prod.ext hread rfl⟩

/-- The length that a stream declares. -/
def declared (bytes : Bytes) : Nat := LittleEndian.ofBytes (bytes.take 4)

/-- A length that is not allowed is refused before the payload is read. -/
theorem read_frame_invalid (reader : R) (hheader : 4 ≤ (Source.rest reader).length)
    (hlength : declared (Source.rest reader) = 0 ∨ MAX_FRAME_BYTES < declared (Source.rest reader)) :
    ∃ left, read_frame codec reader = (.error (.InvalidLength (declared (Source.rest reader))), left) ∧
      Source.rest left = (Source.rest reader).drop 4 := by
  obtain ⟨left, hread, hleft⟩ := read_exact_some reader (List.take_append_drop 4 (Source.rest reader)).symm
    (List.length_take_of_le hheader)
  refine ⟨left, ?_, hleft⟩
  rw [read_frame, hread]
  exact if_pos hlength

/-- A stream that ends early is refused. -/
theorem read_frame_short (reader : R)
    (h : (Source.rest reader).length < 4 ∨ (Source.rest reader).length < 4 + declared (Source.rest reader)) :
    ∃ error left, read_frame codec reader = (.error error, left) := by
  by_cases hheader : (Source.rest reader).length < 4
  · obtain ⟨left, hread⟩ := read_exact_none reader hheader
    refine ⟨.Io, left, ?_⟩
    rw [read_frame, hread]
  · have hends : (Source.rest reader).length < 4 + declared (Source.rest reader) := h.resolve_left hheader
    obtain ⟨left, hread, hleft⟩ := read_exact_some reader (List.take_append_drop 4 (Source.rest reader)).symm
      (List.length_take_of_le (Nat.not_lt.1 hheader))
    rw [read_frame, hread]
    dsimp only
    split
    · exact ⟨_, _, rfl⟩
    · have hpayload : (Source.rest left).length < declared (Source.rest reader) := by
        rw [hleft, List.length_drop]
        omega
      obtain ⟨ended, hpayload⟩ := read_exact_none left hpayload
      refine ⟨.Io, ended, ?_⟩
      rw [show LittleEndian.ofBytes ((Source.rest reader).take 4) = declared (Source.rest reader) from rfl, hpayload]

/-! ## Round trips -/

/-- The value has an encoding that a frame can hold and that decodes to it. -/
def Framed (value : T) : Prop :=
  ∃ payload, codec.to_vec value = some payload ∧ payload ≠ [] ∧ payload.length ≤ MAX_FRAME_BYTES ∧
    codec.from_slice payload = some value

variable {codec}

theorem write_frame_eq {value : T} {payload : Bytes} (h : codec.to_vec value = some payload)
    (hlength : payload.length ≤ MAX_FRAME_BYTES) (written : Bytes) :
    write_frame codec written value = (written ++ LittleEndian.toBytes 4 payload.length ++ payload, .ok ()) := by
  rw [write_frame, h]
  exact if_neg (Nat.not_lt.2 hlength)

/-- A frame is read back, and nothing behind it is read. -/
theorem read_frame_written {value : T} (h : Framed codec value) {after : Bytes} (reader : R)
    (hreader : Source.rest reader = (write_frame codec [] value).1 ++ after) :
    ∃ left, read_frame codec reader = (.ok value, left) ∧ Source.rest left = after := by
  obtain ⟨payload, hencode, hne, hlength, hdecode⟩ := h
  have hpos : 0 < payload.length := List.length_pos_iff.2 hne
  rw [write_frame_eq hencode hlength, List.nil_append, List.append_assoc] at hreader
  obtain ⟨body, hheader, hbody⟩ := read_exact_some reader hreader (LittleEndian.length_toBytes 4 _)
  obtain ⟨left, hpayload, hleft⟩ := read_exact_some body hbody rfl
  have hsmall : payload.length < 256 ^ 4 := by
    unfold MAX_FRAME_BYTES at hlength
    omega
  have hallowed : ¬ (payload.length = 0 ∨ payload.length > MAX_FRAME_BYTES) := by omega
  refine ⟨left, ?_, hleft⟩
  rw [read_frame, hheader]
  dsimp only
  rw [LittleEndian.ofBytes_toBytes hsmall, if_neg hallowed, hpayload]
  dsimp only
  rw [hdecode]

theorem read_frames_written {values : List T} (h : ∀ value ∈ values, Framed codec value) {after : Bytes} (reader : R)
    (hreader : Source.rest reader = values.flatMap (fun value => (write_frame codec [] value).1) ++ after) :
    ∃ left, read_frames codec values.length reader = (.ok values, left) ∧ Source.rest left = after := by
  induction values generalizing reader with
  | nil => exact ⟨reader, rfl, hreader⟩
  | cons value values ih =>
    obtain ⟨hvalue, hvalues⟩ := List.forall_mem_cons.1 h
    rw [List.flatMap_cons, List.append_assoc] at hreader
    obtain ⟨next, hread, hnext⟩ := read_frame_written hvalue reader hreader
    obtain ⟨left, hrest, hleft⟩ := ih hvalues next hnext
    refine ⟨left, ?_, hleft⟩
    rw [List.length_cons, read_frames, hread]
    dsimp only
    rw [hrest]

variable (codec)

/-- Frames that were written one after another are read back as the same values, from any
reader and with anything behind them, and their bytes are all that is read. A value that
is too large writes nothing. A declared length of zero or above the limit is refused when
its four bytes have been read, and a stream that ends early is refused. -/
theorem framing_is_self_delimiting :
    (∀ (values : List T) (after : Bytes) (reader : R), (∀ value ∈ values, Framed codec value) →
      Source.rest reader = values.flatMap (fun value => (write_frame codec [] value).1) ++ after →
      ∃ left, read_frames codec values.length reader = (.ok values, left) ∧ Source.rest left = after) ∧
    (∀ (value : T) (payload written : Bytes), codec.to_vec value = some payload → MAX_FRAME_BYTES < payload.length →
      write_frame codec written value = (written, .error (.TooLarge payload.length))) ∧
    (∀ reader : R, 4 ≤ (Source.rest reader).length →
      declared (Source.rest reader) = 0 ∨ MAX_FRAME_BYTES < declared (Source.rest reader) →
      ∃ left, read_frame codec reader = (.error (.InvalidLength (declared (Source.rest reader))), left) ∧
        Source.rest left = (Source.rest reader).drop 4) ∧
    (∀ reader : R, (Source.rest reader).length < 4 ∨ (Source.rest reader).length < 4 + declared (Source.rest reader) →
      ∃ error left, read_frame codec reader = (.error error, left)) := by
  refine ⟨?_, ?_, ?_, ?_⟩
  · intro values after reader hvalues hreader
    exact read_frames_written hvalues reader hreader
  · intro value payload written hencode hlarge
    rw [write_frame, hencode]
    exact if_pos hlarge
  · intro reader hheader hlength
    exact read_frame_invalid codec reader hheader hlength
  · intro reader h
    exact read_frame_short codec reader h

end Frames

/-- Two messages, and what is not a frame behind them. -/
theorem two_frames_are_read_back :
    let codec : Codec Bytes := ⟨some, some⟩
    ∃ left, read_frames codec 2 (Cursor.mk ([1, 0, 0, 0, 0x31] ++ [2, 0, 0, 0, 0x32, 0x33] ++ [0, 0, 0, 0])) =
        (.ok [[0x31], [0x32, 0x33]], left) ∧ Source.rest left = [0, 0, 0, 0] ∧
      ∃ ended, read_frame codec left = (.error (.InvalidLength 0), ended) := by
  intro codec
  have hframed : ∀ value ∈ [[0x31], [0x32, 0x33]], Framed codec value := by
    rintro value hvalue
    refine ⟨value, rfl, ?_, ?_, rfl⟩
    · rintro rfl
      simp at hvalue
    · have hlength : value.length ≤ 2 := by
        rcases List.mem_cons.1 hvalue with rfl | hvalue
        · decide
        · rw [List.mem_singleton.1 hvalue]
          decide
      exact Nat.le_trans hlength (by decide)
  have hdelimited := @framing_is_self_delimiting _ (Cursor UInt8) _ codec
  obtain ⟨left, hread, hleft⟩ := hdelimited.1 [[0x31], [0x32, 0x33]] [0, 0, 0, 0]
    (Cursor.mk ([1, 0, 0, 0, 0x31] ++ [2, 0, 0, 0, 0x32, 0x33] ++ [0, 0, 0, 0])) hframed rfl
  obtain ⟨ended, hended, -⟩ := hdelimited.2.2.1 left (by rw [hleft]; decide) (.inl (by rw [hleft]; decide))
  rw [hleft] at hended
  exact ⟨left, hread, hleft, ended, hended⟩

end ResticPal
