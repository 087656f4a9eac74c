import ResticPal.Lib.Source
import ResticPal.Service.Output
/-!
# Output through a buffered reader

`Service/Output` takes the pieces that `fill_buf` returns as they come. Here they
come from a `std::io::BufReader` over any reader: the process's stream, or a
`PrefixCapturingReader` around it, which keeps the first bytes that go through.

- `Feeds`: the pieces a buffered reader will hand out; every reader has them.
- `read_bounded_line_eq`: a call makes the step that `Service/Output` describes.
- `lines_do_not_depend_on_chunks`: however a stream is cut into reads, and whatever
  the capacity of the buffer, the calls yield its lines.
-/

open Lib

namespace ResticPal

open Text (Bytes)

namespace Reading

variable {σ : Type} [Source σ UInt8]

/-- What a call of `read_bounded_line` returns, with the line and the reader that it leaves. -/
structure Call (σ : Type) where
  valid : Option Bool
  line : Bytes
  reader : Buffered σ UInt8

/-- The loop of `read_bounded_line`, for at most `fuel` turns. -/
def read_bounded_line_loop : Nat → Buffered σ UInt8 → Bytes → Bool → Bool → Option (Call σ)
  | 0, _, _, _, _ => none
  | fuel + 1, reader, line, oversized, read_any =>
    let reader := reader.refill
    let available := reader.buffer
    if available.isEmpty then some ⟨if read_any then some (!oversized) else none, line, reader⟩
    else
      let consumed := (available.findIdx? (· == LF)).elim available.length (· + 1)
      let fits := !oversized && line.length + consumed ≤ MAX_JSON_LINE_BYTES
      let line := if fits then line ++ available.take consumed else line
      let ended := available[consumed - 1]? == some LF
      let reader := reader.consume consumed
      if ended then some ⟨some fits, line, reader⟩
      else read_bounded_line_loop fuel reader line (!fits) true

/-- `read_bounded_line`. Every turn but the last uses a byte of the stream. -/
def read_bounded_line (reader : Buffered σ UInt8) : Option (Call σ) :=
  read_bounded_line_loop (reader.rest.length + 1) reader [] false false

/-- Call `read_bounded_line` until it returns `None`, at most `fuel` times: for each line
whether it is valid, and the buffer. -/
def read_lines_loop : Nat → Buffered σ UInt8 → Option (List (Bool × Bytes) × Buffered σ UInt8)
  | 0, _ => none
  | fuel + 1, reader => do
    let call ← read_bounded_line reader
    match call.valid with
    | none => return ([], call.reader)
    | some valid =>
      let further ← read_lines_loop fuel call.reader
      return ((valid, call.line) :: further.1, further.2)

def read_lines (reader : Buffered σ UInt8) : Option (List (Bool × Bytes) × Buffered σ UInt8) :=
  read_lines_loop (reader.rest.length + 1) reader

/-- `read_json_output`: what the calls report is recorded one by one. -/
def read_json_output (d : Decoder) (reader : Buffered σ UInt8) : Option (ParsedOutput × Buffered σ UInt8) :=
  (read_lines reader).map fun lines => (lines.1.foldl (fun parsed read => parsed.record d read.1 read.2) {}, lines.2)

end Reading

/-! ## Readers -/

/-- The stream of a process: every `read` returns the next chunk, or as much of it as the
buffer takes. -/
instance : Source BufReader UInt8 where
  read
    | [], _ => ([], [])
    | chunk :: chunks, n => (chunk.bytes.take n, BufReader.consume chunk n chunks)
  rest := BufReader.bytes
  read_append
    | [], _ => rfl
    | chunk :: chunks, n => by
      dsimp only
      rw [BufReader.bytes_consume, ← List.append_assoc, List.take_append_drop, BufReader.bytes_cons]
  read_le
    | [], _ => Nat.zero_le _
    | chunk :: chunks, n => List.length_take_le n _
  read_ne_nil
    | [], _, _, h => absurd rfl h
    | chunk :: chunks, n, hn, _ => by
      rw [Ne, List.take_eq_nil_iff]
      exact not_or.2 ⟨Nat.ne_of_gt hn, chunk.nonempty⟩

/-- `PrefixCapturingReader`. -/
structure PrefixCapturingReader (σ : Type) where
  inner : σ
  captured : Bytes
  limit : Nat

namespace PrefixCapturingReader

variable {σ : Type}

def new (inner : σ) (limit : Nat) : PrefixCapturingReader σ := ⟨inner, [], limit⟩

variable [Source σ UInt8]

def read (reader : PrefixCapturingReader σ) (n : Nat) : Bytes × PrefixCapturingReader σ :=
  let read := Source.read reader.inner n
  let remaining := reader.limit - reader.captured.length
  (read.1, { reader with inner := read.2, captured := reader.captured ++ read.1.take remaining })

instance : Source (PrefixCapturingReader σ) UInt8 where
  read
  rest reader := Source.rest reader.inner
  read_append reader n := Source.read_append reader.inner n
  read_le reader n := Source.read_le reader.inner n
  read_ne_nil reader n := Source.read_ne_nil reader.inner n

/-- The reader has captured what it may of the part of the stream that went through. -/
def Captures (stream : Bytes) (limit : Nat) (reader : PrefixCapturingReader σ) : Prop :=
  reader.limit = limit ∧
    ∃ passed, passed ++ Source.rest reader.inner = stream ∧ reader.captured = passed.take limit

theorem Captures.new (inner : σ) (limit : Nat) : Captures (Source.rest inner) limit (new inner limit) :=
  ⟨rfl, [], rfl, List.take_nil.symm⟩

theorem Captures.read {stream : Bytes} {limit : Nat} {reader : PrefixCapturingReader σ} (h : Captures stream limit reader)
    (n : Nat) : Captures stream limit (reader.read n).2 := by
  obtain ⟨rfl, passed, hstream, hcaptured⟩ := h
  refine ⟨rfl, passed ++ (Source.read reader.inner n).1, ?_, ?_⟩
  · show passed ++ (Source.read reader.inner n).1 ++ Source.rest (Source.read reader.inner n).2 = stream
    rw [List.append_assoc, Source.read_append, hstream]
  · show reader.captured ++ (Source.read reader.inner n).1.take (reader.limit - reader.captured.length) = _
    have hroom : reader.limit - reader.captured.length = reader.limit - passed.length := by
      rw [hcaptured, List.length_take]
      omega
    rw [hroom, List.take_append, hcaptured]

/-- At the end of the stream. -/
theorem Captures.ended {stream : Bytes} {limit : Nat} {reader : PrefixCapturingReader σ} (h : Captures stream limit reader)
    (hend : Source.rest reader.inner = []) : reader.captured = stream.take limit := by
  obtain ⟨-, passed, hstream, hcaptured⟩ := h
  rw [hcaptured, ← hstream, hend, List.append_nil]

end PrefixCapturingReader

/-- The chunks that went through, up to the limit. -/
theorem captured_stderr_eq (limit : Nat) (stream : BufReader) : captured_stderr limit stream = stream.bytes.take limit := by
  have hfold (passed : Bytes) : stream.foldl (fun captured chunk => captured ++ chunk.bytes.take (limit - captured.length))
      (passed.take limit) = (passed ++ stream.bytes).take limit := by
    induction stream generalizing passed with
    | nil => rw [List.foldl_nil, BufReader.bytes, List.flatMap_nil, List.append_nil]
    | cons chunk stream ih =>
      have hroom : limit - (passed.take limit).length = limit - passed.length := by
        rw [List.length_take]
        omega
      rw [List.foldl_cons, hroom, ← List.take_append, ih, BufReader.bytes_cons, List.append_assoc]
  have hstart := hfold []
  rwa [List.take_nil] at hstart

namespace Reading

variable {σ : Type} [Source σ UInt8] {reader : Buffered σ UInt8} {pieces : BufReader}

/-! ## The pieces of a buffered reader -/

/-- The pieces that `fill_buf` returns, when each is consumed before the next call. -/
inductive Feeds : Buffered σ UInt8 → BufReader → Prop
  | ended {reader : Buffered σ UInt8} : reader.refill.buffer = [] → Feeds reader []
  | piece {reader : Buffered σ UInt8} {available : Chunk} {pieces : BufReader} :
      reader.refill.buffer = available.bytes → Feeds { reader.refill with buffer := [] } pieces →
      Feeds reader (available :: pieces)

theorem Feeds.bytes (h : Feeds reader pieces) : pieces.bytes = reader.rest := by
  induction h with
  | ended hempty => exact (Buffered.refill_buffer_eq_nil.1 hempty).symm
  | @piece reader available pieces hbuffer _ ih =>
    rw [BufReader.bytes_cons, ih, ← hbuffer, ← Buffered.rest_refill reader]
    rfl

theorem exists_feeds (reader : Buffered σ UInt8) : ∃ pieces, Feeds reader pieces := by
  induction hn : reader.rest.length using Nat.strongRecOn generalizing reader with
  | _ n ih =>
    by_cases hempty : reader.refill.buffer = []
    · exact ⟨[], .ended hempty⟩
    · have hrest : reader.rest.length = reader.refill.buffer.length + (Source.rest reader.refill.inner).length := by
        rw [← Buffered.rest_refill, Buffered.rest, List.length_append]
      have hpos : 0 < reader.refill.buffer.length := List.length_pos_iff.2 hempty
      obtain ⟨pieces, hpieces⟩ := ih (Source.rest reader.refill.inner).length (by omega)
        { reader.refill with buffer := [] } rfl
      exact ⟨⟨reader.refill.buffer, hempty⟩ :: pieces, .piece rfl hpieces⟩

/-- There are no more pieces than bytes. -/
theorem Feeds.length_le (h : Feeds reader pieces) : pieces.length ≤ reader.rest.length := by
  rw [← h.bytes]
  clear h
  induction pieces with
  | nil => exact Nat.zero_le _
  | cons available pieces ih =>
    have hpos : 0 < available.bytes.length := List.length_pos_iff.2 available.nonempty
    rw [BufReader.bytes_cons, List.length_append, List.length_cons]
    omega

/-- What is left of a piece is the next one. -/
theorem Feeds.consume {available : Chunk} (hbuffer : reader.refill.buffer = available.bytes)
    (h : Feeds { reader.refill with buffer := [] } pieces) (n : Nat) :
    Feeds (reader.refill.consume n) (BufReader.consume available n pieces) := by
  have hdrop : (reader.refill.consume n).buffer = available.bytes.drop n := by rw [← hbuffer]; rfl
  unfold BufReader.consume
  split
  · rename_i hleft
    have hrefill : (reader.refill.consume n).refill = reader.refill.consume n :=
      Buffered.refill_of_ne_nil (by rw [hdrop]; exact hleft)
    refine .piece ?_ ?_
    · rw [hrefill, hdrop]
    · rw [hrefill]
      exact h
  · rename_i hnone
    rw [not_not] at hnone
    have hreader : reader.refill.consume n = { reader.refill with buffer := [] } := by
      rw [hnone] at hdrop
      rw [Buffered.consume, Buffered.mk.injEq]
      exact ⟨rfl, hdrop, rfl⟩
    rw [hreader]
    exact h

/-! ## Calls -/

theorem consumed_eq (available : Chunk) :
    (available.bytes.findIdx? (· == LF)).elim available.bytes.length (· + 1) = available.consumed := by
  unfold Chunk.consumed
  cases available.bytes.findIdx? (· == LF) with
  | none => rfl
  | some index => rfl

/-- The loop does what the one over the pieces does. -/
theorem read_bounded_line_loop_eq (h : Feeds reader pieces) {fuel : Nat} (hfuel : pieces.length < fuel) (line : Bytes)
    (oversized read_any : Bool) :
    ∃ after, read_bounded_line_loop fuel reader line oversized read_any =
        some ⟨(ResticPal.read_bounded_line_loop line oversized read_any pieces).valid,
          (ResticPal.read_bounded_line_loop line oversized read_any pieces).line, after⟩ ∧
      Feeds after (ResticPal.read_bounded_line_loop line oversized read_any pieces).reader := by
  induction fuel generalizing reader pieces line oversized read_any with
  | zero => exact absurd hfuel (Nat.not_lt_zero _)
  | succ fuel ih =>
    rw [read_bounded_line_loop]
    dsimp only
    cases h with
    | ended hempty =>
      rw [if_pos (List.isEmpty_iff.2 hempty)]
      refine ⟨_, rfl, .ended ?_⟩
      rw [Buffered.refill_buffer_eq_nil, Buffered.rest_refill]
      exact Buffered.refill_buffer_eq_nil.1 hempty
    | @piece _ available pieces hbuffer hpieces =>
      have hne : ¬ reader.refill.buffer.isEmpty = true := by
        rw [List.isEmpty_iff, hbuffer]
        exact available.nonempty
      have hconsume := hpieces.consume hbuffer available.consumed
      rw [if_neg hne, hbuffer, consumed_eq, ResticPal.read_bounded_line_loop]
      split
      · exact ⟨_, rfl, hconsume⟩
      · rename_i hended
        have hwhole : BufReader.consume available available.consumed pieces = pieces := by
          rcases available.consumed_cases with ⟨body, after, hbytes, -, hconsumed⟩ | ⟨-, hconsumed⟩
          · refine absurd ?_ hended
            rw [hconsumed, hbytes]
            simp
          · rw [BufReader.consume, dif_neg]
            rw [hconsumed, List.drop_length]
            exact fun hne => hne rfl
        rw [hwhole] at hconsume
        exact ih hconsume (Nat.lt_of_succ_lt_succ hfuel) _ _ _

/-- A call makes the step that is described for the pieces. -/
theorem read_bounded_line_eq (h : Feeds reader pieces) :
    ∃ after, read_bounded_line reader =
        some ⟨(ResticPal.read_bounded_line pieces).valid, (ResticPal.read_bounded_line pieces).line, after⟩ ∧
      Feeds after (ResticPal.read_bounded_line pieces).reader :=
  read_bounded_line_loop_eq h (Nat.lt_succ_of_le h.length_le) [] false false

/-- What reading keeps of the reader behind the buffer, a call keeps. -/
theorem read_bounded_line_loop_inv {I : σ → Prop} (hread : ∀ s n, I s → I (Source.read s n).2) {fuel : Nat} {line : Bytes}
    {oversized read_any : Bool} {call : Call σ} (h : I reader.inner)
    (hcall : read_bounded_line_loop fuel reader line oversized read_any = some call) : I call.reader.inner := by
  induction fuel generalizing reader line oversized read_any with
  | zero => cases hcall
  | succ fuel ih =>
    have hrefill := Buffered.refill_inv hread h
    rw [read_bounded_line_loop] at hcall
    dsimp only at hcall
    split at hcall
    · cases hcall
      exact hrefill
    · split at hcall
      · cases hcall
        exact hrefill
      · refine ih ?_ hcall
        exact hrefill

/-- A line, as a call reports it: flagged by its length, and in the buffer if it fits. -/
def ReadAs (line : Bytes) (read : Bool × Bytes) : Prop :=
  read.1 = decide (line.length ≤ MAX_JSON_LINE_BYTES) ∧ (line.length ≤ MAX_JSON_LINE_BYTES → read.2 = line)

theorem read_lines_loop_eq {I : σ → Prop} (hread : ∀ s n, I s → I (Source.read s n).2) {fuel : Nat}
    (hfuel : reader.rest.length < fuel) (h : I reader.inner) :
    ∃ lines ended, read_lines_loop fuel reader = some (lines, ended) ∧
      List.Forall₂ ReadAs (Lines.lines LF reader.rest) lines ∧ ended.rest = [] ∧ I ended.inner := by
  induction fuel generalizing reader with
  | zero => exact absurd hfuel (Nat.not_lt_zero _)
  | succ fuel ih =>
    obtain ⟨pieces, hpieces⟩ := exists_feeds reader
    obtain ⟨after, hcall, hafter⟩ := read_bounded_line_eq hpieces
    have hinner : I after.inner := read_bounded_line_loop_inv hread h hcall
    rw [read_lines_loop, hcall]
    by_cases hbytes : pieces.bytes = []
    · have hnil : pieces = [] := by
        cases pieces with
        | nil => rfl
        | cons available pieces => exact absurd hbytes (BufReader.bytes_ne_nil available pieces)
      subst hnil
      rw [← hpieces.bytes]
      exact ⟨[], after, rfl, .nil, hafter.bytes.symm, hinner⟩
    · obtain ⟨hvalid, hline, hrest⟩ := read_bounded_line_spec pieces hbytes
      have hlength := Lines.split_length LF pieces.bytes
      have hpos := Lines.split_pos LF hbytes
      have hleft : after.rest = (Lines.split LF pieces.bytes).2 := by rw [← hafter.bytes, hrest]
      have hfewer : after.rest.length < fuel := by
        rw [← hpieces.bytes] at hfuel
        rw [hleft]
        omega
      obtain ⟨lines, ended, hlines, hread, hended, hinv⟩ := ih hfewer hinner
      refine ⟨(decide ((Lines.split LF pieces.bytes).1.length ≤ MAX_JSON_LINE_BYTES),
        (ResticPal.read_bounded_line pieces).line) :: lines, ended, ?_, ?_, hended, hinv⟩
      · simp only [hvalid, hlines, Option.bind_eq_bind, Option.bind_some]
        rfl
      · rw [← hpieces.bytes, Lines.lines_eq_cons LF hbytes, ← hleft]
        exact .cons ⟨rfl, hline⟩ hread

theorem record_readAs (d : Decoder) (parsed : ParsedOutput) {line : Bytes} {read : Bool × Bytes} (h : ReadAs line read) :
    parsed.record d read.1 read.2 = parsed.record_line d line := by
  obtain ⟨hvalid, hline⟩ := h
  unfold ParsedOutput.record_line
  rw [hvalid]
  by_cases hfits : line.length ≤ MAX_JSON_LINE_BYTES
  · rw [hline hfits]
  · rw [decide_eq_false hfits]
    rfl

/-- Recording what the calls report is recording the lines. -/
theorem foldl_readAs (d : Decoder) {lines : List Bytes} {reads : List (Bool × Bytes)} (h : List.Forall₂ ReadAs lines reads)
    (parsed : ParsedOutput) :
    reads.foldl (fun parsed read => parsed.record d read.1 read.2) parsed =
      lines.foldl (ParsedOutput.record_line d) parsed := by
  induction h generalizing parsed with
  | nil => rfl
  | cons hread _ ih => rw [List.foldl_cons, List.foldl_cons, record_readAs d parsed hread, ih]

/-- The lines of a stream, read through a `PrefixCapturingReader`. -/
theorem read_lines_captured (stream : BufReader) (capacity : {n : Nat // 0 < n}) (limit : Nat) :
    ∃ reads ended, read_lines (Buffered.new capacity (PrefixCapturingReader.new stream limit)) = some (reads, ended) ∧
      List.Forall₂ ReadAs (Lines.lines LF stream.bytes) reads ∧ ended.inner.captured = stream.bytes.take limit := by
  obtain ⟨reads, ended, hread, hlines, hend, hcaptures⟩ := @read_lines_loop_eq _ _
    (Buffered.new capacity (PrefixCapturingReader.new stream limit))
    (PrefixCapturingReader.Captures stream.bytes limit) (fun _ n h => h.read n) _ (Nat.lt_succ_self _) (.new stream limit)
  exact ⟨reads, ended, hread, hlines, hcaptures.ended (List.append_eq_nil_iff.1 hend).2⟩

/-- `read_stderr_output`: what `Service/Output` computes from the chunks, whatever the buffer. -/
theorem read_stderr_output_eq (d : Decoder) (stream : BufReader) (capacity : {n : Nat // 0 < n}) :
    ∃ ended, read_json_output d (Buffered.new capacity (PrefixCapturingReader.new stream MAX_STDERR_BYTES)) =
        some (ResticPal.read_json_output d stream, ended) ∧
      ended.inner.captured = captured_stderr MAX_STDERR_BYTES stream := by
  obtain ⟨reads, ended, hread, hlines, hcaptured⟩ := read_lines_captured stream capacity MAX_STDERR_BYTES
  refine ⟨ended, ?_, ?_⟩
  · rw [read_json_output, hread, Option.map_some, foldl_readAs d hlines, read_json_output_eq]
  · rw [hcaptured, captured_stderr_eq]

/-- For every stream, cut into reads in any way, and every capacity of the buffer: the calls
of `read_bounded_line` end and report the lines of the stream in order. Through a
`PrefixCapturingReader` they report the same lines, and it has then captured the first
bytes of the stream. -/
theorem lines_do_not_depend_on_chunks (stream : BufReader) (capacity : {n : Nat // 0 < n}) (limit : Nat) :
    ∃ lines, Lines.AreLines LF lines stream.bytes ∧
      (∃ reads ended, read_lines (Buffered.new capacity stream) = some (reads, ended) ∧ List.Forall₂ ReadAs lines reads) ∧
      ∃ reads ended, read_lines (Buffered.new capacity (PrefixCapturingReader.new stream limit)) = some (reads, ended) ∧
        List.Forall₂ ReadAs lines reads ∧
        ended.inner.captured = stream.bytes.take (min limit stream.bytes.length) := by
  refine ⟨_, Lines.lines_areLines LF stream.bytes, ?_, ?_⟩
  · obtain ⟨reads, ended, hread, hlines, -⟩ := @read_lines_loop_eq _ _ (Buffered.new capacity stream) (fun _ => True)
      (fun _ _ _ => trivial) _ (Nat.lt_succ_self _) trivial
    exact ⟨reads, ended, hread, hlines⟩
  · obtain ⟨reads, ended, hread, hlines, hcaptured⟩ := read_lines_captured stream capacity limit
    refine ⟨reads, ended, hread, hlines, ?_⟩
    rw [hcaptured, List.take_eq_take_iff, Nat.min_assoc, Nat.min_self]

end Reading

end ResticPal
