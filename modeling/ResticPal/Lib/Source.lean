import Mathlib.Data.List.Basic
/-!
# Streams that are handed out in pieces

A `Source` decides itself how much of its stream a `read` returns. What a program
learns from it should not depend on that: `fill` reads a given number of elements
whatever the pieces are, and a `Buffered` source has the same stream as the source
behind it.
-/

namespace Lib

/-- Something a stream is read from: `read n` hands out at most `n` elements, and none only
at the end of the stream. -/
class Source (σ : Type) (α : outParam Type) where
  read : σ → Nat → List α × σ
  /-- What is still to come. -/
  rest : σ → List α
  read_append : ∀ s n, (read s n).1 ++ rest (read s n).2 = rest s
  read_le : ∀ s n, (read s n).1.length ≤ n
  read_ne_nil : ∀ s n, 0 < n → rest s ≠ [] → (read s n).1 ≠ []

namespace Source

variable {σ α : Type} [Source σ α]

theorem read_eq_nil {s : σ} {n : Nat} (hn : 0 < n) : (read s n).1 = [] ↔ rest s = [] := by
  constructor
  · intro h
    by_contra hrest
    exact read_ne_nil s n hn hrest h
  · intro h
    have happend := read_append s n
    rw [h] at happend
    exact (List.append_eq_nil_iff.1 happend).1

/-- Read until there are `n` elements or no more come, in at most `fuel` calls. -/
def fillLoop : Nat → Nat → σ → List α × σ
  | 0, _, s => ([], s)
  | fuel + 1, n, s =>
    if n = 0 then ([], s)
    else
      let piece := read s n
      if piece.1.isEmpty then ([], piece.2)
      else
        let further := fillLoop fuel (n - piece.1.length) piece.2
        (piece.1 ++ further.1, further.2)

/-- Read `n` elements, or all that are left. Every call brings one or is the last. -/
def fill (n : Nat) (s : σ) : List α × σ := fillLoop n n s

theorem fillLoop_eq {fuel n : Nat} (h : n ≤ fuel) (s : σ) :
    (fillLoop fuel n s).1 = (rest s).take n ∧ rest (fillLoop fuel n s).2 = (rest s).drop n := by
  induction fuel generalizing n s with
  | zero =>
    obtain rfl := Nat.le_zero.1 h
    exact ⟨rfl, rfl⟩
  | succ fuel ih =>
    rw [fillLoop]
    by_cases hn : n = 0
    · subst hn
      exact ⟨rfl, rfl⟩
    · have hpos : 0 < n := Nat.pos_of_ne_zero hn
      have happend := read_append s n
      have hle := read_le s n
      rw [if_neg hn]
      dsimp only
      split
      · rename_i hempty
        have hrest := (read_eq_nil hpos).1 (List.isEmpty_iff.1 hempty)
        rw [List.isEmpty_iff.1 hempty, hrest] at happend
        rw [hrest]
        exact ⟨(List.take_nil).symm, happend.trans List.drop_nil.symm⟩
      · rename_i hpiece
        have hlength : 0 < (read s n).1.length := by
          rw [List.length_pos_iff]
          exact fun hnil => hpiece (List.isEmpty_iff.2 hnil)
        obtain ⟨htaken, hleft⟩ := ih (by omega : n - (read s n).1.length ≤ fuel) (read s n).2
        rw [← happend, List.take_append, List.take_of_length_le hle, List.drop_append,
          List.drop_of_length_le hle, List.nil_append]
        exact ⟨by rw [htaken], hleft⟩

/-- However the stream is handed out, `fill` takes its next `n` elements. -/
theorem fill_eq (n : Nat) (s : σ) : (fill n s).1 = (rest s).take n ∧ rest (fill n s).2 = (rest s).drop n :=
  fillLoop_eq (Nat.le_refl n) s

end Source

/-- A stream that is all there. -/
structure Cursor (α : Type) where
  left : List α

instance {α : Type} : Source (Cursor α) α where
  read s n := (s.left.take n, ⟨s.left.drop n⟩)
  rest s := s.left
  read_append s n := List.take_append_drop n s.left
  read_le s n := List.length_take_le n s.left
  read_ne_nil s n hn hleft := by
    rw [Ne, List.take_eq_nil_iff]
    exact not_or.2 ⟨Nat.ne_of_gt hn, hleft⟩

/-- A source behind a buffer that holds what was read and not yet used. -/
structure Buffered (σ α : Type) where
  inner : σ
  buffer : List α
  capacity : {n : Nat // 0 < n}

namespace Buffered

variable {σ α : Type}

def new (capacity : {n : Nat // 0 < n}) (inner : σ) : Buffered σ α := ⟨inner, [], capacity⟩

def consume (b : Buffered σ α) (n : Nat) : Buffered σ α := { b with buffer := b.buffer.drop n }

variable [Source σ α]

/-- Read on, if the buffer is used up. -/
def refill (b : Buffered σ α) : Buffered σ α :=
  if b.buffer.isEmpty then
    let piece := Source.read b.inner b.capacity.val
    { b with inner := piece.2, buffer := piece.1 }
  else b

/-- What is still to come. -/
def rest (b : Buffered σ α) : List α := b.buffer ++ Source.rest b.inner

theorem refill_of_ne_nil {b : Buffered σ α} (h : b.buffer ≠ []) : b.refill = b := by
  rw [refill, if_neg]
  rwa [List.isEmpty_iff]

theorem refill_of_nil {b : Buffered σ α} (h : b.buffer = []) :
    b.refill = { b with inner := (Source.read b.inner b.capacity.val).2, buffer := (Source.read b.inner b.capacity.val).1 } := by
  rw [refill, if_pos (List.isEmpty_iff.2 h)]

@[simp] theorem rest_refill (b : Buffered σ α) : b.refill.rest = b.rest := by
  by_cases h : b.buffer = []
  · rw [refill_of_nil h, rest, rest, h]
    exact Source.read_append _ _
  · rw [refill_of_ne_nil h]

/-- After a refill the buffer is empty at the end of the stream only. -/
theorem refill_buffer_eq_nil {b : Buffered σ α} : b.refill.buffer = [] ↔ b.rest = [] := by
  by_cases h : b.buffer = []
  · rw [refill_of_nil h, rest, h, List.nil_append]
    exact Source.read_eq_nil b.capacity.property
  · rw [refill_of_ne_nil h, rest]
    exact iff_of_false h (fun hrest => h (List.append_eq_nil_iff.1 hrest).1)

/-- What reading keeps of the source behind the buffer, a refill keeps. -/
theorem refill_inv {I : σ → Prop} (hread : ∀ s n, I s → I (Source.read s n).2) {b : Buffered σ α} (h : I b.inner) :
    I b.refill.inner := by
  by_cases hb : b.buffer = []
  · rw [refill_of_nil hb]
    exact hread _ _ h
  · rw [refill_of_ne_nil hb]
    exact h

end Buffered

end Lib
