import Mathlib.Data.List.Basic
/-!
# Lines of a stream

A line ends with its terminator; the last line of a stream may lack one. `split`
takes the first line off, and `lines` is what is left of a stream when that is
done until nothing remains. The lemmas on `++` are what a reader needs that sees
the stream piece by piece.
-/

namespace Lib.Lines

variable {α : Type} [DecidableEq α] (stop : α)

/-- The first line, and what follows it. -/
def split : List α → List α × List α
  | [] => ([], [])
  | x :: xs => if x = stop then ([x], xs) else (x :: (split xs).1, (split xs).2)

def lines : List α → List (List α)
  | [] => []
  | x :: xs =>
    if x = stop then [x] :: lines xs
    else match lines xs with
      | [] => [[x]]
      | line :: rest => (x :: line) :: rest

@[simp] theorem split_stop (xs : List α) : split stop (stop :: xs) = ([stop], xs) := if_pos rfl

@[simp] theorem split_cons {x : α} (h : x ≠ stop) (xs : List α) :
    split stop (x :: xs) = (x :: (split stop xs).1, (split stop xs).2) := if_neg h

@[simp] theorem lines_stop (xs : List α) : lines stop (stop :: xs) = [stop] :: lines stop xs := if_pos rfl

theorem split_length (xs : List α) : (split stop xs).1.length + (split stop xs).2.length = xs.length := by
  induction xs with
  | nil => rfl
  | cons x xs ih =>
    by_cases hx : x = stop
    · subst hx
      simp only [split_stop, List.length_cons, List.length_nil]
      omega
    · simp only [split_cons stop hx, List.length_cons]
      omega

theorem split_pos {xs : List α} (h : xs ≠ []) : 0 < (split stop xs).1.length := by
  cases xs with
  | nil => exact absurd rfl h
  | cons x xs =>
    by_cases hx : x = stop
    · subst hx
      rw [split_stop]
      exact Nat.one_pos
    · rw [split_cons stop hx]
      exact Nat.succ_pos _

theorem lines_eq_cons {xs : List α} (h : xs ≠ []) :
    lines stop xs = (split stop xs).1 :: lines stop (split stop xs).2 := by
  induction xs with
  | nil => exact absurd rfl h
  | cons x xs ih =>
    by_cases hx : x = stop
    · subst hx
      rw [split_stop, lines_stop]
    · rw [split_cons stop hx, lines, if_neg hx]
      cases xs with
      | nil => rfl
      | cons y ys => rw [ih (List.cons_ne_nil y ys)]

/-- A piece without a terminator belongs to the first line. -/
theorem split_append {xs : List α} (h : stop ∉ xs) (ys : List α) :
    split stop (xs ++ ys) = (xs ++ (split stop ys).1, (split stop ys).2) := by
  induction xs with
  | nil => rfl
  | cons x xs ih =>
    have hx : x ≠ stop := fun hx => h (hx ▸ List.mem_cons_self)
    have hxs : stop ∉ xs := fun hmem => h (List.mem_cons_of_mem x hmem)
    rw [List.cons_append, split_cons stop hx, ih hxs]
    rfl

/-- The first line ends with the first terminator. -/
theorem split_append_cons {xs : List α} (h : stop ∉ xs) (ys : List α) :
    split stop (xs ++ stop :: ys) = (xs ++ [stop], ys) := by
  rw [split_append stop h, split_stop]

/-- After a terminator a new line starts. -/
theorem lines_append_stop (xs ys : List α) :
    lines stop (xs ++ stop :: ys) = lines stop (xs ++ [stop]) ++ lines stop ys := by
  induction xs with
  | nil => rw [List.nil_append, List.nil_append, lines_stop, lines_stop, lines, List.singleton_append]
  | cons x xs ih =>
    by_cases hx : x = stop
    · subst hx
      rw [List.cons_append, List.cons_append, lines_stop, lines_stop, ih, List.cons_append]
    · have hne : xs ++ [stop] ≠ [] := List.append_ne_nil_of_right_ne_nil xs (List.cons_ne_nil _ _)
      rw [List.cons_append, List.cons_append, lines, lines, if_neg hx, if_neg hx, ih, lines_eq_cons stop hne]
      rfl

/-- What is nothing but complete lines. -/
def Ended (xs : List α) : Prop := xs = [] ∨ ∃ before, xs = before ++ [stop]

theorem lines_append {xs : List α} (h : Ended stop xs) (ys : List α) :
    lines stop (xs ++ ys) = lines stop xs ++ lines stop ys := by
  rcases h with rfl | ⟨before, rfl⟩
  · rfl
  · rw [List.append_assoc, List.singleton_append, lines_append_stop]

theorem lines_single {xs : List α} (h : stop ∉ xs) : lines stop (xs ++ [stop]) = [xs ++ [stop]] := by
  rw [lines_eq_cons stop (List.append_ne_nil_of_right_ne_nil xs (List.cons_ne_nil _ _)), split_append_cons stop h]
  rfl

/-- The lines of a stream: together they are the stream, none is empty, a terminator ends
its line, and only the last line may lack one. -/
structure AreLines (lines : List (List α)) (stream : List α) : Prop where
  flatten : lines.flatten = stream
  line : ∀ line ∈ lines, line ≠ [] ∧ stop ∉ line.dropLast
  ended : ∀ line ∈ lines.dropLast, line.getLast? = some stop

omit [DecidableEq α] in
/-- A further line in front. -/
theorem AreLines.cons {lines : List (List α)} {stream : List α} (h : AreLines stop lines stream) :
    AreLines stop ([stop] :: lines) (stop :: stream) where
  flatten := by rw [List.flatten_cons, h.flatten, List.singleton_append]
  line := List.forall_mem_cons.2 ⟨⟨List.cons_ne_nil _ _, List.not_mem_nil⟩, h.line⟩
  ended := by
    cases lines with
    | nil => exact fun _ hmem => absurd hmem List.not_mem_nil
    | cons next lines => exact List.forall_mem_cons.2 ⟨rfl, h.ended⟩

omit [DecidableEq α] in
/-- A further element of the first line. -/
theorem AreLines.extend {line stream : List α} {lines : List (List α)} {x : α}
    (h : AreLines stop (line :: lines) stream) (hx : x ≠ stop) : AreLines stop ((x :: line) :: lines) (x :: stream) := by
  obtain ⟨hflatten, hline, hended⟩ := h
  obtain ⟨⟨hne, hfree⟩, hlines⟩ := List.forall_mem_cons.1 hline
  refine ⟨by rw [List.flatten_cons, List.cons_append, ← List.flatten_cons, hflatten], ?_, ?_⟩
  · refine List.forall_mem_cons.2 ⟨⟨List.cons_ne_nil _ _, ?_⟩, hlines⟩
    rw [List.dropLast_cons_of_ne_nil hne]
    exact List.not_mem_cons_of_ne_of_not_mem hx.symm hfree
  · cases lines with
    | nil => exact fun _ hmem => absurd hmem List.not_mem_nil
    | cons next lines =>
      obtain ⟨hlast, hended⟩ := List.forall_mem_cons.1 hended
      refine List.forall_mem_cons.2 ⟨?_, hended⟩
      rw [List.getLast?_cons, hlast]
      rfl

theorem lines_areLines (stream : List α) : AreLines stop (lines stop stream) stream := by
  induction stream with
  | nil => exact ⟨rfl, fun _ h => absurd h List.not_mem_nil, fun _ h => absurd h List.not_mem_nil⟩
  | cons x stream ih =>
    by_cases hx : x = stop
    · subst hx
      rw [lines_stop]
      exact ih.cons
    · rw [lines, if_neg hx]
      cases hlines : lines stop stream with
      | nil =>
        rw [hlines] at ih
        rw [← ih.flatten]
        exact ⟨rfl, by simp, fun _ h => absurd h List.not_mem_nil⟩
      | cons line lines =>
        rw [hlines] at ih
        exact ih.extend stop hx

/-- What stands before a tail of one kind is determined by the list. -/
theorem last_without {β : Type} {p : β → Bool} {before others after rest : List β} {x y : β}
    (heq : before ++ x :: after = others ++ y :: rest) (hx : p x = false) (hy : p y = false)
    (hafter : ∀ z ∈ after, p z = true) (hrest : ∀ z ∈ rest, p z = true) : x = y := by
  have dropped {front back : List β} {z : β} (hz : p z = false) (hback : ∀ w ∈ back, p w = true) :
      (front ++ z :: back).reverse.dropWhile p = z :: front.reverse := by
    rw [List.reverse_append, List.reverse_cons, List.append_assoc, List.dropWhile_append_of_pos (by simpa using hback)]
    exact List.dropWhile_cons_of_neg (by rw [hz]; exact Bool.false_ne_true)
  have hreverse := congrArg (fun list => list.reverse.dropWhile p) heq
  simp only [dropped hx hafter, dropped hy hrest] at hreverse
  exact (List.cons.inj hreverse).1

end Lib.Lines
