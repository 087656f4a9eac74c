import Mathlib.Data.List.Basic
/-!
# Argument vectors

A command line is a list of words. Some words are flags that take the next word
as their value, whatever that word is; of the others, some are switches and the
rest are positional. `read` sorts a command line into the three, each in the
order of the words, and fails when a flag at the end has no value.

A part of a command line that does not end in the middle of a flag reads the
same before any rest (`Reads`), so a command line is read part by part.
-/

namespace Lib

namespace Arguments

variable {α : Type}

/-- The words of a command line by their part in it. -/
structure Sorted (α : Type) where
  values : List (α × α) := []
  switches : List α := []
  positional : List α := []

/-- One part before another. -/
def Sorted.append (first second : Sorted α) : Sorted α where
  values := first.values ++ second.values
  switches := first.switches ++ second.switches
  positional := first.positional ++ second.positional

variable (takes dashed : α → Bool)

/-- A word that is not a flag with a value. -/
def word (a : α) : Sorted α := if dashed a then { switches := [a] } else { positional := [a] }

def read : List α → Option (Sorted α)
  | [] => some {}
  | [a] => if takes a then none else some (word dashed a)
  | a :: b :: rest =>
    if takes a then (read rest).map (Sorted.append { values := [(a, b)] })
    else (read (b :: rest)).map (Sorted.append (word dashed a))

/-- These words read as `sorted`, whatever follows. -/
def Reads (words : List α) (sorted : Sorted α) : Prop :=
  ∀ rest, read takes dashed (words ++ rest) = (read takes dashed rest).map (Sorted.append sorted)

namespace Reads

variable {takes dashed}

theorem nil : Reads takes dashed [] {} := by
  intro rest
  cases h : read takes dashed rest with
  | none => simpa using h
  | some sorted => simpa [Sorted.append] using h

theorem value {flag value : α} (h : takes flag = true) : Reads takes dashed [flag, value] { values := [(flag, value)] } := by
  intro rest
  rw [List.cons_append, List.cons_append, List.nil_append, read, if_pos h]

theorem word {a : α} (h : takes a = false) : Reads takes dashed [a] (Arguments.word dashed a) := by
  intro rest
  cases rest with
  | nil =>
    unfold Arguments.word
    split <;> simp_all [read, Sorted.append, Arguments.word]
  | cons b rest => rw [List.cons_append, List.nil_append, read, if_neg (by simp [h])]

theorem append {first second : List α} {s t : Sorted α} (hs : Reads takes dashed first s)
    (ht : Reads takes dashed second t) : Reads takes dashed (first ++ second) (s.append t) := by
  intro rest
  rw [List.append_assoc, hs, ht, Option.map_map]
  congr 1
  funext sorted
  simp [Sorted.append]

/-- Flags with their values. -/
theorem values {β : Type} {flag value : β → α} {list : List β} (h : ∀ b ∈ list, takes (flag b) = true) :
    Reads takes dashed (list.flatMap fun b => [flag b, value b]) { values := list.map fun b => (flag b, value b) } := by
  induction list with
  | nil => exact nil
  | cons b list ih =>
    exact (Reads.value (h b List.mem_cons_self)).append (ih fun c hc => h c (List.mem_cons_of_mem _ hc))

/-- Switches and positional words. -/
theorem words {list : List α} (h : ∀ a ∈ list, takes a = false) :
    Reads takes dashed list { switches := list.filter dashed, positional := list.filter (fun a => !dashed a) } := by
  induction list with
  | nil => exact nil
  | cons a list ih =>
    have hrest := (word (h a List.mem_cons_self)).append (ih fun b hb => h b (List.mem_cons_of_mem _ hb))
    unfold Arguments.word at hrest
    cases hd : dashed a <;> simpa [hd, Sorted.append] using hrest

/-- A whole command line. -/
theorem read_eq {list : List α} {sorted : Sorted α} (h : Reads takes dashed list sorted) :
    read takes dashed list = some sorted := by
  have := h []
  rw [List.append_nil] at this
  rw [this]
  simp [read, Sorted.append]

end Reads

/-- The values of one flag, in order. -/
def Sorted.valuesOf [DecidableEq α] (sorted : Sorted α) (flag : α) : List α :=
  sorted.values.filterMap (fun p => if p.1 = flag then some p.2 else none)

end Arguments

end Lib
