import Mathlib.Data.List.Basic
/-!
# Journals

The durable writes of an operation, in the order it makes them. A crash cuts the
journal after any number of writes. `Safe` says that a property of the disk
survives every cut.
-/

namespace Lib

variable {D W : Type}

/-- The disk after the writes of a journal. -/
def replay (write : D → W → D) (disk : D) (journal : List W) : D := journal.foldl write disk

/-- `I` holds before the first write of the journal, and after each. -/
inductive Safe (write : D → W → D) (I : D → Prop) : D → List W → Prop
  | nil {disk : D} (holds : I disk) : Safe write I disk []
  | cons {disk : D} {w : W} {journal : List W} (holds : I disk) (rest : Safe write I (write disk w) journal) :
      Safe write I disk (w :: journal)

namespace Safe

variable {write : D → W → D} {I : D → Prop} {disk : D} {journal : List W}

/-- A crash leaves a disk with the property, wherever it cuts the journal. -/
theorem take (h : Safe write I disk journal) (k : Nat) : I (replay write disk (journal.take k)) := by
  induction h generalizing k with
  | nil holds =>
    rw [List.take_nil]
    exact holds
  | cons holds _ ih =>
    cases k with
    | zero => exact holds
    | succ k => exact ih k

/-- Nor does the whole journal break the property. -/
theorem whole (h : Safe write I disk journal) : I (replay write disk journal) := by
  have := h.take journal.length
  rwa [List.take_length] at this

/-- A journal is safe when its first part is and the rest is safe from there. -/
theorem append {rest : List W} (h : Safe write I disk journal) (hrest : Safe write I (replay write disk journal) rest) :
    Safe write I disk (journal ++ rest) := by
  induction h with
  | nil _ => exact hrest
  | cons holds _ ih => exact .cons holds (ih hrest)

/-- Writes that each keep the property are safe in any order. -/
theorem of_forall (h : I disk) (hw : ∀ w ∈ journal, ∀ disk, I disk → I (write disk w)) : Safe write I disk journal := by
  induction journal generalizing disk with
  | nil => exact .nil h
  | cons w journal ih =>
    exact .cons h (ih (hw w List.mem_cons_self disk h) fun v hv => hw v (List.mem_cons_of_mem _ hv))

end Safe

@[simp] theorem replay_nil (write : D → W → D) (disk : D) : replay write disk [] = disk := rfl

@[simp] theorem replay_cons (write : D → W → D) (disk : D) (w : W) (journal : List W) :
    replay write disk (w :: journal) = replay write (write disk w) journal := rfl

@[simp] theorem replay_append (write : D → W → D) (disk : D) (journal rest : List W) :
    replay write disk (journal ++ rest) = replay write (replay write disk journal) rest :=
  List.foldl_append

end Lib
