import Mathlib.Data.List.Basic
import Mathlib.Logic.Function.Basic
/-!
# Rotating numbered places

Each place holds something or nothing; what is in a lower place is newer. To make room
in place 0, the contents move up by one, from the last place down, and a move can be
refused, which ends the rotation. `listed` is what the places hold, oldest first:
`shift_listed` says that it stays the same at every point of a rotation, gaps or not.
-/

namespace Lib.Rotation

variable {α : Type}

abbrev Slots (α : Type) := Nat → Option α

/-- The contents of the places `n`, …, 0. -/
def listed (slots : Slots α) : Nat → List α
  | 0 => (slots 0).toList
  | n + 1 => (slots (n + 1)).toList ++ listed slots n

def clear (slots : Slots α) (i : Nat) : Slots α := Function.update slots i none

/-- Move the contents of a place up by one, if there are any. -/
def moveUp (slots : Slots α) (i : Nat) : Slots α := match slots i with
  | none => slots
  | some content => clear (Function.update slots (i + 1) (some content)) i

/-- Move the contents of the places `n - 1`, …, 0 up, until a move is refused. -/
def shift (moves : Nat → Bool) : Nat → Slots α → Slots α × Bool
  | 0, slots => (slots, true)
  | n + 1, slots => if moves n then shift moves n (moveUp slots n) else (slots, false)

theorem listed_congr {slots slots' : Slots α} {n : Nat} (h : ∀ i ≤ n, slots i = slots' i) :
    listed slots n = listed slots' n := by
  induction n with
  | zero => rw [listed, listed, h 0 (Nat.le_refl 0)]
  | succ n ih => rw [listed, listed, h (n + 1) (Nat.le_refl _), ih fun i hi => h i (Nat.le_succ_of_le hi)]

theorem mem_listed {slots : Slots α} {n : Nat} {content : α} :
    content ∈ listed slots n ↔ ∃ i ≤ n, slots i = some content := by
  induction n with
  | zero =>
    rw [listed, Option.mem_toList]
    exact ⟨fun h => ⟨0, Nat.le_refl 0, h⟩, fun ⟨_, hi, h⟩ => Nat.le_zero.1 hi ▸ h⟩
  | succ n ih =>
    rw [listed, List.mem_append, Option.mem_toList, ih]
    constructor
    · rintro (h | ⟨i, hi, h⟩)
      · exact ⟨n + 1, Nat.le_refl _, h⟩
      · exact ⟨i, Nat.le_succ_of_le hi, h⟩
    · rintro ⟨i, hi, h⟩
      rcases Nat.lt_or_eq_of_le hi with hlt | rfl
      · exact .inr ⟨i, Nat.le_of_lt_succ hlt, h⟩
      · exact .inl h

theorem clear_self (slots : Slots α) (i : Nat) : clear slots i i = none := Function.update_self _ _ _

/-- Without its last place, a list loses what that held. -/
theorem listed_clear (slots : Slots α) (n : Nat) : listed (clear slots (n + 1)) (n + 1) = listed slots n := by
  rw [listed, clear_self, Option.toList_none, List.nil_append]
  refine listed_congr fun i hi => Function.update_of_ne ?_ _ _
  omega

/-- What place 0 holds is listed last. -/
theorem listed_update_zero (slots : Slots α) (content : Option α) (n : Nat) :
    listed (Function.update slots 0 content) n = listed (clear slots 0) n ++ content.toList := by
  induction n with
  | zero => rw [listed, listed, clear, Function.update_self, Function.update_self, Option.toList_none, List.nil_append]
  | succ n ih =>
    rw [listed, listed, ih, clear, Function.update_of_ne (Nat.succ_ne_zero n), Function.update_of_ne (Nat.succ_ne_zero n),
      List.append_assoc]

theorem listed_eq_append (slots : Slots α) (n : Nat) :
    listed slots n = listed (clear slots 0) n ++ (slots 0).toList := by
  rw [← listed_update_zero, Function.update_eq_self]

theorem moveUp_none {slots : Slots α} {i : Nat} (h : slots i = none) : moveUp slots i = slots := by
  rw [moveUp, h]

theorem moveUp_some {slots : Slots α} {i : Nat} {content : α} (h : slots i = some content) :
    moveUp slots i = clear (Function.update slots (i + 1) (some content)) i := by
  rw [moveUp, h]

theorem moveUp_self (slots : Slots α) (i : Nat) : moveUp slots i i = none := by
  cases hi : slots i with
  | none => rw [moveUp_none hi, hi]
  | some content => rw [moveUp_some hi, clear_self]

theorem moveUp_of_ne (slots : Slots α) {i j : Nat} (h : j ≠ i) (h' : j ≠ i + 1) : moveUp slots i j = slots j := by
  cases hi : slots i with
  | none => rw [moveUp_none hi]
  | some content => rw [moveUp_some hi, clear, Function.update_of_ne h, Function.update_of_ne h']

theorem moveUp_succ {slots : Slots α} {i : Nat} (h : slots (i + 1) = none) : moveUp slots i (i + 1) = slots i := by
  cases hi : slots i with
  | none => rw [moveUp_none hi, h]
  | some content => rw [moveUp_some hi, clear, Function.update_of_ne (Nat.succ_ne_self i), Function.update_self]

/-- A move into an empty place changes no order. -/
theorem listed_moveUp {slots : Slots α} {i n : Nat} (h : slots (i + 1) = none) (hi : i + 1 ≤ n) :
    listed (moveUp slots i) n = listed slots n := by
  induction n with
  | zero => exact absurd hi (Nat.not_succ_le_zero i)
  | succ n ih =>
    rcases Nat.lt_or_eq_of_le hi with hlt | heq
    · rw [listed, listed, ih (Nat.le_of_lt_succ hlt), moveUp_of_ne slots (by omega) (by omega)]
    · obtain rfl : i = n := by omega
      have hbelow : ∀ j < i, moveUp slots i j = slots j := fun j hj => moveUp_of_ne slots (by omega) (by omega)
      rw [listed, listed, moveUp_succ h, h, Option.toList_none, List.nil_append]
      cases i with
      | zero => rw [listed, listed, moveUp_self, Option.toList_none, List.append_nil]
      | succ i =>
        rw [listed, listed, moveUp_self, Option.toList_none, List.nil_append,
          listed_congr fun j hj => hbelow j (Nat.lt_succ_of_le hj)]

/-- A rotation, complete or not, keeps the contents in their order. -/
theorem shift_listed (moves : Nat → Bool) {slots : Slots α} {n k : Nat} (hn : n ≤ k) (h : slots n = none) :
    listed (shift moves n slots).1 k = listed slots k := by
  induction n generalizing slots with
  | zero => rfl
  | succ n ih =>
    rw [shift]
    split
    · rw [ih (Nat.le_of_succ_le hn) (moveUp_self slots n), listed_moveUp h hn]
    · rfl

/-- A complete rotation leaves place 0 empty. -/
theorem shift_zero {moves : Nat → Bool} {slots : Slots α} {n : Nat} (h : slots n = none)
    (hdone : (shift moves n slots).2 = true) : (shift moves n slots).1 0 = none := by
  induction n generalizing slots with
  | zero => exact h
  | succ n ih =>
    rw [shift] at hdone ⊢
    split at hdone
    next hmove =>
      rw [if_pos hmove]
      exact ih (moveUp_self slots n) hdone
    next => cases hdone

/-- A rotation does not touch the places above. -/
theorem shift_above (moves : Nat → Bool) (slots : Slots α) {n i : Nat} (h : n < i) :
    (shift moves n slots).1 i = slots i := by
  induction n generalizing slots with
  | zero => rfl
  | succ n ih =>
    rw [shift]
    split
    · rw [ih (moveUp slots n) (Nat.lt_of_succ_lt h), moveUp_of_ne slots (by omega) (by omega)]
    · rfl

end Lib.Rotation
