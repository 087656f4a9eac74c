import Mathlib.Data.List.Basic
/-!
# Walking a path

A path below a root is a list of moves: stay, go up, go down into a name. `walk`
follows them and stays where it is when it should go up from the root;
`walkBelow` gives up there instead. The two agree on the paths that never
`climb` above the root.
-/

namespace Lib

inductive PathMove (α : Type) where
  | stay
  | up
  | down (name : α)

section Walk

variable {α : Type}

/-- The names below the root that the moves lead to from `names`. -/
def walk : List α → List (PathMove α) → List α
  | names, [] => names
  | names, .stay :: moves => walk names moves
  | names, .up :: moves => walk names.dropLast moves
  | names, .down name :: moves => walk (names ++ [name]) moves

/-- The same walk, for as long as it does not go up from the root. -/
def walkBelow : List α → List (PathMove α) → Option (List α)
  | names, [] => some names
  | names, .stay :: moves => walkBelow names moves
  | names, .up :: moves => if names = [] then none else walkBelow names.dropLast moves
  | names, .down name :: moves => walkBelow (names ++ [name]) moves

/-- Some move goes up from the root, for a walk that starts `depth` names below it. -/
def climbs : Nat → List (PathMove α) → Bool
  | _, [] => false
  | depth, .stay :: moves => climbs depth moves
  | depth, .up :: moves => depth == 0 || climbs (depth - 1) moves
  | depth, .down _ :: moves => climbs (depth + 1) moves

theorem walkBelow_eq_some {names reached : List α} {moves : List (PathMove α)} :
    walkBelow names moves = some reached ↔ climbs names.length moves = false ∧ walk names moves = reached := by
  induction moves generalizing names with
  | nil => simp [walkBelow, walk, climbs]
  | cons move moves ih =>
    cases move with
    | stay => exact ih
    | down name =>
      have h := @ih (names ++ [name])
      rw [List.length_append, List.length_singleton] at h
      exact h
    | up =>
      cases names with
      | nil => simp [walkBelow, climbs]
      | cons name names =>
        have h := @ih (name :: names).dropLast
        rw [List.length_dropLast] at h
        simpa [walkBelow, walk, climbs] using h

theorem walkBelow_append (names : List α) (before after : List (PathMove α)) :
    walkBelow names (before ++ after) = (walkBelow names before).bind (walkBelow · after) := by
  induction before generalizing names with
  | nil => rfl
  | cons move moves ih =>
    cases move with
    | stay => exact ih names
    | down name => exact ih (names ++ [name])
    | up =>
      by_cases hroot : names = []
      · simp [walkBelow, hroot]
      · simpa [walkBelow, hroot] using ih names.dropLast

/-- Staying somewhere on the way leads to the same place. -/
theorem walkBelow_stay (names : List α) (before after : List (PathMove α)) :
    walkBelow names (before ++ .stay :: after) = walkBelow names (before ++ after) := by
  rw [walkBelow_append, walkBelow_append]
  rfl

/-- So does going into a name and out of it again. -/
theorem walkBelow_detour (names : List α) (before after : List (PathMove α)) (name : α) :
    walkBelow names (before ++ .down name :: .up :: after) = walkBelow names (before ++ after) := by
  have hreturn : ∀ reached : List α, walkBelow reached (.down name :: .up :: after) = walkBelow reached after := by
    intro reached
    simp [walkBelow]
  rw [walkBelow_append, walkBelow_append]
  simp only [hreturn]

end Walk

/-- A list that is no longer than another and agrees with it position by position begins it. -/
theorem isPrefix_iff_zip {α : Type} [BEq α] [LawfulBEq α] {xs ys : List α} :
    (decide (xs.length ≤ ys.length) && (ys.zip xs).all (fun p => p.1 == p.2)) = true ↔ xs <+: ys := by
  induction xs generalizing ys with
  | nil => simp
  | cons x xs ih =>
    cases ys with
    | nil => simp
    | cons y ys =>
      have h := @ih ys
      simp only [Bool.and_eq_true, decide_eq_true_eq] at h
      simp only [List.length_cons, Nat.add_le_add_iff_right, List.zip_cons_cons, List.all_cons, Bool.and_eq_true,
        decide_eq_true_eq, beq_iff_eq, List.cons_prefix_cons, ← h]
      constructor
      · rintro ⟨hl, rfl, ha⟩
        exact ⟨rfl, hl, ha⟩
      · rintro ⟨rfl, hl, ha⟩
        exact ⟨hl, rfl, ha⟩

end Lib
