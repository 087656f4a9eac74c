import Mathlib.Data.List.Basic
/-!
# Checks in sequence

A validator is a sequence of checks in `Except`, the first failure deciding
the error. These lemmas turn "the validator accepts" into the conjunction of
what each check accepts.
-/

namespace Lib

variable {α β ε : Type}

/-- Fail with `e` when `bad` holds. -/
def rejectIf (bad : Bool) (e : ε) : Except ε Unit := if bad then .error e else .ok ()

@[simp] theorem rejectIf_eq_ok {bad : Bool} {e : ε} {u : Unit} : rejectIf bad e = .ok u ↔ bad = false := by
  cases bad <;> simp [rejectIf]

theorem rejectIf_eq_error {bad : Bool} {e e' : ε} : rejectIf bad e = .error e' ↔ bad = true ∧ e' = e := by
  cases bad <;> simp [rejectIf, eq_comm]

@[simp] theorem bind_eq_ok {x : Except ε α} {f : α → Except ε β} {b : β} :
    (x >>= f) = .ok b ↔ ∃ a, x = .ok a ∧ f a = .ok b := by
  cases x with
  | error e => simp [bind, Except.bind]
  | ok a => simp [bind, Except.bind]

/-- A check before the rest. -/
theorem check_bind_eq_ok {x : Except ε Unit} {f : Unit → Except ε β} {b : β} :
    (x >>= f) = .ok b ↔ x = .ok () ∧ f () = .ok b := by
  rw [bind_eq_ok]
  exact ⟨fun ⟨_, hx, hf⟩ => ⟨hx, hf⟩, fun ⟨hx, hf⟩ => ⟨(), hx, hf⟩⟩

/-- Either may fail. -/
theorem bind_eq_error_iff {x : Except ε α} {f : α → Except ε β} {e : ε} :
    (x >>= f) = .error e ↔ x = .error e ∨ ∃ a, x = .ok a ∧ f a = .error e := by
  cases x with
  | error e' => simp [bind, Except.bind]
  | ok a => simp [bind, Except.bind]

@[simp] theorem pure_eq_ok {a b : α} : (pure a : Except ε α) = .ok b ↔ a = b := by simp [pure, Except.pure]

@[simp] theorem mapError_eq_ok {ε' : Type} {x : Except ε α} {f : ε → ε'} {a : α} :
    x.mapError f = .ok a ↔ x = .ok a := by
  cases x <;> simp [Except.mapError]

/-- A loop of checks accepts when every element is accepted. -/
@[simp] theorem forM_eq_ok {f : α → Except ε Unit} {xs : List α} {u : Unit} :
    forM xs f = .ok u ↔ ∀ x ∈ xs, f x = .ok ⟨⟩ := by
  induction xs with
  | nil => simp [pure, Except.pure]
  | cons x xs ih =>
    rw [List.forM_cons, bind_eq_ok]
    constructor
    · rintro ⟨⟨⟩, hx, hxs⟩
      exact List.forall_mem_cons.2 ⟨hx, ih.1 hxs⟩
    · intro h
      exact ⟨⟨⟩, (List.forall_mem_cons.1 h).1, ih.2 (List.forall_mem_cons.1 h).2⟩

end Lib
