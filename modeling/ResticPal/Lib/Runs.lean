import Mathlib.Data.List.Induction
/-!
# Runs of a labelled system

A system is a partial function `step`: what a state becomes when the step
labelled `l` is taken, or `none` when that step cannot be taken there. A `Run`
is a sequence of steps that each also meet `ok`, the assumption under which a
property is claimed; `fun _ _ => True` is no assumption.
-/

namespace Lib

variable {S L : Type}

/-- Runs from `s`: the labels taken, each allowed by `ok`, and the state reached. -/
inductive Run (step : S → L → Option S) (ok : S → L → Prop) (s : S) : List L → S → Prop
  | nil : Run step ok s [] s
  | snoc {ls : List L} {l : L} {t u : S} :
      Run step ok s ls t → ok t l → step t l = some u → Run step ok s (ls ++ [l]) u

variable {step : S → L → Option S} {ok : S → L → Prop}

/-- What the start has and every allowed step keeps, holds after every run. -/
theorem Run.inv (I : S → Prop) (hs : ∀ t l u, I t → ok t l → step t l = some u → I u)
    {s : S} (h0 : I s) {ls : List L} {t : S} (h : Run step ok s ls t) : I t := by
  induction h with
  | nil => exact h0
  | snoc _ ho ht ih => exact hs _ _ _ ih ho ht

/-- The same for a property of the labels taken and the state reached. -/
theorem Run.inv_labels (I : List L → S → Prop)
    (hs : ∀ ls t l u, I ls t → ok t l → step t l = some u → I (ls ++ [l]) u)
    {s : S} (h0 : I [] s) {ls : List L} {t : S} (h : Run step ok s ls t) : I ls t := by
  induction h with
  | nil => exact h0
  | snoc _ ho ht ih => exact hs _ _ _ _ ih ho ht

/-- A value that a step sets or leaves alone is after a run the one set last. -/
theorem Run.last_set {α : Type} (get : S → α) (sets : L → Option α)
    (hs : ∀ t l u, ok t l → step t l = some u → get u = (sets l).getD (get t))
    {s : S} {ls : List L} {t : S} (h : Run step ok s ls t) :
    get t = (ls.filterMap sets).getLast?.getD (get s) := by
  induction h with
  | nil => rfl
  | snoc _ ho ht ih =>
    rw [hs _ _ _ ho ht, List.filterMap_append, List.filterMap_cons, List.filterMap_nil]
    cases hset : sets _ with
    | none => simpa using ih
    | some value => simp

/-- A run under one assumption is a run under a weaker one. -/
theorem Run.mono {ok' : S → L → Prop} (hok : ∀ t l, ok t l → ok' t l) {s : S} {ls : List L} {t : S}
    (h : Run step ok s ls t) : Run step ok' s ls t := by
  induction h with
  | nil => exact .nil
  | snoc _ ho ht ih => exact .snoc ih (hok _ _ ho) ht

/-- A run can begin with one more step. -/
theorem Run.cons {s t u : S} {l : L} {ls : List L} (ho : ok s l) (hs : step s l = some t) (h : Run step ok t ls u) :
    Run step ok s (l :: ls) u := by
  induction h with
  | nil => exact .snoc .nil ho hs
  | snoc _ ho' hs' ih => exact .snoc ih ho' hs'

theorem Run.eq_of_nil {s t : S} (h : Run step ok s [] t) : t = s := by
  generalize hnone : ([] : List L) = none at h
  cases h with
  | nil => rfl
  | snoc => simp at hnone

/-- The first step of a run. -/
theorem Run.uncons {s u : S} {l : L} {ls : List L} (h : Run step ok s (l :: ls) u) :
    ∃ t, ok s l ∧ step s l = some t ∧ Run step ok t ls u := by
  generalize hall : l :: ls = all at h
  induction h generalizing ls with
  | nil => cases hall
  | @snoc before last t u hbefore ho hs ih =>
    cases before with
    | nil =>
      cases hall
      obtain rfl := hbefore.eq_of_nil
      exact ⟨u, ho, hs, .nil⟩
    | cons first before =>
      cases hall
      obtain ⟨m, hfirst, hm, hrest⟩ := ih rfl
      exact ⟨m, hfirst, hm, .snoc hrest ho hs⟩

/-- Take the steps of a list in order, while each meets `ok`. -/
def runList (step : S → L → Option S) (ok : S → L → Prop) [∀ s l, Decidable (ok s l)] (s : S) : List L → Option S
  | [] => some s
  | l :: ls => if ok s l then (step s l).bind (fun t => runList step ok t ls) else none

variable [∀ s l, Decidable (ok s l)]

/-- The steps of a list that can all be taken are a run. -/
theorem Run.of_runList {s t : S} {ls : List L} (h : runList step ok s ls = some t) : Run step ok s ls t := by
  induction ls generalizing s with
  | nil =>
    cases h
    exact .nil
  | cons l ls ih =>
    simp only [runList] at h
    split at h
    · rename_i ho
      obtain ⟨u, hu, h⟩ := Option.bind_eq_some_iff.1 h
      exact .cons ho hu (ih h)
    · cases h

/-- The state a list of steps leads to. -/
theorem Run.of_isSome {s : S} {ls : List L} (h : (runList step ok s ls).isSome) :
    Run step ok s ls ((runList step ok s ls).get h) :=
  .of_runList (Option.some_get h).symm

end Lib
