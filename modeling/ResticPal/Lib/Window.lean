import Mathlib.Data.List.Sort
/-!
# The last entries of a sequence

`number` gives the entries of a sequence the keys 1, 2, and so on, as a table does
that never gives out a key twice. `window k` are the last `k` of them. The lemmas on
sorting and filtering say how a table that sorts its rows and keeps the first `k`
comes to hold the window: when the row that leaves is the last in that order.
-/

namespace Lib.Window

variable {α β : Type}

/-- The last `k` entries. -/
def window (k : Nat) (l : List α) : List α := l.drop (l.length - k)

/-- The entries with their places, from 1 on. -/
def number (l : List α) : List (Int × α) := l.mapIdx (fun i a => ((i : Int) + 1, a))

theorem window_eq_self {k : Nat} {l : List α} (h : l.length ≤ k) : window k l = l := by
  rw [window, Nat.sub_eq_zero_of_le h, List.drop_zero]

theorem window_length (k : Nat) (l : List α) : (window k l).length = min k l.length := by
  rw [window, List.length_drop]
  omega

theorem window_snoc_eq {k : Nat} (hk : 0 < k) (l : List α) (a : α) :
    window k (l ++ [a]) = l.drop (l.length + 1 - k) ++ [a] := by
  have hle : l.length + 1 - k ≤ l.length := by omega
  rw [window, List.length_append, List.length_singleton, List.drop_append_of_le_length hle]

/-- A full window moves on by one entry. -/
theorem window_snoc {k : Nat} {l : List α} (h : k ≤ l.length) (hk : 0 < k) (a : α) :
    window k (l ++ [a]) = (window k l).tail ++ [a] := by
  have hlength : l.length + 1 - k = l.length - k + 1 := by omega
  rw [window_snoc_eq hk, hlength, window, List.tail_drop]

theorem mem_window_snoc {k : Nat} (hk : 0 < k) (l : List α) (a : α) : a ∈ window k (l ++ [a]) := by
  rw [window_snoc_eq hk]
  exact List.mem_append_right _ List.mem_cons_self

theorem number_length (l : List α) : (number l).length = l.length := List.length_mapIdx

theorem number_snoc (l : List α) (a : α) : number (l ++ [a]) = number l ++ [((l.length : Int) + 1, a)] := by
  simp [number, List.mapIdx_append]

theorem mem_number {l : List α} {e : Int × α} (h : e ∈ number l) : 1 ≤ e.1 ∧ e.1 ≤ l.length := by
  obtain ⟨i, hi, rfl⟩ := List.mem_mapIdx.1 h
  constructor
  · dsimp only
    omega
  · dsimp only
    omega

theorem mem_of_mem_number {l : List α} {e : Int × α} (h : e ∈ number l) : e.2 ∈ l := by
  obtain ⟨i, hi, rfl⟩ := List.mem_mapIdx.1 h
  exact List.getElem_mem hi

theorem mem_of_mem_window {k : Nat} {l : List α} {a : α} (h : a ∈ window k l) : a ∈ l := List.mem_of_mem_drop h

/-! ## Sorting -/

section Sorting

variable (r : α → α → Prop) [DecidableRel r]

theorem orderedInsert_last {a : α} {l : List α} (h : ∀ b ∈ l, ¬ r a b) : l.orderedInsert r a = l ++ [a] := by
  induction l with
  | nil => rfl
  | cons b l ih =>
    rw [List.orderedInsert_of_not_le _ l (h b List.mem_cons_self), ih fun c hc => h c (List.mem_cons_of_mem _ hc)]
    rfl

/-- An entry that no other one follows is the last one. -/
theorem take_insertionSort_cons {a : α} {l : List α} (h : ∀ b ∈ l, ¬ r a b) :
    ((a :: l).insertionSort r).take l.length = l.insertionSort r := by
  have hsorted : (a :: l).insertionSort r = l.insertionSort r ++ [a] := by
    rw [List.insertionSort_cons]
    exact orderedInsert_last r fun b hb => h b ((List.mem_insertionSort r).1 hb)
  rw [hsorted, List.take_left' (List.length_insertionSort r l)]

theorem orderedInsert_append_singleton {a b : α} (h : r b a) (l : List α) :
    (l ++ [a]).orderedInsert r b = l.orderedInsert r b ++ [a] := by
  induction l with
  | nil => exact List.orderedInsert_cons_of_le r [] h
  | cons c l ih =>
    rw [List.cons_append]
    by_cases hc : r b c
    · rw [List.orderedInsert_cons_of_le r _ hc, List.orderedInsert_cons_of_le r _ hc]
      rfl
    · rw [List.orderedInsert_of_not_le r _ hc, List.orderedInsert_of_not_le r _ hc, ih]
      rfl

/-- A new entry that follows all others. -/
theorem take_insertionSort_snoc {a : α} {l : List α} (h : ∀ b ∈ l, r b a) :
    ((l ++ [a]).insertionSort r).take l.length = l.insertionSort r := by
  have hsorted (l : List α) (h : ∀ b ∈ l, r b a) : (l ++ [a]).insertionSort r = l.insertionSort r ++ [a] := by
    induction l with
    | nil => rfl
    | cons b l ih =>
      rw [List.cons_append, List.insertionSort_cons, ih fun c hc => h c (List.mem_cons_of_mem _ hc),
        orderedInsert_append_singleton r (h b List.mem_cons_self), List.insertionSort_cons]
  rw [hsorted l h, List.take_left' (List.length_insertionSort r l)]

theorem take_insertionSort_of_le {k : Nat} {l : List α} (h : l.length ≤ k) :
    (l.insertionSort r).take k = l.insertionSort r :=
  List.take_of_length_le (by rw [List.length_insertionSort]; exact h)

/-- An entry of a sorted list is among the first `k` when fewer come before it. -/
theorem mem_take_sorted {k : Nat} {l : List α} {a : α} (hsorted : l.Pairwise (fun b c => r b c ∧ ¬ r c b)) (ha : r a a)
    (hmem : a ∈ l) : a ∈ l.take k ↔ l.countP (fun b => ¬ r a b) < k := by
  obtain ⟨front, back, rfl⟩ := List.append_of_mem hmem
  obtain ⟨-, hback, hfront⟩ := List.pairwise_append.1 hsorted
  have hbefore : ∀ b ∈ front, ¬ r a b := fun b hb => (hfront b hb a List.mem_cons_self).2
  have hafter : ∀ b ∈ a :: back, r a b :=
    List.forall_mem_cons.2 ⟨ha, fun b hb => ((List.pairwise_cons.1 hback).1 b hb).1⟩
  have hcount : (front ++ a :: back).countP (fun b => ¬ r a b) = front.length := by
    rw [List.countP_append, List.countP_eq_length.2 (by simpa using hbefore), List.countP_eq_zero.2 (by simpa using hafter),
      Nat.add_zero]
  rw [hcount]
  constructor
  · intro htake
    by_contra hle
    rw [List.take_append_of_le_length (Nat.not_lt.1 hle)] at htake
    exact hbefore a (List.mem_of_mem_take htake) ha
  · intro hlt
    rw [List.take_append, List.take_of_length_le (Nat.le_of_lt hlt)]
    obtain ⟨n, hn⟩ := Nat.exists_eq_add_of_lt hlt
    rw [show k - front.length = n + 1 by omega, List.take_succ_cons]
    exact List.mem_append_right _ List.mem_cons_self

theorem mem_take_insertionSort [Std.Total r] [IsTrans α r] {k : Nat} {l : List α} {a : α}
    (hne : l.Pairwise (fun b c => ¬ (r b c ∧ r c b))) (hmem : a ∈ l) :
    a ∈ (l.insertionSort r).take k ↔ l.countP (fun b => ¬ r a b) < k := by
  have hperm := List.perm_insertionSort r l
  have hsorted : (l.insertionSort r).Pairwise (fun b c => r b c ∧ ¬ r c b) := by
    have hpairs := (hperm.pairwise_iff (fun h hboth => h hboth.symm)).2 hne
    refine ((List.pairwise_insertionSort r l).and hpairs).imp ?_
    rintro b c ⟨hle, hne⟩
    exact ⟨hle, fun hge => hne ⟨hle, hge⟩⟩
  have ha : r a a := (Std.Total.total a a).elim id id
  rw [mem_take_sorted r hsorted ha (hperm.mem_iff.2 hmem), hperm.countP_eq]

end Sorting

/-! ## Rows of another table -/

section Rows

variable {κ γ : Type} (rows : κ × α → List γ)

/-- The rows of one entry, among those of all. -/
theorem filter_flatMap_eq [DecidableEq κ] (key : γ → κ) {l : List (κ × α)} (hrows : ∀ e, ∀ row ∈ rows e, key row = e.1)
    (hne : l.Pairwise (fun a b => a.1 ≠ b.1)) {e : κ × α} (he : e ∈ l) :
    (l.flatMap rows).filter (fun row => key row = e.1) = rows e := by
  induction l with
  | nil => cases he
  | cons a l ih =>
    obtain ⟨ha, hl⟩ := List.pairwise_cons.1 hne
    have hnone {b : κ × α} (hb : b.1 ≠ e.1) : (rows b).filter (fun row => key row = e.1) = [] := by
      rw [List.filter_eq_nil_iff]
      intro row hrow
      rw [hrows b row hrow]
      simpa using hb
    rw [List.flatMap_cons, List.filter_append]
    rcases List.mem_cons.1 he with rfl | he
    · have hrest : (l.flatMap rows).filter (fun row => key row = e.1) = [] := by
        rw [List.filter_eq_nil_iff]
        intro row hrow
        obtain ⟨b, hb, hrow⟩ := List.mem_flatMap.1 hrow
        rw [hrows b row hrow]
        simpa using (ha b hb).symm
      rw [hrest, List.append_nil, List.filter_eq_self]
      intro row hrow
      simpa using hrows e row hrow
    · rw [hnone (ha e he), ih hl he]
      rfl

/-- A filter that separates the rows of the last entries from those of the first. -/
theorem filter_flatMap_append {p : γ → Bool} {dropped keep : List (κ × α)}
    (hdropped : ∀ e ∈ dropped, ∀ row ∈ rows e, p row = false) (hkeep : ∀ e ∈ keep, ∀ row ∈ rows e, p row = true) :
    ((dropped ++ keep).flatMap rows).filter p = keep.flatMap rows := by
  rw [List.flatMap_append, List.filter_append, List.filter_eq_nil_iff.2, List.filter_eq_self.2, List.nil_append]
  · intro row hrow
    obtain ⟨e, he, hrow⟩ := List.mem_flatMap.1 hrow
    exact hkeep e he row hrow
  · intro row hrow
    obtain ⟨e, he, hrow⟩ := List.mem_flatMap.1 hrow
    exact Bool.eq_false_iff.1 (hdropped e he row hrow)

end Rows

end Lib.Window
