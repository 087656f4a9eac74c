import Mathlib.Data.Finset.Card
/-!
# Collecting a bounded number of distinct items

A tally keeps the items it is told of, each once, while there is room and they are
acceptable; of the others it only keeps how many there were. Some are reported without
a name. `Accounts` says what such a tally still tells about the reports: the distinct
items are at most those kept and those counted, and these are at most the reports.
-/

namespace Lib

structure Tally (α : Type) where
  items : List α := []
  omitted : Nat := 0

/-- What a tally can be told. -/
inductive Report (α : Type) where
  | named (item : α)
  | unnamed
  deriving DecidableEq

def Report.item? {α : Type} : Report α → Option α
  | .named item => some item
  | .unnamed => none

namespace Tally

variable {α : Type} [DecidableEq α]

section Operations

variable (acceptable : α → Bool) (capacity : Nat)

def push (tally : Tally α) (item : α) : Tally α :=
  if item ∈ tally.items then tally
  else if acceptable item = true ∧ tally.items.length < capacity then { tally with items := tally.items ++ [item] }
  else { tally with omitted := tally.omitted + 1 }

def record (tally : Tally α) : Report α → Tally α
  | .named item => tally.push acceptable capacity item
  | .unnamed => { tally with omitted := tally.omitted + 1 }

def merge (tally other : Tally α) : Tally α :=
  let pushed := other.items.foldl (push acceptable capacity) tally
  { pushed with omitted := pushed.omitted + other.omitted }

/-- Items that a tally may hold. -/
structure Bounded (items : List α) : Prop where
  acceptable : ∀ item ∈ items, acceptable item = true
  nodup : items.Nodup
  length : items.length ≤ capacity

end Operations

variable {acceptable : α → Bool} {capacity : Nat}

omit [DecidableEq α] in
theorem bounded_nil : Bounded acceptable capacity [] :=
  ⟨fun _ h => absurd h List.not_mem_nil, List.nodup_nil, Nat.zero_le _⟩

namespace Bounded

variable {tally : Tally α}

theorem push (h : Bounded acceptable capacity tally.items) (item : α) :
    Bounded acceptable capacity (tally.push acceptable capacity item).items := by
  unfold Tally.push
  split
  · exact h
  · rename_i hnew
    split
    · rename_i hkept
      refine ⟨?_, ?_, ?_⟩
      · intro other hother
        rcases List.mem_append.1 hother with hother | hother
        · exact h.acceptable other hother
        · rw [List.mem_singleton.1 hother]
          exact hkept.1
      · exact List.nodup_append.2 ⟨h.nodup, List.nodup_singleton _, fun other hother item hitem heq =>
          hnew (List.mem_singleton.1 hitem ▸ heq ▸ hother)⟩
      · rw [List.length_append]
        exact hkept.2
    · exact h

theorem foldl_push (h : Bounded acceptable capacity tally.items) (items : List α) :
    Bounded acceptable capacity (items.foldl (Tally.push acceptable capacity) tally).items := by
  induction items generalizing tally with
  | nil => exact h
  | cons item items ih => exact ih (h.push item)

theorem record (h : Bounded acceptable capacity tally.items) (reports : List (Report α)) :
    Bounded acceptable capacity (reports.foldl (Tally.record acceptable capacity) tally).items := by
  induction reports generalizing tally with
  | nil => exact h
  | cons report reports ih =>
    cases report with
    | named item => exact ih (h.push item)
    | unnamed => exact ih h

/-- Items that may be held are held. -/
theorem foldl_push_eq {items : List α} (h : Bounded acceptable capacity (tally.items ++ items)) :
    items.foldl (Tally.push acceptable capacity) tally = { tally with items := tally.items ++ items } := by
  induction items generalizing tally with
  | nil => rw [List.foldl_nil, List.append_nil]
  | cons item items ih =>
    have hnew : item ∉ tally.items := fun hmem =>
      (List.nodup_append.1 h.nodup).2.2 item hmem item List.mem_cons_self rfl
    have hlength := h.length
    rw [List.length_append, List.length_cons] at hlength
    have hkept : acceptable item = true ∧ tally.items.length < capacity :=
      ⟨h.acceptable item (List.mem_append_right _ List.mem_cons_self), by omega⟩
    rw [List.append_cons] at h ⊢
    rw [List.foldl_cons, Tally.push, if_neg hnew, if_pos hkept, ih h]

end Bounded

/-! ## What the counts say -/

/-- The items are among those reported; those reported are at most the items and the
omissions, which are at most the reports. -/
structure Accounts (tally : Tally α) (reported : Finset α) (reports : Nat) : Prop where
  items : ∀ item ∈ tally.items, item ∈ reported
  reported : reported.card ≤ tally.items.length + tally.omitted
  reports : tally.items.length + tally.omitted ≤ reports

namespace Accounts

variable {tally other : Tally α} {reported others : Finset α} {reports more : Nat}

theorem push (h : Accounts tally reported reports) (acceptable : α → Bool) (capacity : Nat) (item : α) :
    Accounts (tally.push acceptable capacity item) (insert item reported) (reports + 1) := by
  obtain ⟨hitems, hreported, hreports⟩ := h
  have hinsert := Finset.card_insert_le item reported
  unfold Tally.push
  split
  · rename_i hmem
    rw [Finset.insert_eq_of_mem (hitems item hmem)]
    exact ⟨hitems, hreported, Nat.le_succ_of_le hreports⟩
  · split
    · refine ⟨?_, ?_, ?_⟩
      · intro kept hkept
        rcases List.mem_append.1 hkept with hkept | hkept
        · exact Finset.mem_insert_of_mem (hitems kept hkept)
        · rw [List.mem_singleton.1 hkept]
          exact Finset.mem_insert_self _ _
      · rw [List.length_append, List.length_singleton]
        dsimp only
        omega
      · rw [List.length_append, List.length_singleton]
        dsimp only
        omega
    · exact ⟨fun kept hkept => Finset.mem_insert_of_mem (hitems kept hkept), by dsimp only; omega, by dsimp only; omega⟩

theorem foldl_push (h : Accounts tally reported reports) (acceptable : α → Bool) (capacity : Nat) (items : List α) :
    Accounts (items.foldl (Tally.push acceptable capacity) tally) (reported ∪ items.toFinset) (reports + items.length) := by
  induction items generalizing tally reported reports with
  | nil => simpa using h
  | cons item items ih =>
    have hrest := ih (h.push acceptable capacity item)
    rw [List.toFinset_cons, Finset.union_insert, ← Finset.insert_union, List.length_cons, Nat.add_comm items.length,
      ← Nat.add_assoc]
    exact hrest

theorem record (h : Accounts tally reported reports) (acceptable : α → Bool) (capacity : Nat) (told : List (Report α)) :
    Accounts (told.foldl (Tally.record acceptable capacity) tally) (reported ∪ (told.filterMap Report.item?).toFinset)
      (reports + told.length) := by
  induction told generalizing tally reported reports with
  | nil => simpa using h
  | cons report told ih =>
    rw [List.foldl_cons, List.length_cons, Nat.add_comm told.length, ← Nat.add_assoc]
    cases report with
    | named item =>
      rw [List.filterMap_cons_some (by rfl), List.toFinset_cons, Finset.union_insert, ← Finset.insert_union]
      exact ih (h.push acceptable capacity item)
    | unnamed =>
      rw [List.filterMap_cons_none (by rfl)]
      refine ih ⟨h.items, Nat.le_succ_of_le h.reported, ?_⟩
      exact Nat.succ_le_succ h.reports

/-- Two tallies of different reports, merged. An item that the other one only counted is
still counted. -/
theorem merge (h : Accounts tally reported reports) (hother : Accounts other others more) (hnodup : other.items.Nodup)
    (acceptable : α → Bool) (capacity : Nat) :
    Accounts (tally.merge acceptable capacity other) (reported ∪ others) (reports + more) := by
  obtain ⟨hitems, hreported, hreports⟩ := h.foldl_push acceptable capacity other.items
  have hkept : other.items.toFinset ⊆ others := fun item hitem => hother.items item (List.mem_toFinset.1 hitem)
  have hsdiff : (others \ other.items.toFinset).card + other.items.length = others.card := by
    rw [← List.toFinset_card_of_nodup hnodup]
    exact Finset.card_sdiff_add_card_eq_card hkept
  have hunion : reported ∪ others = (reported ∪ other.items.toFinset) ∪ (others \ other.items.toFinset) := by
    rw [Finset.union_assoc, Finset.union_sdiff_of_subset hkept]
  have hcard := Finset.card_union_le (reported ∪ other.items.toFinset) (others \ other.items.toFinset)
  have hless := hother.reported
  have hmore := hother.reports
  rw [hunion]
  refine ⟨fun item hitem => Finset.mem_union_left _ (hitems item hitem), ?_, ?_⟩
  · dsimp only [Tally.merge]
    omega
  · dsimp only [Tally.merge]
    omega

end Accounts

end Tally

end Lib
