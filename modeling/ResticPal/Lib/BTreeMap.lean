import Mathlib.Data.List.Sort
import Mathlib.Order.Basic
/-!
# Ordered maps

A map held as its entries in increasing key order, so that two maps with the
same lookups are the same map. This is what an ordered tree map shows to its
callers: `get?`, `insert`, `erase` and iteration in key order.
-/

namespace Lib

/-- Entries in strictly increasing key order. -/
structure BTreeMap (κ ν : Type) [LinearOrder κ] where
  entries : List (κ × ν)
  sorted : entries.Pairwise (fun a b => a.1 < b.1)

namespace BTreeMap

variable {κ ν : Type} [LinearOrder κ]

instance [DecidableEq ν] : DecidableEq (BTreeMap κ ν) := fun m n =>
  decidable_of_iff (m.entries = n.entries) (by cases m; cases n; simp)

/-! ## Entry lists -/

/-- Put `v` at `k`, keeping the order. -/
def insertEntry (k : κ) (v : ν) : List (κ × ν) → List (κ × ν)
  | [] => [(k, v)]
  | e :: es => if k < e.1 then (k, v) :: e :: es else if k = e.1 then (k, v) :: es else e :: insertEntry k v es

/-- The value at `k`. -/
def lookupEntry (k : κ) : List (κ × ν) → Option ν
  | [] => none
  | e :: es => if k = e.1 then some e.2 else lookupEntry k es

theorem mem_insertEntry {k : κ} {v : ν} {e : κ × ν} {es : List (κ × ν)} (h : e ∈ insertEntry k v es) :
    e = (k, v) ∨ e ∈ es := by
  induction es with
  | nil => simpa [insertEntry] using h
  | cons d ds ih =>
    simp only [insertEntry] at h
    split at h
    · simpa using h
    · split at h
      · rcases List.mem_cons.1 h with h | h
        · exact .inl h
        · exact .inr (List.mem_cons_of_mem _ h)
      · rcases List.mem_cons.1 h with rfl | h
        · exact .inr List.mem_cons_self
        · exact (ih h).imp_right (List.mem_cons_of_mem _)

theorem insertEntry_sorted (k : κ) (v : ν) (es : List (κ × ν)) (h : es.Pairwise (fun a b => a.1 < b.1)) :
    (insertEntry k v es).Pairwise (fun a b => a.1 < b.1) := by
  induction es with
  | nil => simp [insertEntry]
  | cons d ds ih =>
    rw [List.pairwise_cons] at h
    simp only [insertEntry]
    split
    · rename_i hk
      refine List.pairwise_cons.2 ⟨fun e he => ?_, List.pairwise_cons.2 h⟩
      rcases List.mem_cons.1 he with rfl | he
      · exact hk
      · exact hk.trans (h.1 e he)
    · split
      · rename_i _ hk
        exact List.pairwise_cons.2 ⟨fun e he => hk ▸ h.1 e he, h.2⟩
      · rename_i hlt hne
        refine List.pairwise_cons.2 ⟨fun e he => ?_, ih h.2⟩
        rcases mem_insertEntry he with rfl | he
        · exact lt_of_le_of_ne (not_lt.1 hlt) (Ne.symm hne)
        · exact h.1 e he

/-- A key after all others. -/
theorem insertEntry_last {k : κ} {es : List (κ × ν)} (h : ∀ e ∈ es, e.1 < k) (v : ν) :
    insertEntry k v es = es ++ [(k, v)] := by
  induction es with
  | nil => rfl
  | cons d ds ih =>
    have hd := h d List.mem_cons_self
    rw [insertEntry, if_neg hd.asymm, if_neg hd.ne', ih fun e he => h e (List.mem_cons_of_mem _ he)]
    rfl

theorem lookupEntry_insertEntry (k j : κ) (v : ν) (es : List (κ × ν)) :
    lookupEntry j (insertEntry k v es) = if j = k then some v else lookupEntry j es := by
  induction es with
  | nil => simp [insertEntry, lookupEntry]
  | cons d ds ih =>
    simp only [insertEntry]
    split
    · simp [lookupEntry]
    · split
      · rename_i _ hk
        subst hk
        simp only [lookupEntry]
        split <;> rfl
      · rename_i _ hk
        simp only [lookupEntry, ih]
        by_cases hj : j = d.1
        · have : j ≠ k := fun h => hk (h ▸ hj)
          simp [hj, Ne.symm hk]
        · simp [hj]

theorem lookupEntry_some {k : κ} {v : ν} {es : List (κ × ν)} (h : es.Pairwise (fun a b => a.1 < b.1)) :
    lookupEntry k es = some v ↔ (k, v) ∈ es := by
  induction es with
  | nil => simp [lookupEntry]
  | cons d ds ih =>
    rw [List.pairwise_cons] at h
    simp only [lookupEntry, List.mem_cons]
    split
    · rename_i hk
      subst hk
      constructor
      · rintro ⟨rfl⟩; exact .inl rfl
      · rintro (h' | h')
        · rw [← h']
        · exact absurd (h.1 _ h') (lt_irrefl _)
    · rename_i hk
      rw [ih h.2]
      constructor
      · exact .inr
      · rintro (h' | h')
        · exact absurd (congrArg Prod.fst h') hk
        · exact h'

theorem lookupEntry_filter (k j : κ) (es : List (κ × ν)) :
    lookupEntry j (es.filter (fun e => e.1 ≠ k)) = if j = k then none else lookupEntry j es := by
  induction es with
  | nil => simp [lookupEntry]
  | cons d ds ih =>
    by_cases hd : d.1 = k
    · rw [List.filter_cons_of_neg (by simp [hd]), ih]
      by_cases hj : j = k
      · simp [hj]
      · simp [hj, lookupEntry, hd]
    · rw [List.filter_cons_of_pos (by simp [hd])]
      simp only [lookupEntry, ih]
      by_cases hj : j = d.1
      · simp [hj, hd]
      · simp [hj]

/-- Sorted entry lists with the same lookups are equal. -/
theorem entries_ext {es ds : List (κ × ν)} (he : es.Pairwise (fun a b => a.1 < b.1))
    (hd : ds.Pairwise (fun a b => a.1 < b.1)) (h : ∀ k, lookupEntry k es = lookupEntry k ds) : es = ds := by
  have hmem : ∀ e, e ∈ es ↔ e ∈ ds := by
    rintro ⟨k, v⟩
    rw [← lookupEntry_some he, ← lookupEntry_some hd, h]
  have nodup : ∀ l : List (κ × ν), l.Pairwise (fun a b => a.1 < b.1) → l.Nodup := fun l hl =>
    hl.imp (fun hab hc => by rw [hc] at hab; exact lt_irrefl _ hab)
  have hperm : es.Perm ds := (List.perm_ext_iff_of_nodup (nodup _ he) (nodup _ hd)).2 hmem
  exact hperm.eq_of_pairwise (fun a b _ _ hab hba => absurd (hab.trans hba) (lt_irrefl _)) he hd

/-! ## Maps -/

def empty : BTreeMap κ ν := ⟨[], .nil⟩

instance : EmptyCollection (BTreeMap κ ν) := ⟨empty⟩

instance : Inhabited (BTreeMap κ ν) := ⟨empty⟩

def get? (m : BTreeMap κ ν) (k : κ) : Option ν := lookupEntry k m.entries

def insert (m : BTreeMap κ ν) (k : κ) (v : ν) : BTreeMap κ ν :=
  ⟨insertEntry k v m.entries, insertEntry_sorted k v m.entries m.sorted⟩

def erase (m : BTreeMap κ ν) (k : κ) : BTreeMap κ ν :=
  ⟨m.entries.filter (fun e => e.1 ≠ k), m.sorted.filter _⟩

/-- Keep the entries whose keys `p` accepts. -/
def filterKeys (m : BTreeMap κ ν) (p : κ → Bool) : BTreeMap κ ν :=
  ⟨m.entries.filter (fun e => p e.1), m.sorted.filter _⟩

def contains (m : BTreeMap κ ν) (k : κ) : Bool := (m.get? k).isSome

def keys (m : BTreeMap κ ν) : List κ := m.entries.map (·.1)

def values (m : BTreeMap κ ν) : List ν := m.entries.map (·.2)

def length (m : BTreeMap κ ν) : Nat := m.entries.length

@[simp] theorem get?_empty (k : κ) : (∅ : BTreeMap κ ν).get? k = none := rfl

@[simp] theorem get?_insert (m : BTreeMap κ ν) (k j : κ) (v : ν) :
    (m.insert k v).get? j = if j = k then some v else m.get? j :=
  lookupEntry_insertEntry k j v m.entries

@[simp] theorem get?_erase (m : BTreeMap κ ν) (k j : κ) :
    (m.erase k).get? j = if j = k then none else m.get? j :=
  lookupEntry_filter k j m.entries

/-- A map filled from a list of keys. -/
theorem get?_foldl_insert (g : κ → ν) (ks : List κ) (m : BTreeMap κ ν) (j : κ) :
    (ks.foldl (fun n k => n.insert k (g k)) m).get? j = if j ∈ ks then some (g j) else m.get? j := by
  induction ks generalizing m with
  | nil => simp
  | cons k ks ih =>
    rw [List.foldl_cons, ih, get?_insert]
    by_cases hj : j ∈ ks
    · simp [hj]
    · by_cases hk : j = k <;> simp [hj, hk]

/-- Maps with the same lookups are equal. -/
theorem ext_get? {m n : BTreeMap κ ν} (h : ∀ k, m.get? k = n.get? k) : m = n := by
  have := entries_ext m.sorted n.sorted h
  cases m; cases n
  simpa using this

theorem lookupEntry_map {g : κ → ν} {ks : List κ} {k : κ} (h : k ∈ ks) :
    lookupEntry k (ks.map fun j => (j, g j)) = some (g k) := by
  induction ks with
  | nil => cases h
  | cons j js ih =>
    simp only [List.map_cons, lookupEntry]
    split
    · rename_i hk
      rw [hk]
    · rename_i hk
      exact ih ((List.mem_cons.1 h).resolve_left hk)

/-- A map with a value at every key lists every key. -/
theorem entries_of_total {m : BTreeMap κ ν} {g : κ → ν} {ks : List κ} (hs : ks.Pairwise (· < ·))
    (hall : ∀ k, k ∈ ks) (h : ∀ k, m.get? k = some (g k)) : m.entries = ks.map fun k => (k, g k) := by
  refine entries_ext m.sorted (List.pairwise_map.2 hs) fun k => ?_
  rw [lookupEntry_map (hall k)]
  exact h k

theorem mem_keys {m : BTreeMap κ ν} {k : κ} : k ∈ m.keys ↔ m.contains k = true := by
  simp only [keys, contains, get?, Option.isSome_iff_exists, lookupEntry_some m.sorted, List.mem_map, Prod.exists,
    exists_and_right, exists_eq_right]

/-- The keys of a map, out of an ordered list of all keys. -/
theorem keys_eq_filter (m : BTreeMap κ ν) {ks : List κ} (hs : ks.Pairwise (· < ·)) (hall : ∀ k, k ∈ ks) :
    m.keys = ks.filter m.contains := by
  have hkeys : m.keys.Pairwise (· < ·) := List.pairwise_map.2 m.sorted
  have hnodup : ∀ {l : List κ}, l.Pairwise (· < ·) → l.Nodup := fun h => h.imp fun hab => ne_of_lt hab
  have hmem : ∀ k, k ∈ m.keys ↔ k ∈ ks.filter m.contains := by
    intro k
    rw [mem_keys, List.mem_filter]
    exact (and_iff_right (hall k)).symm
  have hperm := (List.perm_ext_iff_of_nodup (hnodup hkeys) (hnodup (hs.filter _))).2 hmem
  exact hperm.eq_of_pairwise (fun a b _ _ hab hba => absurd (hab.trans hba) (lt_irrefl _)) hkeys (hs.filter _)

theorem mem_values {m : BTreeMap κ ν} {v : ν} : v ∈ m.values ↔ ∃ k, m.get? k = some v := by
  simp only [values, get?, lookupEntry_some m.sorted, List.mem_map, Prod.exists, exists_eq_right]

end BTreeMap

end Lib
