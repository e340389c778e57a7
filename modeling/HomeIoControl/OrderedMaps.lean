import Mathlib.Order.Defs.LinearOrder
import Mathlib.Order.Lattice
import Mathlib.Tactic.Common

/-!
# Ordered maps

A finite map whose entries are visited in the order of their keys. The order is carried by the
map, so that an update cannot break it.
-/

namespace HomeIoControl.OrderedMaps

universe u v

/-- Entries with strictly increasing keys. -/
structure OrderedMap (κ : Type u) (ν : Type v) [LinearOrder κ] where
  entries : List (κ × ν)
  sorted : (entries.map Prod.fst).Pairwise (· < ·)

variable {κ : Type u} {ν : Type v} [LinearOrder κ]

/-- The value of the first entry with the key. -/
def lookup (k : κ) : List (κ × ν) → Option ν
  | [] => none
  | (k', v) :: es => if k = k' then some v else lookup k es

/-- Put a value at its place in the order, replacing an entry with the same key. -/
def insertEntry (k : κ) (v : ν) : List (κ × ν) → List (κ × ν)
  | [] => [(k, v)]
  | (k', v') :: es =>
    if k < k' then (k, v) :: (k', v') :: es
    else if k = k' then (k, v) :: es
    else (k', v') :: insertEntry k v es

theorem lookup_insertEntry_self (k : κ) (v : ν) (es : List (κ × ν)) :
    lookup k (insertEntry k v es) = some v := by
  induction es with
  | nil => simp [insertEntry, lookup]
  | cons e es ih =>
    obtain ⟨k', v'⟩ := e
    rw [insertEntry]
    split_ifs with hlt heq
    · simp [lookup]
    · simp [lookup]
    · simp [lookup, heq, ih]

theorem lookup_insertEntry_of_ne {k k' : κ} (h : k' ≠ k) (v : ν) (es : List (κ × ν)) :
    lookup k' (insertEntry k v es) = lookup k' es := by
  induction es with
  | nil => simp [insertEntry, lookup, h]
  | cons e es ih =>
    obtain ⟨k₁, v₁⟩ := e
    rw [insertEntry]
    split_ifs with hlt heq
    · simp [lookup, h]
    · subst heq
      simp [lookup, h]
    · by_cases hk : k' = k₁ <;> simp [lookup, hk, ih]

theorem mem_keys_insertEntry {k x : κ} {v : ν} {es : List (κ × ν)}
    (h : x ∈ (insertEntry k v es).map Prod.fst) : x = k ∨ x ∈ es.map Prod.fst := by
  induction es with
  | nil => simpa [insertEntry] using h
  | cons e es ih =>
    obtain ⟨k', v'⟩ := e
    rw [insertEntry] at h
    split_ifs at h with hlt heq
    · simpa using h
    · subst heq
      simp only [List.map_cons, List.mem_cons] at h ⊢
      tauto
    · simp only [List.map_cons, List.mem_cons] at h ⊢
      rcases h with h | h
      · exact .inr (.inl h)
      · exact (ih h).imp_right .inr

theorem insertEntry_sorted (k : κ) (v : ν) {es : List (κ × ν)}
    (h : (es.map Prod.fst).Pairwise (· < ·)) :
    ((insertEntry k v es).map Prod.fst).Pairwise (· < ·) := by
  induction es with
  | nil => simp [insertEntry]
  | cons e es ih =>
    obtain ⟨k', v'⟩ := e
    obtain ⟨hhead, htail⟩ := List.pairwise_cons.mp h
    rw [insertEntry]
    split_ifs with hlt heq
    · refine List.pairwise_cons.mpr ⟨?_, h⟩
      intro x hx
      rcases List.mem_cons.mp hx with rfl | hx
      · exact hlt
      · exact hlt.trans (hhead x hx)
    · subst heq
      exact List.pairwise_cons.mpr ⟨hhead, htail⟩
    · refine List.pairwise_cons.mpr ⟨?_, ih htail⟩
      intro x hx
      rcases mem_keys_insertEntry hx with rfl | hx
      · exact lt_of_le_of_ne (not_lt.mp hlt) (Ne.symm heq)
      · exact hhead x hx

theorem lookup_eq_some_of_mem {es : List (κ × ν)} (h : (es.map Prod.fst).Pairwise (· < ·))
    {k : κ} {v : ν} (hmem : (k, v) ∈ es) : lookup k es = some v := by
  induction es with
  | nil => cases hmem
  | cons e es ih =>
    obtain ⟨hhead, htail⟩ := List.pairwise_cons.mp h
    rcases List.mem_cons.mp hmem with rfl | hmem
    · simp [lookup]
    · have hlt := hhead k (List.mem_map_of_mem (f := Prod.fst) hmem)
      rw [lookup, if_neg hlt.ne', ih htail hmem]

theorem mem_of_lookup_eq_some {es : List (κ × ν)} {k : κ} {v : ν} (h : lookup k es = some v) :
    (k, v) ∈ es := by
  induction es with
  | nil => simp [lookup] at h
  | cons e es ih =>
    obtain ⟨k', v'⟩ := e
    rw [lookup] at h
    split at h
    · next heq => simp_all
    · exact List.mem_cons_of_mem _ (ih h)

theorem lookup_filter_ne (k k' : κ) (es : List (κ × ν)) :
    lookup k' (es.filter fun e => e.1 ≠ k) = if k' = k then none else lookup k' es := by
  induction es with
  | nil => simp [lookup]
  | cons e es ih =>
    obtain ⟨k₁, v₁⟩ := e
    by_cases hk : k₁ = k
    · subst hk
      rw [List.filter_cons_of_neg (by simp), ih]
      by_cases hk' : k' = k₁ <;> simp [lookup, hk']
    · rw [List.filter_cons_of_pos (by simpa using hk)]
      by_cases hk' : k' = k₁
      · simp [lookup, hk', hk]
      · rw [lookup, if_neg hk', ih, lookup, if_neg hk']

namespace OrderedMap

instance : EmptyCollection (OrderedMap κ ν) := ⟨⟨[], .nil⟩⟩

def find (m : OrderedMap κ ν) (k : κ) : Option ν := lookup k m.entries

def insert (m : OrderedMap κ ν) (k : κ) (v : ν) : OrderedMap κ ν :=
  ⟨insertEntry k v m.entries, insertEntry_sorted k v m.sorted⟩

/-- The map without a key. -/
def erase (m : OrderedMap κ ν) (k : κ) : OrderedMap κ ν :=
  ⟨m.entries.filter fun e => e.1 ≠ k, m.sorted.sublist (List.filter_sublist.map _)⟩

@[simp] theorem find_empty (k : κ) : (∅ : OrderedMap κ ν).find k = none := rfl

@[simp] theorem find_insert_self (m : OrderedMap κ ν) (k : κ) (v : ν) :
    (m.insert k v).find k = some v := lookup_insertEntry_self k v m.entries

theorem find_insert_of_ne (m : OrderedMap κ ν) {k k' : κ} (h : k' ≠ k) (v : ν) :
    (m.insert k v).find k' = m.find k' := lookup_insertEntry_of_ne h v m.entries

theorem find_insert (m : OrderedMap κ ν) (k k' : κ) (v : ν) :
    (m.insert k v).find k' = if k' = k then some v else m.find k' := by
  split_ifs with h
  · rw [h, find_insert_self]
  · exact m.find_insert_of_ne h v

theorem find_erase (m : OrderedMap κ ν) (k k' : κ) :
    (m.erase k).find k' = if k' = k then none else m.find k' := lookup_filter_ne k k' m.entries

theorem find_eq_some_iff (m : OrderedMap κ ν) {k : κ} {v : ν} :
    m.find k = some v ↔ (k, v) ∈ m.entries :=
  ⟨mem_of_lookup_eq_some, lookup_eq_some_of_mem m.sorted⟩

end OrderedMap

namespace OrderedMap

variable {ν' : Type v}

@[ext] theorem ext {m m' : OrderedMap κ ν} (h : m.entries = m'.entries) : m = m' := by
  cases m
  cases m'
  cases h
  rfl

def mapValues (f : ν → ν') (m : OrderedMap κ ν) : OrderedMap κ ν' :=
  ⟨m.entries.map fun e => (e.1, f e.2), by simpa [Function.comp_def] using m.sorted⟩

theorem lookup_map (f : ν → ν') (k : κ) (es : List (κ × ν)) :
    lookup k (es.map fun e => (e.1, f e.2)) = (lookup k es).map f := by
  induction es with
  | nil => rfl
  | cons e es ih => simp only [List.map_cons, lookup, ih]; split_ifs <;> rfl

theorem insertEntry_map (f : ν → ν') (k : κ) (v : ν) (es : List (κ × ν)) :
    insertEntry k (f v) (es.map fun e => (e.1, f e.2)) =
      (insertEntry k v es).map fun e => (e.1, f e.2) := by
  induction es with
  | nil => rfl
  | cons e es ih => simp only [List.map_cons, insertEntry, ih]; split_ifs <;> rfl

@[simp] theorem mapValues_empty (f : ν → ν') : mapValues f (∅ : OrderedMap κ ν) = ∅ := rfl

@[simp] theorem find_mapValues (f : ν → ν') (m : OrderedMap κ ν) (k : κ) :
    (mapValues f m).find k = (m.find k).map f := lookup_map f k m.entries

theorem mapValues_insert (f : ν → ν') (m : OrderedMap κ ν) (k : κ) (v : ν) :
    mapValues f (m.insert k v) = (mapValues f m).insert k (f v) :=
  ext (insertEntry_map f k v m.entries).symm

end OrderedMap

end HomeIoControl.OrderedMaps
