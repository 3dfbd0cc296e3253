/-
Finite maps: what a lookup sees after a change, and sums over the values.
-/
import Mathlib.Data.Finmap
import Mathlib.Data.Finset.Sort

namespace BaseChain

/-- A finite map; the order of its entries cannot be seen. -/
abbrev Table (κ ν : Type) := Finmap fun _ : κ => ν

namespace Table

variable {κ ν : Type} [DecidableEq κ] {table : Table κ ν} {key : κ} {value : ν}

theorem lookup_insert (table : Table κ ν) (key other : κ) (value : ν) :
    (table.insert key value).lookup other =
      if other = key then some value else table.lookup other := by
  by_cases hkey : other = key
  · subst hkey
    rw [if_pos rfl, Finmap.lookup_insert]
  · rw [if_neg hkey, Finmap.lookup_insert_of_ne table hkey]

theorem lookup_erase (table : Table κ ν) (key other : κ) : (table.erase key).lookup other =
      if other = key then none else table.lookup other := by
  by_cases hkey : other = key
  · subst hkey
    rw [if_pos rfl, Finmap.lookup_erase]
  · rw [if_neg hkey, Finmap.lookup_erase_ne hkey]

theorem insert_erase (hvalue : table.lookup key = some value) :
    (table.erase key).insert key value = table := by
  apply Finmap.ext_lookup
  intro other
  rw [lookup_insert, lookup_erase]
  split
  · rename_i hother
    rw [hother, hvalue]
  · rfl

theorem insert_erase_self (table : Table κ ν) (key : κ) (value : ν) :
    (table.erase key).insert key value = table.insert key value := by
  apply Finmap.ext_lookup
  intro other
  simp only [lookup_insert]
  by_cases hother : other = key
  · simp [hother]
  · simp [hother]

theorem erase_insert_self (hkey : table.lookup key = none) (value : ν) :
    (table.insert key value).erase key = table := by
  apply Finmap.ext_lookup
  intro other
  rw [lookup_erase, lookup_insert]
  split
  · rename_i hother
    rw [hother, hkey]
  · rfl

theorem erase_insert_of_ne (table : Table κ ν) {other : κ} (hne : other ≠ key) (value : ν) :
    (table.insert key value).erase other = (table.erase other).insert key value := by
  apply Finmap.ext_lookup
  intro next
  simp only [lookup_insert, lookup_erase]
  by_cases hnext : next = key
  · subst hnext
    simp [Ne.symm hne]
  · simp [hnext]

/-- The entries at the keys that a test accepts. -/
def filterKeys (test : κ → Bool) (table : Table κ ν) : Table κ ν :=
  ⟨table.entries.filter fun entry => test entry.1, by
    apply Multiset.nodup_keys.mp
    exact Multiset.nodup_of_le (Multiset.map_le_map (Multiset.filter_le _ _))
      (Multiset.nodup_keys.mpr table.nodupKeys)⟩

theorem lookup_filterKeys (test : κ → Bool) (table : Table κ ν) (key : κ) :
    (table.filterKeys test).lookup key = if test key then table.lookup key else none := by
  apply Option.ext
  intro value
  rw [Finmap.lookup_eq_some_iff]
  split
  · rename_i htest
    rw [Finmap.lookup_eq_some_iff]
    exact Multiset.mem_filter.trans (and_iff_left htest)
  · rename_i htest
    constructor
    · intro hentry
      exact absurd (Multiset.mem_filter.mp hentry).2 htest
    · nofun

variable (quantity : ν → Nat)

/-- A quantity summed over all values. -/
def total (table : Table κ ν) : Nat := (table.entries.map fun entry => quantity entry.2).sum

theorem total_insert (hkey : table.lookup key = none) (value : ν) :
    total quantity (table.insert key value) = quantity value + total quantity table := by
  unfold total
  rw [Finmap.entries_insert_of_notMem (Finmap.lookup_eq_none.mp hkey),
    Multiset.map_cons, Multiset.sum_cons]

theorem total_erase (hvalue : table.lookup key = some value) :
    total quantity table = quantity value + total quantity (table.erase key) := by
  conv_lhs => rw [← insert_erase hvalue]
  exact total_insert quantity (Finmap.lookup_erase key table) value

theorem quantity_le_total (hvalue : table.lookup key = some value) :
    quantity value ≤ total quantity table := by
  rw [total_erase quantity hvalue]
  exact Nat.le_add_right _ _

/-- The entries of a map with ordered keys, in the order of the keys. -/
def inOrder {ν : Type} (table : Table Nat ν) : List (Nat × ν) :=
  (table.keys.sort (· ≤ ·)).filterMap fun key =>
    (table.lookup key).map fun value => (key, value)

theorem mem_inOrder {table : Table Nat ν} {key : Nat} :
    (key, value) ∈ inOrder table ↔ table.lookup key = some value := by
  simp only [inOrder, List.mem_filterMap, Finset.mem_sort, Option.map_eq_some_iff, Prod.mk.injEq]
  constructor
  · rintro ⟨other, -, found, hfound, rfl, rfl⟩
    exact hfound
  · intro hvalue
    exact ⟨key, Finmap.mem_of_lookup_eq_some hvalue, value, hvalue, rfl, rfl⟩

theorem map_fst_inOrder_sublist (table : Table Nat ν) :
    ((inOrder table).map Prod.fst).Sublist (table.keys.sort (· ≤ ·)) := by
  have hkeys : ∀ keys : List Nat, ((keys.filterMap fun key =>
      (table.lookup key).map fun value => (key, value)).map Prod.fst).Sublist
        keys := by
    intro keys
    induction keys with
    | nil => exact List.Sublist.refl _
    | cons key keys ih =>
      cases hvalue : table.lookup key with
      | none =>
        rw [List.filterMap_cons_none (by rw [hvalue]; rfl)]
        exact ih.cons key
      | some value =>
        rw [List.filterMap_cons_some (by rw [hvalue]; rfl)]
        exact ih.cons_cons key
  exact hkeys _

/-- The highest key. -/
def lastKey {ν : Type} (table : Table Nat ν) : Option Nat :=
  if h : table.keys.Nonempty then some (table.keys.max' h) else none

end Table

end BaseChain
