/-
Finite maps with ordered keys, as the list of their entries in order.  A scan from a key
upwards and the last entry at or below a key are read off that list.
-/
import Mathlib

namespace BaseChain

open List

/-- Entries in strictly ascending order of their keys. -/
structure OrderedTable (κ ν : Type) [LinearOrder κ] where
  entries : List (κ × ν)
  sorted : entries.Pairwise fun earlier later => earlier.1 < later.1

namespace OrderedTable

variable {κ ν : Type} [LinearOrder κ]

instance [DecidableEq ν] : DecidableEq (OrderedTable κ ν) := fun left right =>
  decidable_of_iff (left.entries = right.entries) (by
    cases left
    cases right
    exact ⟨fun h => by cases h; rfl, fun h => by cases h; rfl⟩)

instance : Inhabited (OrderedTable κ ν) := ⟨⟨[], .nil⟩⟩

variable (table : OrderedTable κ ν)

def lookup (key : κ) : Option ν := (table.entries.find? fun entry => entry.1 = key).map Prod.snd

/-- A value takes the place of another one with its key. -/
def insertEntry (key : κ) (value : ν) : List (κ × ν) → List (κ × ν)
  | [] => [(key, value)]
  | (head, old) :: rest =>
    if key < head then (key, value) :: (head, old) :: rest
    else if key = head then (key, value) :: rest
    else (head, old) :: insertEntry key value rest

variable {entries : List (κ × ν)}

theorem mem_insertEntry {entry : κ × ν} (hmem : entry ∈ insertEntry key value entries) :
    entry = (key, value) ∨ entry ∈ entries := by
  induction entries with
  | nil => exact .inl (mem_singleton.mp hmem)
  | cons head rest ih =>
    unfold insertEntry at hmem
    split at hmem
    · exact mem_cons.mp hmem
    · split at hmem
      · exact (mem_cons.mp hmem).imp_right (mem_cons_of_mem _)
      · rcases mem_cons.mp hmem with rfl | hrest
        · exact .inr mem_cons_self
        · exact (ih hrest).imp_right (mem_cons_of_mem _)

theorem insertEntry_sorted (key : κ) (value : ν)
    (hsorted : entries.Pairwise fun earlier later => earlier.1 < later.1) :
    (insertEntry key value entries).Pairwise fun earlier later => earlier.1 < later.1 := by
  induction entries with
  | nil => exact pairwise_singleton _ _
  | cons head rest ih =>
    obtain ⟨hhead, hrest⟩ := pairwise_cons.mp hsorted
    unfold insertEntry
    split
    · rename_i hbefore
      refine pairwise_cons.mpr ⟨fun entry hentry => ?_, hsorted⟩
      rcases mem_cons.mp hentry with rfl | hlater
      · exact hbefore
      · exact hbefore.trans (hhead entry hlater)
    · rename_i hnotBefore
      split
      · rename_i hsame
        subst hsame
        exact pairwise_cons.mpr ⟨hhead, hrest⟩
      · rename_i hother
        refine pairwise_cons.mpr ⟨fun entry hentry => ?_, ih hrest⟩
        rcases mem_insertEntry hentry with rfl | hlater
        · exact lt_of_le_of_ne (not_lt.mp hnotBefore) (Ne.symm hother)
        · exact hhead entry hlater

def insert (key : κ) (value : ν) : OrderedTable κ ν :=
  ⟨insertEntry key value table.entries, insertEntry_sorted key value table.sorted⟩

def filterKeys (test : κ → Bool) : OrderedTable κ ν :=
  ⟨table.entries.filter fun entry => test entry.1, table.sorted.filter _⟩

def erase (key : κ) : OrderedTable κ ν := table.filterKeys fun other => other ≠ key

/-- The entries at or above a key, in order. -/
def startingAt (key : κ) : List (κ × ν) := table.entries.filter fun entry => key ≤ entry.1

/-- The last entry at or below a key. -/
def atMost (key : κ) : Option (κ × ν) := (table.entries.filter fun entry => entry.1 ≤ key).getLast?

end OrderedTable

end BaseChain
