/-
A ring of slots that is written in turn: it holds what was written last.
-/
import Mathlib.Data.List.Basic
import Mathlib.Logic.Function.Basic

namespace BaseChain

open Function List

namespace Ring

variable {α : Type} {capacity pointer : Nat} {blank : α} {slots : Nat → α} {history : List α}

/-- The position after another one. -/
def next (capacity pointer : Nat) : Nat := if capacity ≤ pointer + 1 then 0 else pointer + 1

/-- A ring of `capacity` slots after the writes of a history. -/
structure Holds (capacity : Nat) (blank : α) (slots : Nat → α) (pointer : Nat)
    (history : List α) : Prop where
  pointer : pointer = history.length % capacity
  recent : ∀ index value, history[index]? = some value →
    history.length ≤ index + capacity → slots (index % capacity) = value
  unused : ∀ slot, history.length ≤ slot → slots slot = blank

theorem Holds.nil : Holds capacity blank (fun _ => blank) 0 [] := by
  refine ⟨(Nat.zero_mod capacity).symm, ?_, fun _ _ => rfl⟩
  intro index value hvalue
  cases hvalue

theorem next_mod (hcapacity : 0 < capacity) (count : Nat) :
    next capacity (count % capacity) = (count + 1) % capacity := by
  have hinside := Nat.mod_lt count hcapacity
  unfold next
  rw [Nat.add_mod_eq_add_mod_right 1 (Nat.mod_mod count capacity).symm]
  by_cases hlast : capacity ≤ count % capacity + 1
  · have hfull : count % capacity + 1 = capacity := Nat.le_antisymm hinside hlast
    rw [if_pos hlast, hfull, Nat.mod_self]
  · rw [if_neg hlast, Nat.mod_eq_of_lt (Nat.lt_of_not_le hlast)]

/-- Within the last `capacity` writes no slot is used twice. -/
theorem mod_ne_mod {index count : Nat} (hbelow : index < count)
    (hrecent : count < index + capacity) :
    index % capacity ≠ count % capacity := by
  intro hsame
  have hdvd : capacity ∣ count - index :=
    Nat.dvd_of_mod_eq_zero (Nat.sub_mod_eq_zero_of_mod_eq hsame.symm)
  have hle := Nat.le_of_dvd (Nat.sub_pos_of_lt hbelow) hdvd
  omega

theorem Holds.push (hholds : Holds capacity blank slots pointer history)
    (hcapacity : 0 < capacity) (value : α) :
    Holds capacity blank (update slots pointer value)
      (next capacity pointer) (history ++ [value]) := by
  obtain ⟨rfl, hrecent, hunused⟩ := hholds
  refine ⟨?_, ?_, ?_⟩
  · rw [length_append]
    exact next_mod hcapacity history.length
  · intro index written hwritten hbound
    rw [length_append, length_singleton] at hbound
    rcases Nat.lt_trichotomy index history.length with hbelow | rfl | habove
    · rw [getElem?_append_left hbelow] at hwritten
      rw [update_of_ne (mod_ne_mod hbelow (by omega))]
      exact hrecent index written hwritten (by omega)
    · rw [getElem?_concat_length] at hwritten
      rw [update_self]
      exact Option.some.inj hwritten
    · rw [getElem?_eq_none (by simpa using Nat.succ_le_of_lt habove)] at hwritten
      cases hwritten
  · intro slot hslot
    rw [length_append, length_singleton] at hslot
    have hmod := Nat.mod_le history.length capacity
    rw [update_of_ne (by omega)]
    exact hunused slot (by omega)

/-- The slot to be written next holds what was written `capacity` writes before,
if there were so many. -/
theorem Holds.oldest (hholds : Holds capacity blank slots pointer history)
    (hne : slots pointer ≠ blank) :
    capacity ≤ history.length ∧ history[history.length - capacity]? = some (slots pointer) := by
  obtain ⟨rfl, hrecent, hunused⟩ := hholds
  by_cases hfull : capacity ≤ history.length ∧ 0 < capacity
  · obtain ⟨hfull, hcapacity⟩ := hfull
    have hinside : history.length - capacity < history.length := by omega
    have hslot := hrecent _ _ (getElem?_eq_getElem hinside) (by omega)
    rw [← Nat.mod_eq_sub_mod hfull] at hslot
    rw [hslot]
    exact ⟨hfull, getElem?_eq_getElem hinside⟩
  · -- too few writes, or no slots at all: the slot was never written
    have hmod : history.length % capacity = history.length := by
      rcases Nat.eq_zero_or_pos capacity with rfl | hcapacity
      · exact Nat.mod_zero _
      · exact Nat.mod_eq_of_lt (by omega)
    rw [hmod] at hne
    exact absurd (hunused _ (Nat.le_refl _)) hne

end Ring

end BaseChain
