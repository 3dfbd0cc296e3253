/-
Windows of consecutive L1 blocks of one chain: how they grow at the end, and how
they are drained at the front.
-/
import BaseChain.BatchValidator

namespace BaseChain

open List

variable {chain : Nat → BlockInfo}

/-- The blocks of a chain from one number to another. -/
def l1Window (chain : Nat → BlockInfo) (low high : Nat) : List BlockInfo :=
  (List.range' low (high + 1 - low)).map chain

variable {low high : Nat}

theorem l1Window_empty (hlow : high < low) : l1Window chain low high = [] := by
  rw [l1Window, Nat.sub_eq_zero_of_le hlow]
  rfl

theorem l1Window_cons {low high : Nat} (hlow : low ≤ high) :
    l1Window chain low high = chain low :: l1Window chain (low + 1) high := by
  have hcount : high + 1 - low = (high + 1 - (low + 1)) + 1 := by omega
  rw [l1Window, hcount, List.range'_succ]
  rfl

theorem l1Window_self (number : Nat) : l1Window chain number number = [chain number] := by
  rw [l1Window_cons (le_refl _), l1Window_empty (Nat.lt_succ_self _)]

theorem l1Window_push (hlow : low ≤ high + 1) : l1Window chain low high ++ [chain (high + 1)] =
      l1Window chain low (high + 1) := by
  have hcount : high + 1 + 1 - low = (high + 1 - low) + 1 := by omega
  have hlast : low + (high + 1 - low) = high + 1 := by omega
  rw [l1Window, l1Window, hcount, List.range'_concat, map_append, one_mul, hlast]
  rfl

theorem mem_l1Window {block : BlockInfo} : block ∈ l1Window chain low high ↔
      ∃ number, low ≤ number ∧ number ≤ high ∧ chain number = block := by
  simp only [l1Window, mem_map, mem_range'_1]
  constructor
  · rintro ⟨number, ⟨hlow, hhigh⟩, hblock⟩
    exact ⟨number, hlow, by omega, hblock⟩
  · rintro ⟨number, hlow, hhigh, hblock⟩
    exact ⟨number, ⟨hlow, by omega⟩, hblock⟩

section Numbered

variable (hchain : ∀ number, (chain number).number = number)

include hchain

variable {low high : Nat} {number : Nat}

theorem dropWhile_l1Window (hlow : low ≤ number) (hhigh : number ≤ high) :
    (l1Window chain low high).dropWhile (·.number ≠ number) = l1Window chain number high := by
  induction hlow using Nat.decreasingInduction with
  | self =>
    rw [l1Window_cons hhigh]
    simp [hchain]
  | of_succ low hlow ih =>
    have hne : low ≠ number := by omega
    rw [l1Window_cons (by omega), dropWhile_cons_of_pos, ih]
    simpa [hchain] using hne

theorem drainTo_l1Window (hlow : low ≤ number) (hhigh : number ≤ high) :
    drainTo number (l1Window chain low high) = l1Window chain number high := by
  have hmem : chain number ∈ l1Window chain low high := mem_l1Window.mpr ⟨number, hlow, hhigh, rfl⟩
  rw [drainTo, if_pos, dropWhile_l1Window hchain hlow hhigh]
  exact any_eq_true.mpr ⟨chain number, hmem, by simp [hchain]⟩

variable {parent : L2BlockInfo}

/-- A window whose first block is after the epoch stays as it is. -/
theorem advanceEpoch_of_le (hlow : parent.l1Origin.number ≤ low) :
    advanceEpoch parent (l1Window chain low high) = l1Window chain low high := by
  by_cases hempty : high < low
  · rw [l1Window_empty hempty]
    rfl
  · rw [l1Window_cons (le_of_not_gt hempty)]
    have hfirst : ¬ (chain low).number < parent.l1Origin.number := by
      rw [hchain]
      omega
    exact if_neg hfirst

/-- The epoch of the parent becomes the first block of the window. -/
theorem advanceEpoch_l1Window (hlow : low ≤ parent.l1Origin.number)
    (hhigh : parent.l1Origin.number ≤ high) :
    advanceEpoch parent (l1Window chain low high) = l1Window chain parent.l1Origin.number high := by
  by_cases heq : low = parent.l1Origin.number
  · rw [heq]
    exact advanceEpoch_of_le hchain (le_refl _)
  · have hfirst : (chain low).number < parent.l1Origin.number := by
      rw [hchain]
      omega
    rw [← drainTo_l1Window hchain hlow hhigh, l1Window_cons (by omega)]
    exact if_pos hfirst

/-- A window that ends before the epoch stays as it is. -/
theorem advanceEpoch_behind (hbehind : high < parent.l1Origin.number) :
    advanceEpoch parent (l1Window chain low high) = l1Window chain low high := by
  have hnone : drainTo parent.l1Origin.number (l1Window chain low high) =
      l1Window chain low high := by
    rw [drainTo, if_neg]
    intro hany
    obtain ⟨block, hmem, hblock⟩ := any_eq_true.mp hany
    obtain ⟨number, -, hnumber, rfl⟩ := mem_l1Window.mp hmem
    rw [decide_eq_true_eq, hchain] at hblock
    omega
  by_cases hempty : high < low
  · rw [l1Window_empty hempty]
    rfl
  · have hfirst : (chain low).number < parent.l1Origin.number := by
      rw [hchain]
      omega
    have hcons := @l1Window_cons chain low high (le_of_not_gt hempty)
    rw [hcons] at hnone ⊢
    exact (if_pos hfirst).trans hnone

end Numbered

end BaseChain
