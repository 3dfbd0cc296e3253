/-
Half-open ranges of natural numbers that tile an interval, and what happens to
a tiling when a prefix of the interval is cut away.
-/
import Mathlib.Data.List.Basic

namespace BaseChain

open List

/-- The ranges follow each other from `start` to `finish`, none of them
empty. -/
def Tiles : Nat → Nat → List (Nat × Nat) → Prop
  | start, finish, [] => start = finish
  | start, finish, range :: ranges =>
    range.1 = start ∧ range.1 < range.2 ∧ Tiles range.2 finish ranges

/-- A range after the first `count` numbers are gone. -/
def shiftRange (count : Nat) (range : Nat × Nat) : Nat × Nat := (range.1 - count, range.2 - count)

variable {ranges : List (Nat × Nat)} {start finish : Nat} (htiles : Tiles start finish ranges)

include htiles in
theorem Tiles.le : start ≤ finish := by
  induction ranges generalizing start with
  | nil => exact Nat.le_of_eq htiles
  | cons _ _ ih =>
    obtain ⟨hstart, hrange, hrest⟩ := htiles
    have hle := ih hrest
    omega

variable {front : List (Nat × Nat)}

theorem tiles_append {back : List (Nat × Nat)} : Tiles start finish (front ++ back) ↔
      ∃ middle, Tiles start middle front ∧ Tiles middle finish back := by
  induction front generalizing start with
  | nil => simp [Tiles]
  | cons _ _ ih => simp [Tiles, ih, and_assoc]

variable {range : Nat × Nat}

theorem tiles_concat : Tiles start finish (front ++ [range]) ↔
      Tiles start range.1 front ∧ range.1 < range.2 ∧ range.2 = finish := by
  rw [tiles_append]
  constructor
  · rintro ⟨middle, hfront, rfl, hrange, hfinish⟩
    exact ⟨hfront, hrange, hfinish⟩
  · rintro ⟨hfront, hrange, hfinish⟩
    exact ⟨range.1, hfront, rfl, hrange, hfinish⟩

include htiles in
theorem Tiles.bounds_of_mem (hmem : range ∈ ranges) : start ≤ range.1 ∧ range.1 < range.2 := by
  induction ranges generalizing start with
  | nil => cases hmem
  | cons _ _ ih =>
    obtain ⟨hstart, hfirst, hrest⟩ := htiles
    rcases mem_cons.mp hmem with rfl | hmem
    · exact ⟨Nat.le_of_eq hstart.symm, hfirst⟩
    · have hbounds := ih hrest hmem
      omega

include htiles in
theorem Tiles.shift {count : Nat} (hbeyond : ∀ range ∈ ranges, count < range.2) :
    Tiles (start - count) (finish - count) (ranges.map (shiftRange count)) := by
  induction ranges generalizing start with
  | nil => exact congrArg (· - count) htiles
  | cons range _ ih =>
    obtain ⟨rfl, hrange, hrest⟩ := htiles
    have hcount := hbeyond range mem_cons_self
    refine ⟨rfl, ?_, ih hrest fun other hother => hbeyond other (mem_cons_of_mem _ hother)⟩
    simp only [shiftRange]
    omega

/-- Cutting `[0, count)` away: the ranges inside it go, one range may lose a
front part, the others move. -/
theorem Tiles.cut {start finish count : Nat} {ranges : List (Nat × Nat)}
    (htiles : Tiles start finish ranges) (hstart : start ≤ count) :
    Tiles 0 (finish - count) ((ranges.dropWhile (·.2 ≤ count)).map (shiftRange count)) := by
  induction ranges generalizing start with
  | nil =>
    have hfinish : start = finish := htiles
    simp only [dropWhile_nil, map_nil, Tiles]
    omega
  | cons range ranges ih =>
    by_cases hcovered : range.2 ≤ count
    · rw [dropWhile_cons_of_pos (by simpa using hcovered)]
      exact ih htiles.2.2 hcovered
    · rw [dropWhile_cons_of_neg (by simpa using hcovered)]
      have hbeyond : ∀ other ∈ range :: ranges, count < other.2 := by
        intro other hother
        rcases mem_cons.mp hother with rfl | hother
        · omega
        · have hbounds := htiles.2.2.bounds_of_mem hother
          omega
      have hshift := htiles.shift hbeyond
      rwa [Nat.sub_eq_zero_of_le hstart] at hshift

include htiles in
/-- Every number of the interval lies in exactly one range. -/
theorem Tiles.count_containing {index : Nat} (hstart : start ≤ index) :
    ranges.countP (fun range => range.1 ≤ index ∧ index < range.2) =
      if index < finish then 1 else 0 := by
  induction ranges generalizing start with
  | nil =>
    have hfinish : start = finish := htiles
    rw [countP_nil, if_neg (by omega)]
  | cons range ranges ih =>
    obtain ⟨rfl, hrange, hrest⟩ := htiles
    have hle := hrest.le
    by_cases hinside : index < range.2
    · have hnone : ranges.countP (fun other => other.1 ≤ index ∧ index < other.2) = 0 := by
        refine countP_eq_zero.mpr fun other hother => ?_
        have hbounds := hrest.bounds_of_mem hother
        simp only [decide_eq_true_eq]
        omega
      rw [countP_cons_of_pos (by simp [hstart, hinside]), hnone, if_pos (by omega)]
    · rw [countP_cons_of_neg (by simp [hinside])]
      exact ih hrest (Nat.not_lt.mp hinside)

end BaseChain
