/-
Lists that only grow by new values, folds of growing functions, and what it
means that such a fold adds nothing.
-/
import Mathlib.Data.List.Infix
import Mathlib.Data.List.Nodup
import Mathlib.Order.Defs.Unbundled

namespace BaseChain

open List

section Pushing

variable {α : Type} [DecidableEq α]

/-- Append a value that is not there yet. -/
def pushNew (values : List α) (value : α) : List α :=
  if value ∈ values then values else values ++ [value]

variable {values : List α}

@[simp]
theorem mem_pushNew {value other : α} :
    other ∈ pushNew values value ↔ other ∈ values ∨ other = value := by
  unfold pushNew
  split
  · rename_i hmem
    constructor
    · exact Or.inl
    · rintro (hother | rfl)
      · exact hother
      · exact hmem
  · simp

theorem isPrefix_pushNew (values : List α) (value : α) : values <+: pushNew values value := by
  unfold pushNew
  split
  · exact prefix_rfl
  · exact prefix_append _ _

theorem nodup_pushNew (hnodup : values.Nodup) (value : α) : (pushNew values value).Nodup := by
  unfold pushNew
  split
  · exact hnodup
  · rename_i hnew
    exact List.Nodup.append hnodup (nodup_singleton value) (by simpa using hnew)

@[simp]
theorem mem_foldl_pushNew {added : List α} {other : α} :
    other ∈ added.foldl pushNew values ↔ other ∈ values ∨ other ∈ added := by
  induction added generalizing values with
  | nil => simp
  | cons value added ih => simp [ih, or_assoc]

theorem nodup_foldl_pushNew (hnodup : values.Nodup) (added : List α) :
    (added.foldl pushNew values).Nodup := by
  induction added generalizing values with
  | nil => exact hnodup
  | cons value added ih => exact ih (nodup_pushNew hnodup value)

end Pushing

section Folding

variable {α β : Type} {r : β → β → Prop} [IsPartialOrder β r] {step : β → α → β}

theorem foldl_grows (hgrows : ∀ acc value, r acc (step acc value)) (acc : β)
    (values : List α) : r acc (values.foldl step acc) := by
  induction values generalizing acc with
  | nil => exact refl_of r acc
  | cons value values ih => exact trans_of r (hgrows acc value) (ih _)

/-- A fold of growing steps that adds nothing has no step that adds
something. -/
theorem step_eq_of_foldl_eq (hgrows : ∀ acc value, r acc (step acc value))
    {acc : β} {values : List α} (hfold : values.foldl step acc = acc)
    {value : α} (hvalue : value ∈ values) : step acc value = acc := by
  induction values generalizing value with
  | nil => cases hvalue
  | cons first values ih =>
    have hfirst : step acc first = acc := by
      refine antisymm_of r ?_ (hgrows acc first)
      have hrest := foldl_grows hgrows (step acc first) values
      rwa [foldl_cons.symm.trans hfold] at hrest
    rcases mem_cons.mp hvalue with rfl | hvalue
    · exact hfirst
    · refine ih ?_ hvalue
      rwa [foldl_cons, hfirst] at hfold

end Folding

end BaseChain
