/-
Verdicts on batches, the checks on transactions that all batches share, and the
provider of safe blocks.
-/
import BaseChain.CheckedArith
import BaseChain.SpanTransactionEnvelope

namespace BaseChain

open OpTxType

inductive BatchDropReason where
  | futureTimestampHolocene
  | pastTimestampPreHolocene
  | parentHashMismatch
  | includedTooLate
  | epochTooOld
  | epochTooFarInFuture
  | epochHashMismatch
  | sameSecondOriginChange
  | timestampBeforeL1Origin
  | sequencerDriftOverflow
  | sequencerDriftExceeded
  | sequencerDriftNotAdoptedNextOrigin
  | emptyTransaction
  | depositTransaction
  | eip7702PreIsthmus
  | eip8130PreEverest
  | nonEmptyTransitionBlock
  | spanBatchPreDelta
  | spanBatchPostDenim
  | spanBatchNoNewBlocksPreHolocene
  | spanBatchMisalignedTimestamp
  | spanBatchNotOverlappedExactly
  | l1OriginBeforeSafeHead
  | missingL1Origin
  | overlappedTxCountMismatch
  | overlappedTxMismatch
  | l2BlockInfoExtractionFailed
  | overlappedL1OriginMismatch
deriving Repr, DecidableEq

inductive BatchValidity where
  | drop (reason : BatchDropReason)
  | accept
  | undecided
  | future
  | past
deriving Repr, DecidableEq

/-- Why a check ends early: by returning a verdict, or by a panic. -/
inductive Halt where
  | verdict (validity : BatchValidity)
  | panic
deriving Repr, DecidableEq

abbrev Check (α : Type) := Except Halt α

namespace Check

/-- Return a verdict from a check. -/
def stop {α : Type} (validity : BatchValidity) : Check α := .error (.verdict validity)

def drop {α : Type} (reason : BatchDropReason) : Check α := stop (.drop reason)

/-- Return a verdict unless a condition holds. -/
def require (condition : Prop) [Decidable condition] (validity : BatchValidity) : Check Unit :=
  if condition then .ok () else stop validity

/-- The verdict of a check that was run to its end; `none` is a panic. -/
def verdict : Check Unit → Option BatchValidity
  | .ok () => some .accept
  | .error (.verdict validity) => some validity
  | .error .panic => none

variable {validity : BatchValidity} {condition : Prop}

theorem require_ok [Decidable condition] (hcond : condition) :
    require condition validity = .ok () :=
  if_pos hcond

theorem require_eq_ok [Decidable condition] {value : Unit} :
    require condition validity = .ok value ↔ condition := by
  unfold require
  by_cases hcond : condition
  · simp [hcond]
  · simp [stop]

theorem require_ne_panic [Decidable condition] : require condition validity ≠ .error .panic := by
  unfold require
  by_cases hcond : condition
  · simp [hcond]
  · simp [hcond, stop]

variable {α : Type} {next : Unit → Check α}

/-- A check behind a requirement panics only where the requirement is met. -/
theorem require_bind_eq_panic [Decidable condition] :
    (require condition validity >>= next) = .error .panic ↔
      condition ∧ next () = .error .panic := by
  rw [Checked.bind_eq_error]
  constructor
  · rintro (habsurd | ⟨value, hrequire, hnext⟩)
    · exact absurd habsurd require_ne_panic
    · exact ⟨require_eq_ok.mp hrequire, hnext⟩
  · rintro ⟨hcond, hnext⟩
    exact Or.inr ⟨(), require_eq_ok.mpr hcond, hnext⟩

theorem require_bind_eq_ok [Decidable condition] {value : α} :
    (require condition validity >>= next) = .ok value ↔ condition ∧ next () = .ok value := by
  rw [Checked.bind_eq_ok]
  constructor
  · rintro ⟨middle, hrequire, hnext⟩
    exact ⟨require_eq_ok.mp hrequire, hnext⟩
  · rintro ⟨hcond, hnext⟩
    exact ⟨(), require_eq_ok.mpr hcond, hnext⟩

/-- The check does not return a given verdict. -/
def Avoids {α : Type} (validity : BatchValidity) (check : Check α) : Prop :=
  check ≠ .error (.verdict validity)

section Avoids

variable {α β : Type} {validity other : BatchValidity}

theorem Avoids.ok (value : α) : Avoids validity (.ok value : Check α) := by simp [Avoids]

theorem Avoids.panic : Avoids validity (.error .panic : Check α) := by simp [Avoids]

theorem Avoids.stop (hother : other ≠ validity) : Avoids validity (Check.stop other : Check α) := by
  simpa [Avoids, Check.stop] using hother

theorem Avoids.require [Decidable condition] (hother : other ≠ validity) :
    Avoids validity (require condition other) := by
  unfold Check.require
  split
  · exact .ok ()
  · exact .stop hother

theorem Avoids.bind {first : Check α} {next : α → Check β} (hfirst : Avoids validity first)
    (hnext : ∀ value, Avoids validity (next value)) :
    Avoids validity (first >>= next) :=
  Checked.bind_ne_error hfirst hnext

theorem Avoids.add (left right : Nat) : Avoids validity (Checked.add Halt.panic left right) := by
  unfold Checked.add
  split
  · exact .panic
  · exact .ok _

theorem Avoids.sub (left right : Nat) : Avoids validity (Checked.sub Halt.panic left right) := by
  unfold Checked.sub
  split
  · exact .panic
  · exact .ok _

end Avoids

variable {check : Check Unit}

/-- Only a finished check is accepted, when it does not return that verdict. -/
theorem verdict_eq_accept (havoids : Avoids .accept check)
    (hverdict : check.verdict = some .accept) : check = .ok () := by
  cases check with
  | ok => rfl
  | error halt =>
    cases halt with
    | panic => cases hverdict
    | verdict =>
      cases hverdict
      exact absurd rfl havoids

theorem verdict_ne (havoids : Avoids validity check) (hvalidity : validity ≠ .accept) :
    check.verdict ≠ some validity := by
  cases check with
  | ok => simpa [verdict] using hvalidity.symm
  | error halt =>
    cases halt with
    | panic => simp [verdict]
    | verdict =>
      intro hverdict
      cases hverdict
      exact havoids rfl

end Check

namespace RollupConfig

variable (cfg : RollupConfig)

def isEverestActive (timestamp : Nat) : Bool := cfg.activated .everest timestamp

end RollupConfig

/-- What a batch may not contain. -/
def checkTransaction (cfg : RollupConfig) (timestamp : Nat) (tx : Bytes) : Option BatchDropReason :=
  if tx.isEmpty then some .emptyTransaction
  else if tx.head? = some deposit.toByte then some .depositTransaction
  else if ¬ cfg.isIsthmusActive timestamp ∧
      tx.head? = some eip7702.toByte then some .eip7702PreIsthmus
  else if ¬ cfg.isEverestActive timestamp ∧
      tx.head? = some eip8130.toByte then some .eip8130PreEverest
  else none

/-- The first objection to a transaction of a batch. -/
def checkTransactions (cfg : RollupConfig) (timestamp : Nat)
    (transactions : List Bytes) : Option BatchDropReason :=
  transactions.findSome? (checkTransaction cfg timestamp)

end BaseChain
