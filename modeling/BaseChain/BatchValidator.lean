/-
The batch stage after Holocene.  It keeps a window of L1 blocks, takes one batch
from the previous stage and accepts or refuses it, and makes an empty batch when
the sequence window of the current epoch is over.
-/
import BaseChain.BatchReader
import BaseChain.SingleBatchCheck
import BaseChain.SpanBatchCheck

namespace BaseChain

inductive PipelineError where
  | eof
  | notEnoughData
  | missingOrigin
  | batchQueueEmpty
  | invalidBatchType
  | invalidBatchValidity
  | badEncoding (error : SpanBatchError)
  | provider
deriving Repr, DecidableEq

inductive ResetError where
  | l1OriginMismatch (expected actual : Nat)
  | other
deriving Repr, DecidableEq

inductive PipelineErrorKind where
  | temporary (error : PipelineError)
  | critical (error : PipelineError)
  | reset (error : ResetError)
deriving Repr, DecidableEq

abbrev PipelineResult (α : Type) := Except PipelineErrorKind α

def PipelineError.temp {α : Type} (error : PipelineError) : PipelineResult α :=
  .error (.temporary error)

def PipelineError.crit {α : Type} (error : PipelineError) : PipelineResult α :=
  .error (.critical error)

/-- What a batch stage sees of the rest of the pipeline in one call: the
pipeline's origin, the answer of the previous stage when it is asked for a
batch, and the answers of the L2 chain provider. -/
structure Surroundings where
  origin : Option BlockInfo
  supplied : PipelineResult (Batch SpanBatch)
  blockByHash : B256 → PipelineResult L2BlockInfo
  fetcher : BatchValidationProvider

namespace Surroundings

/-- The pipeline has not reached the L1 origin of the parent. -/
def originBehind (around : Surroundings) (parent : L2BlockInfo) : Bool := match around.origin with
  | none => true
  | some origin => decide (origin.number < parent.l1Origin.number)

end Surroundings

/-- Drop the blocks before the one with a given number, if it is there. -/
def drainTo (number : Nat) (blocks : List BlockInfo) : List BlockInfo :=
  if blocks.any (·.number = number) then
    blocks.dropWhile (·.number ≠ number)
  else blocks

/-- The epoch has advanced beyond the first block of the window. -/
def advanceEpoch (parent : L2BlockInfo) (blocks : List BlockInfo) : List BlockInfo :=
  match blocks with
  | [] => []
  | first :: _ =>
    if first.number < parent.l1Origin.number then
      drainTo parent.l1Origin.number blocks
    else blocks

structure BatchValidator where
  pendingBatch : Option (SingleBatch × BlockInfo)
  origin : Option BlockInfo
  l1Blocks : List BlockInfo
deriving DecidableEq

namespace BatchValidator

def new : BatchValidator := { pendingBatch := none, origin := none, l1Blocks := [] }

/-- The stage after the previous stages were reset to an origin. -/
def reset (origin : Option BlockInfo) : BatchValidator :=
  { pendingBatch := none, origin, l1Blocks := origin.toList }

/-- What a call returns: the result, the stage after it, and the verdict of the
check if there was one. -/
structure Outcome where
  result : PipelineResult SingleBatch
  stage : BatchValidator
  verdict : Option BatchValidity
deriving DecidableEq

variable (cfg : RollupConfig) (around : Surroundings) (parent : L2BlockInfo)

variable (stage : BatchValidator)

/-- Take over the pipeline's origin. -/
def takeOrigin : PipelineResult BatchValidator := if stage.origin = around.origin then .ok stage
  else if ¬ around.originBehind parent then
    match around.origin with
    | none => PipelineError.missingOrigin.crit
    | some origin => .ok
        { stage with
          origin := around.origin, l1Blocks := stage.l1Blocks ++ [origin] }
  else .ok { stage with origin := around.origin, l1Blocks := [] }

def updateOrigins : PipelineResult BatchValidator := do
  let stage ← stage.takeOrigin around parent
  return { stage with l1Blocks := advanceEpoch parent stage.l1Blocks }

/-- The empty batch on top of the parent, for an epoch. -/
def emptyBatch (epoch : BlockInfo) (timestamp : Nat) : SingleBatch :=
  { parentHash := parent.blockInfo.hash, epochNum := epoch.number
    epochHash := epoch.hash, timestamp, transactions := [] }

/-- Make an empty batch if the sequence window is over, or go on to the next
epoch.  A panic is `none`. -/
def tryDeriveEmptyBatch : Option (PipelineResult SingleBatch × BatchValidator) :=
  match stage.l1Blocks, stage.origin with
  | [], _ => none
  | _, none => some (PipelineError.missingOrigin.crit, stage)
  | epoch :: rest, some origin =>
    if u64Max < epoch.number + cfg.seqWindowSize ∨ u64Max < parent.l1Origin.number + 1 ∨
        u64Max < parent.blockInfo.number + 1 then none
    else
      let nextTimestamp := cfg.l2BlockTimestamp (parent.blockInfo.number + 1)
      let sameSecond := cfg.isDenimActive nextTimestamp &&
        nextTimestamp == parent.blockInfo.timestamp
      if origin.number < epoch.number + cfg.seqWindowSize then
        some (PipelineError.eof.temp, stage)
      else
        match rest with
        | [] => some (PipelineError.eof.temp, stage)
        | nextEpoch :: _ =>
          if nextTimestamp < nextEpoch.timestamp ∨
              epoch.number = parent.l1Origin.number + 1 ∨ sameSecond then
            some (.ok (emptyBatch parent epoch nextTimestamp), stage)
          else
            some (PipelineError.eof.temp, { stage with l1Blocks := rest })

/-- How the walk over the ancestors of the safe head ends. -/
inductive Ancestry where
  | unrelated
  | ancestor
  | failed (kind : PipelineErrorKind)
deriving DecidableEq

/-- Look for the parent of a batch among the ancestors of the safe head with the
same timestamp, from a number down to the first one looked at. -/
def walkAncestors (batch : SingleBatch) (first : Nat) : Nat → B256 → Ancestry
  | 0, _ => .unrelated
  | count + 1, ancestorHash =>
    let number := first + count
    if cfg.l2BlockTimestamp (saturatingAdd number 1) ≠ batch.timestamp then
      .unrelated
    else if ancestorHash = batch.parentHash then .ancestor
    else if number = first ∨ cfg.l2BlockTimestamp number ≠ batch.timestamp then
      .unrelated
    else
      match around.blockByHash ancestorHash with
      | .error kind => .failed kind
      | .ok block => walkAncestors batch first count block.blockInfo.parentHash

variable (batch : SingleBatch)

def needsAncestryCheck : Bool :=
  let nextTimestamp :=
    cfg.l2BlockTimestamp (saturatingAdd parent.blockInfo.number 1)
  cfg.isDenimActive nextTimestamp && batch.timestamp == nextTimestamp &&
    batch.parentHash != parent.blockInfo.hash

def checkAncestry : Ancestry := if needsAncestryCheck cfg parent batch then
    let sameSecondBlocks := 1000 / DenimTimestampSchedule.denimBlockIntervalMillis
    let first := max (parent.blockInfo.number - sameSecondBlocks)
      cfg.genesis.l2.number
    walkAncestors cfg around batch first (parent.blockInfo.number - first)
      parent.blockInfo.parentHash
  else .unrelated

/-- Accept or refuse one batch. -/
def judge (inclusionBlock : BlockInfo) : Option Outcome :=
  match checkAncestry cfg around parent batch with
  | .ancestor => some ⟨PipelineError.notEnoughData.temp, stage, none⟩
  | .failed (.temporary error) => some
      ⟨error.temp, { stage with pendingBatch := some (batch, inclusionBlock) }, none⟩
  | .failed kind => some ⟨.error kind, stage, none⟩
  | .unrelated =>
    match batch.checkBatch cfg stage.l1Blocks parent inclusionBlock with
    | none => none
    | some .accept => some ⟨.ok batch, stage, some .accept⟩
    | some .future => some
        ⟨PipelineError.invalidBatchValidity.crit, stage, some .future⟩
    | some validity => some
        ⟨PipelineError.notEnoughData.temp, stage, some validity⟩

/-- Take a batch that waits for its ancestry, or one from the previous stage. -/
def takeBatch (origin : BlockInfo) : Option Outcome := match stage.pendingBatch with
  | some (batch, inclusionBlock) =>
    judge cfg around parent { stage with pendingBatch := none } batch inclusionBlock
  | none =>
    match around.supplied with
    | .error (.temporary .eof) =>
      match tryDeriveEmptyBatch cfg parent stage with
      | none => none
      | some (result, stage) => some ⟨result, stage, none⟩
    | .error kind => some ⟨.error kind, stage, none⟩
    | .ok (.span _) =>
      some ⟨PipelineError.invalidBatchType.crit, stage, none⟩
    | .ok (.single batch) => judge cfg around parent stage batch origin

/-- The window is in order when its first block is the parent's origin or the
block after it. -/
def epochMatches (epoch : BlockInfo) : Bool :=
  parent.l1Origin == epoch.id || parent.l1Origin.number + 1 == epoch.number

def afterUpdate (origin : BlockInfo) : Option Outcome :=
  if around.originBehind parent ∨ parent.l1Origin.number = origin.number then
    match around.supplied with
    | .error kind => some ⟨.error kind, stage, none⟩
    | .ok _ => some ⟨PipelineError.notEnoughData.temp, stage, none⟩
  else
    match stage.l1Blocks with
    | [] => some ⟨PipelineError.missingOrigin.crit, stage, none⟩
    | [_] => some ⟨PipelineError.missingOrigin.crit, stage, none⟩
    | epoch :: _ :: _ =>
      if u64Max < parent.l1Origin.number + 1 ∧ parent.l1Origin ≠ epoch.id then none
      else if epochMatches parent epoch then
        takeBatch cfg around parent stage origin
      else some ⟨.error (.reset (.l1OriginMismatch parent.l1Origin.number
          (epoch.number - 1))), stage, none⟩

def nextBatch : Option Outcome := match stage.updateOrigins around parent with
  | .error kind => some ⟨.error kind, stage, none⟩
  | .ok stage =>
    match stage.origin with
    | none => some ⟨PipelineError.missingOrigin.crit, stage, none⟩
    | some origin => afterUpdate cfg around parent stage origin

end BatchValidator

end BaseChain
