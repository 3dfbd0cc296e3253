/-
The batch stage before Holocene.  It keeps batches until they can be decided,
hands out the blocks of an accepted span batch one by one, and makes an empty
batch when the sequence window of the current epoch is over.
-/
import BaseChain.BatchValidator

namespace BaseChain

open PipelineError

structure BatchWithInclusionBlock where
  inclusionBlock : BlockInfo
  batch : Batch SpanBatch
deriving DecidableEq

def BatchWithInclusionBlock.checkBatch (cfg : RollupConfig)
    (data : BatchWithInclusionBlock) (l1Blocks : List BlockInfo)
    (safeHead : L2BlockInfo) (fetcher : BatchValidationProvider) :
    Option BatchValidity :=
  match data.batch with
  | .single batch => batch.checkBatch cfg l1Blocks safeHead data.inclusionBlock
  | .span batch =>
    SpanBatch.checkBatch cfg batch l1Blocks safeHead data.inclusionBlock fetcher

structure BatchQueue where
  origin : Option BlockInfo
  l1Blocks : List BlockInfo
  batches : List BatchWithInclusionBlock
  nextSpans : List SingleBatch
deriving DecidableEq

namespace BatchQueue

def new : BatchQueue := { origin := none, l1Blocks := [], batches := [], nextSpans := [] }

/-- The stage after the previous stages were reset to an origin. -/
def reset (origin : Option BlockInfo) : BatchQueue :=
  { origin, l1Blocks := origin.toList, batches := [], nextSpans := [] }

/-- Activation and a flush of the channel forget the batches. -/
def clear (stage : BatchQueue) : BatchQueue := { stage with batches := [], nextSpans := [] }

/-- How the search among the stored batches ends. -/
inductive Sweep where
  | accepted (batch : Batch SpanBatch) (batches : List BatchWithInclusionBlock)
  | undecided (batches : List BatchWithInclusionBlock)
  | past
  | exhausted (batches : List BatchWithInclusionBlock)

/-- Look for the first batch that is accepted; `kept` are the batches before it
that stay stored.  A panic of the check is `none`. -/
def sweep (check : BatchWithInclusionBlock → Option BatchValidity) (holocene : Bool) :
    List BatchWithInclusionBlock → List BatchWithInclusionBlock → Option Sweep
  | kept, [] => some (.exhausted kept)
  | kept, data :: rest =>
    match check data with
    | none => none
    | some .future =>
      sweep check holocene (if holocene then kept else kept ++ [data]) rest
    | some (.drop _) => sweep check holocene kept rest
    | some .accept => some (.accepted data.batch (kept ++ rest))
    | some .undecided => some (.undecided (kept ++ data :: rest))
    -- before Holocene the queue stays complete, a reset handles it
    | some .past => if holocene then sweep check holocene kept rest else some .past

section Calls

variable (cfg : RollupConfig) (around : Surroundings) (parent : L2BlockInfo) (stage : BatchQueue)

/-- The cached block goes out on top of the parent; without one the code
panics. -/
def popNextBatch : Option (PipelineResult SingleBatch × BatchQueue) := match stage.nextSpans with
  | [] => none
  | next :: rest => some
      (.ok { next with parentHash := parent.blockInfo.hash }, { stage with nextSpans := rest })

/-- The window's first block is neither the parent's origin nor the block after
it. -/
def epochMismatch (epoch : BlockInfo) : Bool := parent.l1Origin != epoch.id &&
    (epoch.number == 0 || parent.l1Origin.number != epoch.number - 1)

/-- Make an empty batch if the sequence window is over, or go on to the next
epoch. -/
def closeEpoch (empty : Bool) (epoch : BlockInfo) (rest : List BlockInfo)
    (origin : BlockInfo) (stage : BatchQueue) :
    Option (PipelineResult (Batch SpanBatch) × BatchQueue) :=
  if u64Max < epoch.number + cfg.seqWindowSize ∨ u64Max < parent.l1Origin.number + 1 then none
  else
    let nextTimestamp := cfg.l2BlockTimestamp (parent.blockInfo.number + 1)
    let expiryEpoch := epoch.number + cfg.seqWindowSize
    let sameSecond := cfg.isDenimActive nextTimestamp &&
      nextTimestamp == parent.blockInfo.timestamp
    if ¬ (expiryEpoch = origin.number ∧ empty ∨ expiryEpoch < origin.number) then
      some (eof.temp, stage)
    else
      match rest with
      | [] => some (eof.temp, stage)
      | nextEpoch :: _ =>
        if nextTimestamp < nextEpoch.timestamp ∨
            epoch.number = parent.l1Origin.number + 1 ∨ sameSecond then
          some (.ok (.single (BatchValidator.emptyBatch parent epoch nextTimestamp)), stage)
        else
          some (eof.temp, { stage with l1Blocks := rest })

def deriveNextBatch (empty : Bool) (stage : BatchQueue) :
    Option (PipelineResult (Batch SpanBatch) × BatchQueue) :=
  match stage.l1Blocks with
  | [] => some (missingOrigin.crit, stage)
  | epoch :: rest =>
    if epochMismatch parent epoch then some
      (.error (.reset (.l1OriginMismatch parent.l1Origin.number (epoch.number - 1))), stage)
    else
      match stage.origin with
      | none => some (missingOrigin.crit, stage)
      | some origin =>
        match sweep
          (·.checkBatch cfg (epoch :: rest) parent around.fetcher)
          (cfg.isHoloceneActive origin.timestamp) [] stage.batches with
        | none => none
        | some (.accepted batch batches) =>
          some (.ok batch, { stage with batches })
        | some (.undecided batches) =>
          some (eof.temp, { stage with batches })
        | some .past =>
          some (invalidBatchValidity.crit, stage)
        | some (.exhausted batches) =>
          closeEpoch cfg parent empty epoch rest origin { stage with batches }

/-- Store a batch unless it is dropped at once. -/
def addBatch (batch : Batch SpanBatch) (stage : BatchQueue) : Option BatchQueue :=
  match stage.l1Blocks, stage.origin with
  | [], _ => none
  | _, none => some stage
  | _, some origin =>
    match BatchWithInclusionBlock.checkBatch cfg ⟨origin, batch⟩
      stage.l1Blocks parent around.fetcher with
    | none => none
    | some (.drop _) => some stage
    | some .past => some stage
    | some .future =>
      if cfg.isHoloceneActive origin.timestamp then some stage
      else some { stage with batches := stage.batches ++ [⟨origin, batch⟩] }
    | some _ =>
      some { stage with batches := stage.batches ++ [⟨origin, batch⟩] }

/-- Take over the pipeline's origin, which is pushed onto the window unless it
is behind the parent's. -/
def takeOrigin : PipelineResult BatchQueue := if stage.origin = around.origin then .ok stage
  else if ¬ around.originBehind parent then
    match around.origin with
    | none => missingOrigin.crit
    | some origin => .ok
        { stage with
          origin := around.origin, l1Blocks := stage.l1Blocks ++ [origin] }
  else .ok { stage with origin := around.origin, l1Blocks := [] }

/-- Ask the previous stage for a batch; the answer says if it is out of data. -/
def load : Option (PipelineResult Bool × BatchQueue) := match around.supplied with
  | .ok batch =>
    if around.originBehind parent then some (.ok false, stage)
    else (addBatch cfg around parent batch stage).map (.ok false, ·)
  | .error (.temporary .eof) => some (.ok true, stage)
  | .error kind => some (.error kind, stage)

variable (outOfData : Bool)

/-- Nothing can be returned yet. -/
def waiting : PipelineResult SingleBatch := if outOfData then eof.temp
  else notEnoughData.temp

/-- Hand out a derived batch; of a span batch its first block. -/
def handOut (stage : BatchQueue) : PipelineResult (Batch SpanBatch) →
      Option (PipelineResult SingleBatch × BatchQueue)
  | .error (.temporary .eof) => some (waiting outOfData, stage)
  | .error kind => some (.error kind, stage)
  | .ok (.single batch) => some (.ok batch, stage)
  | .ok (.span batch) =>
    match batch.getSingularBatches stage.l1Blocks parent with
    | .error error => some ((badEncoding error).crit, stage)
    | .ok batches => popNextBatch parent { stage with nextSpans := batches }

def derive (stage : BatchQueue) : Option (PipelineResult SingleBatch × BatchQueue) :=
  if around.originBehind parent then some (waiting outOfData, stage)
  else
    match deriveNextBatch cfg around parent outOfData stage with
    | none => none
    | some (result, stage) => handOut parent outOfData stage result

/-- The part of a call after the cached blocks. -/
def fetchBatch : Option (PipelineResult SingleBatch × BatchQueue) := match takeOrigin around parent
    { stage with l1Blocks := advanceEpoch parent stage.l1Blocks } with
  | .error kind => some (.error kind,
      { stage with
        origin := around.origin
        l1Blocks := advanceEpoch parent stage.l1Blocks })
  | .ok stage =>
    match load cfg around parent stage with
    | none => none
    | some (.error kind, stage) => some (.error kind, stage)
    | some (.ok outOfData, stage) => derive cfg around parent outOfData stage

def nextBatch : Option (PipelineResult SingleBatch × BatchQueue) :=
  let nextTimestamp := cfg.l2BlockTimestamp (parent.blockInfo.number + 1)
  if u64Max < parent.blockInfo.number + 1 then none
  else if cfg.isDenimActive nextTimestamp then
    fetchBatch cfg around parent { stage with nextSpans := [] }
  else
    match stage.nextSpans with
    | [] => fetchBatch cfg around parent stage
    | next :: _ =>
      if next.timestamp = nextTimestamp then popNextBatch parent stage
      else fetchBatch cfg around parent { stage with nextSpans := [] }

end Calls

end BatchQueue

end BaseChain
