/-
The stage between the channel reader and the batch stage.  After Holocene it
checks the prefix of a span batch when it pulls it, and hands out the blocks of
the span batch one by one.
-/
import BaseChain.BatchValidator

namespace BaseChain

open PipelineError

/-- The previous stage, over its own states. -/
structure BatchStreamProvider (σ : Type) where
  nextBatch : σ → PipelineResult (Batch SpanBatch) × σ
  flush : σ → σ
  origin : σ → Option BlockInfo
  advanceOrigin : σ → PipelineResult Unit × σ

structure BatchStream (σ : Type) where
  prev : σ
  span : Option SpanBatch
  buffer : List SingleBatch
deriving DecidableEq

namespace BatchStream

/-- What the next stage asks with, and the L2 chain provider at that time. -/
structure Call where
  parent : L2BlockInfo
  l1Origins : List BlockInfo
  fetcher : BatchValidationProvider

variable {σ : Type} (cfg : RollupConfig) (provider : BatchStreamProvider σ)

def new (prev : σ) : BatchStream σ := { prev, span := none, buffer := [] }

variable (stage : BatchStream σ)

def isActive : PipelineResult Bool := match provider.origin stage.prev with
  | none => missingOrigin.crit
  | some origin => .ok (cfg.isHoloceneActive origin.timestamp)

def flush (stage : BatchStream σ) : BatchStream σ := match isActive cfg provider stage with
  | .ok true => { prev := provider.flush stage.prev, span := none, buffer := [] }
  | _ => stage

variable (call : Call)

/-- The buffer with the blocks of the staged span batch. -/
def hydrated : Except SpanBatchError (List SingleBatch) := match stage.span with
  | none => .ok stage.buffer
  | some span => do
      let batches ← span.getSingularBatches call.l1Origins call.parent
      return stage.buffer ++ batches

def getSingleBatch : PipelineResult (Batch SpanBatch) × BatchStream σ :=
  match stage.hydrated call with
  | .error _ => (notEnoughData.temp,
      flush cfg provider { stage with span := none })
  | .ok [] => (notEnoughData.temp,
      { stage with span := none, buffer := [] })
  | .ok (batch :: rest) =>
    (.ok (.single { batch with parentHash := call.parent.blockInfo.hash }),
      { stage with span := none, buffer := rest })

/-- Stage a span batch that was pulled if its prefix is accepted. -/
def stageSpan (inclusionBlock : BlockInfo) (batch : SpanBatch) :
    Option (PipelineResult (Batch SpanBatch) × BatchStream σ) :=
  match batch.checkBatchPrefix cfg call.l1Origins call.parent inclusionBlock
    call.fetcher with
  | none => none
  | some (.accept, _) =>
    some (getSingleBatch cfg provider { stage with span := some batch } call)
  | some (.drop _, _) =>
    some (notEnoughData.temp, flush cfg provider stage)
  | some (.past, _) =>
    match isActive cfg provider stage with
    | .error kind => some (.error kind, stage)
    | .ok false => some (invalidBatchValidity.crit, stage)
    | .ok true => some (notEnoughData.temp, stage)
  | some (.undecided, _) => some (notEnoughData.temp, stage)
  | some (.future, _) => some (notEnoughData.temp, stage)

/-- Take a batch from the previous stage. -/
def pull : Option (PipelineResult (Batch SpanBatch) × BatchStream σ) :=
  match provider.origin stage.prev with
  | none => some (missingOrigin.crit, stage)
  | some inclusionBlock =>
    match provider.nextBatch stage.prev with
    | (.error kind, prev) => some (.error kind, { stage with prev })
    | (.ok (.single batch), prev) =>
      some (.ok (.single batch), { stage with prev })
    | (.ok (.span batch), prev) =>
      stageSpan cfg provider { stage with prev } call inclusionBlock batch

/-- The next block comes after Denim, and there is something left of a span
batch. -/
def stale : Bool := cfg.isDenimActive (cfg.l2BlockTimestamp (call.parent.blockInfo.number + 1)) &&
    (stage.span.isSome || !stage.buffer.isEmpty)

def nextBatch (stage : BatchStream σ) (call : Call) :
    Option (PipelineResult (Batch SpanBatch) × BatchStream σ) :=
  match isActive cfg provider stage with
  | .error kind => some (.error kind, stage)
  | .ok false =>
    let (result, prev) := provider.nextBatch stage.prev
    some (result, { stage with prev })
  | .ok true =>
    if u64Max < call.parent.blockInfo.number + 1 then none
    else if stale cfg stage call then
      some (notEnoughData.temp, flush cfg provider stage)
    else if stage.buffer.isEmpty then pull cfg provider stage call
    else some (getSingleBatch cfg provider stage call)

/-- What happens to the stage: a call, an advance of the pipeline, or a flush
that the next stage asks for. -/
inductive Event where
  | call (call : Call)
  | advanceOrigin
  | flush

/-- The batch that is handed out, if any, and the stage afterwards; a panic is
`none`. -/
def step : Event → Option (Option (Batch SpanBatch) × BatchStream σ)
  | .call call =>
    (nextBatch cfg provider stage call).map fun (result, stage) =>
      (result.toOption, stage)
  | .advanceOrigin =>
    some (none, { stage with prev := (provider.advanceOrigin stage.prev).2 })
  | .flush => some (none, flush cfg provider stage)

/-- The batches handed out along a run. -/
def emitted : BatchStream σ → List Event → List (Batch SpanBatch)
  | _, [] => []
  | stage, event :: events =>
    match step cfg provider stage event with
    | none => []
    | some (batch, stage) => batch.toList ++ emitted stage events

end BatchStream

end BaseChain
