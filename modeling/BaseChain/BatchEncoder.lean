/-
The batcher's encoder: a queue of L2 blocks, a cursor into it, a FIFO of
channels and the egress.  The operations of the pipeline are functions on the
encoder's state, and a run is any sequence of them.
-/
import BaseChain.BatcherEgress
import Mathlib.Logic.Relation

namespace BaseChain

/-- A header as far as the batcher reads it; `remainder` stands for the fields
that only the block hash depends on. -/
structure L2Header where
  parentHash : B256
  number : Nat
  timestamp : Fin (2 ^ 64)
  remainder : Bytes

inductive L2Transaction where
  | deposit (input : Bytes)
  | signed (encoded2718 : Bytes)

structure L2Block where
  header : L2Header
  transactions : List L2Transaction

/-- What the encoder calls and does not define: the Brotli writer, the header
hash, the L1 info calldata decoder and the size estimate of a transaction. -/
structure BatcherExternals where
  brotli : BrotliWriter
  hashSlow : L2Header → B256
  decodeL1Info : Bytes → Option (Fin (2 ^ 64) × B256)
  txEstimatedSize : Bytes → Nat

inductive BatchComposeError where
  | emptyBlock
  | notDepositTx
  | l1InfoDecode
deriving Repr, DecidableEq

/-- The encodings of a block's user transactions. -/
def L2Block.userTransactions (block : L2Block) : List Bytes := block.transactions.filterMap fun
    | .deposit _ => none
    | .signed encoded => some encoded

def blockToSingleBatch (externals : BatcherExternals) (block : L2Block) :
    Except BatchComposeError SingleBatch :=
  match block.transactions with
  | [] => .error .emptyBlock
  | .signed _ :: _ => .error .notDepositTx
  | .deposit input :: _ =>
    match externals.decodeL1Info input with
    | none => .error .l1InfoDecode
    | some (number, hash) =>
      .ok
        { parentHash := block.header.parentHash
          epochNum := number
          epochHash := hash
          timestamp := block.header.timestamp
          transactions := block.userTransactions }

structure BufferedBlock where
  block : L2Block
  estimatedDaBytes : Nat

namespace BufferedBlock

def batchOverheadBytes : Nat := 70

def new (externals : BatcherExternals) (block : L2Block) : BufferedBlock :=
  { block := block
    estimatedDaBytes := batchOverheadBytes +
      (block.userTransactions.map externals.txEstimatedSize).sum }

end BufferedBlock

inductive StepResult where
  | blockEncoded
  | channelClosed
  | idle
deriving Repr, DecidableEq

inductive StepError where
  | compositionFailed (cursor : Nat) (source : BatchComposeError)
  | blockExceedsChannelLimit (cursor : Nat) (limit : ChannelLimit)
  | channel (error : ChannelError)
deriving Repr, DecidableEq

inductive ReorgError where
  | parentMismatch (expected got : B256)
deriving DecidableEq

inductive DerivationReconciliation where
  | consistent
  | safeHeadMismatch
  | stalledChannel
deriving Repr, DecidableEq

/-- The encoder.  `rng` is the stream of channel ids still to be drawn;
`drawn` is not a field of the source and records the ids drawn so far. -/
structure BatchEncoder (externals : BatcherExternals) where
  rollupConfig : RollupConfig
  config : EncoderConfig
  l1Head : Nat
  blocks : List BufferedBlock
  blockCursor : Nat
  tip : Option B256
  channels : List (BatcherChannel externals.brotli)
  egress : DaEgress
  nextId : Nat
  rng : Nat → ChannelId
  blobOverride : Bool
  deferredStepError : Option StepError
  drawn : List ChannelId

/-- The channels and artifacts that a replay has to cover. -/
structure Affected where
  channels : List ChannelId
  artifacts : List ArtifactId

namespace Affected

def size (affected : Affected) : Nat := affected.channels.length + affected.artifacts.length

/-- An artifact is affected when one of its channels is, and then all of its
channels are. -/
def absorb (affected : Affected) (artifact : DaArtifact) : Affected :=
  if artifact.channelIds.any (· ∈ affected.channels) || artifact.id ∈ affected.artifacts then
    { channels := artifact.channelIds.foldl pushNew affected.channels
      artifacts := pushNew affected.artifacts artifact.id }
  else
    affected

end Affected

variable {externals : BatcherExternals} (encoder : BatchEncoder externals)

namespace BatchEncoder

def new (rollupConfig : RollupConfig) (config : EncoderConfig) (rng : Nat → ChannelId) :
    Except EncoderConfigError (BatchEncoder externals) :=
  match config.validate with
  | .error error => .error error
  | .ok () =>
    .ok
      { rollupConfig := rollupConfig
        config := config
        l1Head := 0
        blocks := []
        blockCursor := 0
        tip := none
        channels := []
        egress := DaEgress.new
        nextId := 0
        rng := rng
        blobOverride := false
        deferredStepError := none
        drawn := [] }

/-- Close the last channel if it is open and not empty. -/
def closeCurrentChannel : Except StepError Unit × BatchEncoder externals :=
  match encoder.channels.getLast? with
  | none => (.ok (), encoder)
  | some channel =>
    if !channel.isOpen || channel.isEmpty then
      (.ok (), encoder)
    else
      let (result, channel) := channel.close
      (result.mapError .channel,
        { encoder with channels := encoder.channels.dropLast ++ [channel] })

def deferStepError (error : StepError) : BatchEncoder externals :=
  if encoder.deferredStepError.isNone then
    { encoder with deferredStepError := some error }
  else
    encoder

/-- Push a fresh channel; `none` is the failed `expect` on its
configuration. -/
def openNewChannel (blockStart : Nat) : MayPanic (BatchEncoder externals) :=
  let id := encoder.rng 0
  match BatcherChannel.new id encoder.rollupConfig encoder.config blockStart
      encoder.l1Head with
  | .error _ => none
  | .ok channel =>
    some { encoder with
      channels := encoder.channels ++ [channel]
      rng := fun index => encoder.rng (index + 1)
      drawn := encoder.drawn ++ [id] }

def checkChannelTimeout : Except StepError Bool × BatchEncoder externals :=
  let shouldClose := encoder.channels.getLast?.any
    fun channel => channel.isOpen && channel.deadlineDue encoder.l1Head
  if shouldClose then
    let (result, encoder) := encoder.closeCurrentChannel
    (result.map fun _ => true, encoder)
  else
    (.ok false, encoder)

/-- One pass of the replay closure: artifacts, submissions, channel suffix. -/
def expandAffected (affected : Affected) : Affected :=
  let affected := encoder.egress.artifacts.artifacts.foldl Affected.absorb
    affected
  let artifacts :=
    encoder.egress.extendWithSubmissionArtifacts affected.artifacts
  let replayed := (encoder.channels.dropWhile
    fun channel => channel.id ∉ affected.channels).map (·.id)
  { channels := replayed.foldl pushNew affected.channels
    artifacts := artifacts }

/-- Expand until a pass adds nothing. -/
def closeAffected : Nat → Affected → Affected
  | 0, affected => affected
  | passes + 1, affected =>
    let expanded := encoder.expandAffected affected
    if expanded.channels.length = affected.channels.length ∧
        expanded.artifacts.length = affected.artifacts.length then
      expanded
    else
      closeAffected passes expanded

/-- Everything that a replay could ever add, counted once. -/
def affectedBound : Nat := 1 + (encoder.egress.artifacts.artifacts.flatMap (·.channelIds)).length +
    encoder.egress.artifacts.artifacts.length +
    (encoder.egress.pending.flatMap (·.2)).length + encoder.channels.length

/-- Everything that shares artifacts, submissions or a later place in the FIFO
with a channel. -/
def affectedFrom (channel : BatcherChannel externals.brotli) : Affected :=
  encoder.closeAffected (encoder.affectedBound + 1) { channels := [channel.id], artifacts := [] }

/-- Replay a channel with everything it affects. -/
def invalidateChannel (channelIdx : Nat) : BatchEncoder externals :=
  match encoder.channels[channelIdx]? with
  | none => encoder
  | some channel =>
    let affected := encoder.affectedFrom channel
    let replayIdx := (encoder.channels.findIdx?
      fun channel => channel.id ∈ affected.channels).getD channelIdx
    let replayFrom := (encoder.channels[replayIdx]?.map (·.blockStart)).getD 0
    { encoder with
      egress := encoder.egress.invalidateArtifacts affected.artifacts
      channels := encoder.channels.take replayIdx
      blockCursor := min encoder.blockCursor replayFrom }

/-- A channel whose confirmations no longer fit the derivation timeout. -/
def channelExpired (channelTimeout : Nat) (channel : BatcherChannel externals.brotli) : Bool :=
  match channel.firstConfirmedL1Block with
  | none => false
  | some first =>
    let inclusionSpan := channel.lastConfirmedL1Block.getD first - first
    if inclusionSpan > channelTimeout then
      true
    else
      !encoder.egress.channelFullyConfirmed channel &&
        encoder.l1Head > saturatingAdd first channelTimeout

def invalidateExpiredChannels : BatchEncoder externals :=
  let channelTimeout :=
    EncoderConfig.confirmationChannelTimeout encoder.rollupConfig
  match encoder.channels.findIdx? (encoder.channelExpired channelTimeout) with
  | none => encoder
  | some channelIdx => encoder.invalidateChannel channelIdx

def rebaseAfterBlockPrune (pruneCount : Nat) : BatchEncoder externals :=
  { encoder with
    blockCursor := encoder.blockCursor - pruneCount
    channels := encoder.channels.map (·.rebaseAfterPrune pruneCount) }

/-- Drop the first `pruneCount` blocks and the channels they cover. -/
def pruneBlocks (pruneCount : Nat) (safeHash : B256) : BatchEncoder externals :=
  let covered := encoder.channels.takeWhile
    fun channel => channel.blockEnd ≤ pruneCount
  let encoder :=
    if covered.length > 0 then
      { encoder with
        channels := encoder.channels.drop covered.length
        egress := encoder.egress.pruneChannels (covered.map (·.id)) }
    else
      encoder
  let encoder := ({ encoder with
    blocks := encoder.blocks.drop pruneCount }).rebaseAfterBlockPrune pruneCount
  if encoder.blocks.isEmpty then
    { encoder with tip := some safeHash }
  else
    encoder

def pruneSafe (safeL2 : BlockInfo) : Bool × BatchEncoder externals := match encoder.blocks with
  | [] => (true, { encoder with tip := some safeL2.hash })
  | oldest :: _ =>
    let oldestNumber := oldest.block.header.number
    -- a release build wraps here
    let nextSafe := (safeL2.number + 1) % 2 ^ 64
    if nextSafe < oldestNumber then
      (false, encoder)
    else
      let pruneCount := nextSafe - oldestNumber
      if pruneCount > encoder.blocks.length then
        (false, encoder)
      else if pruneCount = 0 then
        (oldest.block.header.parentHash = safeL2.hash, encoder)
      else
        match encoder.blocks[pruneCount - 1]? with
        | none => (false, encoder)
        | some block =>
          if externals.hashSlow block.block.header ≠ safeL2.hash then
            (false, encoder)
          else
            (true, encoder.pruneBlocks pruneCount safeL2.hash)

def isDerivationStalled (currentL1 : Nat) (safeL2 : BlockInfo) : Bool :=
  encoder.channels.any fun channel =>
    encoder.egress.channelFullyConfirmed channel && match channel.lastConfirmedL1Block with
      | none => false
      | some lastInclusion =>
        lastInclusion < currentL1 && channel.blockEnd ≠ 0 &&
          (encoder.blocks[channel.blockEnd - 1]?).any (safeL2.number < ·.block.header.number)

def flushChannels : Except StepError Unit × BatchEncoder externals :=
  match encoder.closeCurrentChannel with
  | (.error error, encoder) => (.error error, encoder)
  | (.ok (), encoder) =>
    (.ok (), { encoder with
      channels := encoder.channels.map (·.releaseAt encoder.l1Head) })

def addBlock (block : L2Block) : Except ReorgError Unit × BatchEncoder externals :=
  let accepted : BatchEncoder externals :=
    { encoder with
      tip := some (externals.hashSlow block.header)
      blocks := encoder.blocks ++ [BufferedBlock.new externals block] }
  match encoder.tip with
  | none => (.ok (), accepted)
  | some expected =>
    if block.header.parentHash ≠ expected then
      (.error (.parentMismatch expected block.header.parentHash), encoder)
    else
      (.ok (), accepted)

/-- The part of `step` that adds a composed batch to the last channel. -/
def stepBatch (batch : SingleBatch) (daBacklogBytes : Nat) :
    MayPanic (Except StepError StepResult × BatchEncoder externals) :=
  match encoder.channels.getLast? with
  | none => none
  | some channel =>
    let (outcome, channel) := channel.addBatch batch daBacklogBytes
    let encoder :=
      { encoder with channels := encoder.channels.dropLast ++ [channel] }
    match outcome with
    | .error error => some (.error (.channel error), encoder)
    | .ok .accepted =>
      some (.ok .blockEncoded, { encoder with blockCursor := encoder.blockCursor + 1 })
    | .ok .targetReached =>
      let (result, encoder) := ({ encoder with
        blockCursor := encoder.blockCursor + 1 }).closeCurrentChannel
      some (result.map fun _ => .channelClosed, encoder)
    | .ok (.rejected limit) =>
      if channel.isEmpty then
        -- the block fits no channel: discard the empty one and fail
        some (.error (.blockExceedsChannelLimit encoder.blockCursor limit),
          { encoder with channels := encoder.channels.dropLast })
      else
        let (result, encoder) := encoder.closeCurrentChannel
        some (result.map fun _ => .channelClosed, encoder)

/-- The guard of `step` that opens a channel for the next block. -/
def ensureOpenChannel : MayPanic (BatchEncoder externals) :=
  if (encoder.channels.getLast?).any (·.isOpen) then some encoder
  else encoder.openNewChannel encoder.blockCursor

/-- The part of `step` that composes the block at the cursor. -/
def stepBlock : MayPanic (Except StepError StepResult × BatchEncoder externals) :=
  match encoder.blocks[encoder.blockCursor]? with
  | none => some (.ok .idle, encoder)
  | some buffered =>
    match blockToSingleBatch externals buffered.block with
    | .error source =>
      some (.error (.compositionFailed encoder.blockCursor source), encoder)
    | .ok batch => do
        let encoder ← encoder.ensureOpenChannel
        encoder.stepBatch batch buffered.estimatedDaBytes

def step : MayPanic (Except StepError StepResult × BatchEncoder externals) :=
  match encoder.deferredStepError with
  | some error => some (.error error, { encoder with deferredStepError := none })
  | none =>
    match encoder.checkChannelTimeout with
    | (.error error, encoder) => some (.error error, encoder)
    | (.ok true, encoder) => some (.ok .channelClosed, encoder)
    | (.ok false, encoder) => encoder.stepBlock

def effectiveDaType : DaType :=
  if encoder.blobOverride && encoder.config.daType = .calldata then .blob
  else encoder.config.daType

def nextSubmission : MayPanic (Option BatchSubmission × BatchEncoder externals) := do
  let (submission, egress, channels) ← encoder.egress.nextSubmission
    encoder.channels encoder.effectiveDaType encoder.l1Head
    encoder.config.maxBlobsPerTx encoder.nextId
  let encoder := { encoder with egress := egress, channels := channels }
  match submission with
  | none => return (none, encoder)
  | some submission =>
    return (some submission, { encoder with nextId := encoder.nextId + 1 })

/-- Record a confirmation on the first channel with the given id. -/
def recordConfirmation (l1Block : Nat) (channelId : ChannelId) :
    List (BatcherChannel externals.brotli) → List (BatcherChannel externals.brotli)
  | [] => []
  | channel :: channels =>
    if channel.id = channelId then
      channel.recordConfirmation l1Block :: channels
    else
      channel :: recordConfirmation l1Block channelId channels

def confirm (id : SubmissionId) (l1Block : Nat) : BatchEncoder externals :=
  match encoder.egress.confirm id with
  | (none, egress) => { encoder with egress := egress }
  | (some channelIds, egress) =>
    { encoder with
      egress := egress
      channels := channelIds.foldl (fun channels channelId =>
          recordConfirmation l1Block channelId channels)
        encoder.channels }

def requeue (id : SubmissionId) : BatchEncoder externals :=
  { encoder with egress := encoder.egress.requeue id }

def flush : Except StepError Unit × BatchEncoder externals := encoder.flushChannels

def advanceL1Head (l1Block : Nat) : BatchEncoder externals :=
  let advanced := l1Block > encoder.l1Head
  let encoder := if advanced then { encoder with l1Head := l1Block } else encoder
  if encoder.deferredStepError.isSome then
    encoder
  else
    let encoder :=
      if advanced then
        match encoder.checkChannelTimeout with
        | (.error error, encoder) => encoder.deferStepError error
        | (.ok _, encoder) => encoder
      else
        encoder
    encoder.invalidateExpiredChannels

/-- The submission counter survives a reset, so stale ids never come back. -/
def reset (rng : Nat → ChannelId) : BatchEncoder externals :=
  { encoder with
    blocks := []
    blockCursor := 0
    tip := none
    channels := []
    egress := encoder.egress.reset
    deferredStepError := none
    rng := rng }

def reconcileDerivation (safeL2 : BlockInfo) (currentL1 : Nat) :
    DerivationReconciliation × BatchEncoder externals :=
  match encoder.pruneSafe safeL2 with
  | (false, encoder) => (.safeHeadMismatch, encoder)
  | (true, encoder) =>
    if encoder.isDerivationStalled currentL1 safeL2 then
      (.stalledChannel, encoder)
    else
      (.consistent, encoder)

def setBlobOverride (active : Bool) : BatchEncoder externals :=
  { encoder with blobOverride := active }

end BatchEncoder

/-- The operations of the batch pipeline. -/
inductive PipelineOp where
  | addBlock (block : L2Block)
  | step
  | nextSubmission
  | confirm (id : SubmissionId) (l1Block : Nat)
  | requeue (id : SubmissionId)
  | flush
  | advanceL1Head (l1Block : Nat)
  | reset (rng : Nat → ChannelId)
  | reconcileDerivation (safeL2 : BlockInfo) (currentL1 : Nat)
  | setBlobOverride (active : Bool)

namespace BatchEncoder

/-- The step error an operation returns, if any. -/
def stepError {α : Type} : Except StepError α → Option StepError
  | .ok _ => none
  | .error error => some error

/-- One operation: its step error and the state it leaves. -/
def perform : PipelineOp → MayPanic (Option StepError × BatchEncoder externals)
  | .addBlock block => some (none, (encoder.addBlock block).2)
  | .step => encoder.step.map fun (result, after) => (stepError result, after)
  | .nextSubmission => encoder.nextSubmission.map fun (_, after) => (none, after)
  | .confirm id l1Block => some (none, encoder.confirm id l1Block)
  | .requeue id => some (none, encoder.requeue id)
  | .flush => some (stepError encoder.flush.1, encoder.flush.2)
  | .advanceL1Head l1Block => some (none, encoder.advanceL1Head l1Block)
  | .reset rng => some (none, encoder.reset rng)
  | .reconcileDerivation safeL2 currentL1 =>
    some (none, (encoder.reconcileDerivation safeL2 currentL1).2)
  | .setBlobOverride active => some (none, encoder.setBlobOverride active)

variable (before after : BatchEncoder externals)

/-- One operation that returns no step error. -/
def Steps : Prop := ∃ op, before.perform op = some (none, after)

/-- Any sequence of operations. -/
def Runs : BatchEncoder externals → BatchEncoder externals → Prop := Relation.ReflTransGen Steps

/-- A state that some sequence of operations reaches from a fresh encoder. -/
def Reachable : Prop := ∃ rollupConfig config rng fresh,
    new rollupConfig config rng = .ok fresh ∧ Runs fresh encoder

/-- One operation, also one that returns a step error. -/
def Transition : Prop := ∃ op error, before.perform op = some (error, after)

/-- Any sequence of operations, step errors included. -/
def Traces : BatchEncoder externals → BatchEncoder externals → Prop :=
  Relation.ReflTransGen Transition

/-- A state that a fresh encoder comes to, step errors included. -/
def Traced : Prop := ∃ rollupConfig config rng fresh,
    new rollupConfig config rng = .ok fresh ∧ Traces fresh encoder

variable {encoder : BatchEncoder externals}

/-- An invariant of fresh encoders that every operation keeps. -/
theorem Reachable.invariant {P : BatchEncoder externals → Prop}
    (hnew : ∀ rollupConfig config rng fresh, new rollupConfig config rng = .ok fresh → P fresh)
    (hstep : ∀ before after, P before → Steps before after → P after)
    (hreach : Reachable encoder) :
    P encoder := by
  obtain ⟨rollupConfig, config, rng, fresh, hfresh, hrun⟩ := hreach
  induction hrun with
  | refl => exact hnew _ _ _ _ hfresh
  | tail _ hlast ih => exact hstep _ _ ih hlast

variable {after before : BatchEncoder externals}

theorem Reachable.next (hreach : Reachable before) (hstep : Steps before after) :
    Reachable after := by
  obtain ⟨rollupConfig, config, rng, fresh, hfresh, hrun⟩ := hreach
  exact ⟨rollupConfig, config, rng, fresh, hfresh, hrun.tail hstep⟩

theorem Reachable.traced (hreach : Reachable encoder) : Traced encoder := by
  obtain ⟨rollupConfig, config, rng, fresh, hfresh, hrun⟩ := hreach
  refine ⟨rollupConfig, config, rng, fresh, hfresh, Relation.ReflTransGen.mono ?_ _ _ hrun⟩
  rintro before after ⟨op, hop⟩
  exact ⟨op, none, hop⟩

/-- The state after a list of operations without step error. -/
def performAll (encoder : BatchEncoder externals) :
    List PipelineOp → Option (BatchEncoder externals)
  | [] => some encoder
  | op :: ops =>
    match encoder.perform op with
    | some (none, next) => next.performAll ops
    | _ => none

theorem runs_of_performAll {ops : List PipelineOp} (hrun : before.performAll ops = some after) :
    Runs before after := by
  induction ops generalizing before with
  | nil =>
    cases hrun
    exact .refl
  | cons op ops ih =>
    rw [performAll] at hrun
    split at hrun
    · rename_i next hop
      exact .head ⟨op, hop⟩ (ih hrun)
    · cases hrun

end BatchEncoder

/-! A pipeline whose compressor stores its input, and one run of it: a block
is buffered, composed, flushed and leased. -/

def zeroHash : B256 := ⟨List.replicate 32 0, by decide⟩

def storedExternals : BatcherExternals where
  brotli := storedBrotli
  hashSlow header := header.parentHash
  decodeL1Info _ := some (0, zeroHash)
  txEstimatedSize := List.length

def storedRollupConfig : RollupConfig where
  genesis := { l1 := ⟨0, zeroHash⟩, l2 := ⟨0, zeroHash⟩, l2Time := 0 }
  blockTime := 2
  maxSequencerDriftSeconds := 600
  seqWindowSize := 3600
  channelTimeoutBlocks := 300
  graniteChannelTimeout := 50
  l2ChainId := 8453
  activation _ := some 0

def storedConfig : EncoderConfig where
  maxFrameSize := 1000
  compressedSizeTarget := none
  maxChannelDuration := 10
  subSafetyMargin := 4
  maxBlobsPerTx := 2
  daType := .blob
  brotliLevel := 10

def storedBlock : L2Block where
  header := { parentHash := zeroHash, number := 1, timestamp := 2, remainder := [] }
  transactions := [.deposit [], .signed [1, 2, 3]]

def storedFresh : BatchEncoder storedExternals where
  rollupConfig := storedRollupConfig
  config := storedConfig
  l1Head := 0
  blocks := []
  blockCursor := 0
  tip := none
  channels := []
  egress := DaEgress.new
  nextId := 0
  rng _ := ⟨List.replicate 16 0, by decide⟩
  blobOverride := false
  deferredStepError := none
  drawn := []

def storedRun : BatchEncoder storedExternals := (storedFresh.performAll
    [.addBlock storedBlock, .step, .flush, .nextSubmission]).getD storedFresh

theorem storedRun_reachable : storedRun.Reachable :=
  ⟨storedRollupConfig, storedConfig, storedFresh.rng, storedFresh, rfl,
    BatchEncoder.runs_of_performAll (show storedFresh.performAll
      [.addBlock storedBlock, .step, .flush, .nextSubmission] = some storedRun from rfl)⟩

end BaseChain
