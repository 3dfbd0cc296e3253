/-
The checks on a single batch against the safe head and the window of L1 blocks.
-/
import BaseChain.BatchValidity
import BaseChain.SingleBatch

namespace BaseChain

open Check

namespace RollupConfig

variable (cfg : RollupConfig)

/-- The first block at or after the Jovian activation. -/
def isFirstJovianBlock (timestamp parentTimestamp : Nat) : Bool :=
  cfg.isJovianActive timestamp && !cfg.isJovianActive parentTimestamp

end RollupConfig

namespace SingleBatch

variable (cfg : RollupConfig) (batch : SingleBatch) (l1Blocks : List BlockInfo)
  (safeHead : L2BlockInfo) (inclusionBlock : BlockInfo)

def checkBatchTimestamp : Check Unit :=
  let nextTimestamp :=
    cfg.l2BlockTimestamp (saturatingAdd safeHead.blockInfo.number 1)
  if nextTimestamp < batch.timestamp then
    stop (if cfg.isHoloceneActive inclusionBlock.timestamp then
      .drop .futureTimestampHolocene else .future)
  else if batch.timestamp < nextTimestamp then
    stop (if cfg.isHoloceneActive inclusionBlock.timestamp then .past
      else .drop .pastTimestampPreHolocene)
  else .ok ()

/-- The batch shares the whole second of its parent after Denim. -/
def sameSecond : Bool := cfg.isDenimActive batch.timestamp &&
    batch.timestamp == safeHead.blockInfo.timestamp

/-- The L1 block the batch names: the first of the window or the second. -/
def batchOrigin (epoch : BlockInfo) (rest : List BlockInfo) : Check BlockInfo :=
  if batch.epochNum < epoch.number then Check.drop .epochTooOld
  else if batch.epochNum = epoch.number then .ok epoch
  else do
    let nextEpoch ← Checked.add .panic epoch.number 1
    if batch.epochNum = nextEpoch then
      match rest with
      | [] => stop .undecided
      | second :: _ => .ok second
    else Check.drop .epochTooFarInFuture

/-- An empty batch may exceed the drift unless the next origin was possible. -/
def checkDrift (epoch origin : BlockInfo) (rest : List BlockInfo) : Check Unit :=
  let maxTimestamp := origin.timestamp + cfg.maxSequencerDrift origin.timestamp
  if u64Max < maxTimestamp then Check.drop .sequencerDriftOverflow
  else if batch.timestamp ≤ maxTimestamp then .ok ()
  else if ¬ batch.transactions.isEmpty then Check.drop .sequencerDriftExceeded
  else if epoch.number = origin.number ∧ ¬ batch.sameSecond cfg safeHead then
    match rest with
    | [] => stop .undecided
    | next :: _ => require (batch.timestamp < next.timestamp)
        (.drop .sequencerDriftNotAdoptedNextOrigin)
  else .ok ()

def check : Check Unit := match l1Blocks with
  | [] => stop .undecided
  | epoch :: rest => do
      batch.checkBatchTimestamp cfg safeHead inclusionBlock
      require (batch.parentHash = safeHead.blockInfo.hash) (.drop .parentHashMismatch)
      require (¬ (batch.sameSecond cfg safeHead ∧ batch.epoch ≠ safeHead.l1Origin))
        (.drop .sameSecondOriginChange)
      let windowEnd ← Checked.add .panic batch.epochNum cfg.seqWindowSize
      require (inclusionBlock.number ≤ windowEnd) (.drop .includedTooLate)
      let origin ← batch.batchOrigin epoch rest
      require (batch.epochHash = origin.hash) (.drop .epochHashMismatch)
      require (origin.timestamp ≤ batch.timestamp) (.drop .timestampBeforeL1Origin)
      batch.checkDrift cfg safeHead epoch origin rest
      require (¬ (cfg.isFirstJovianBlock batch.timestamp safeHead.blockInfo.timestamp ∧
          ¬ batch.transactions.isEmpty)) (.drop .nonEmptyTransitionBlock)
      match checkTransactions cfg batch.timestamp batch.transactions with
      | some reason => Check.drop reason
      | none => .ok ()

def checkBatch : Option BatchValidity := (batch.check cfg l1Blocks safeHead inclusionBlock).verdict

end SingleBatch

end BaseChain
