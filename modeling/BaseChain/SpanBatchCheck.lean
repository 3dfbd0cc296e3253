/-
The checks on a derived span batch: its prefix against the safe head and the L1
blocks, every new block against its L1 origin, and every block it shares with
the safe chain against the block of the safe chain.
-/
import BaseChain.SafeBlock
import BaseChain.SingleBatch
import BaseChain.SpanBatchDerive

namespace BaseChain

open Check

namespace SpanBatch

variable (batch : SpanBatch)

def checkParentHash (hash : B256) : Bool := batch.parentCheck.val = hash.val.take 20

def checkOriginHash (hash : B256) : Bool := batch.l1OriginCheck.val = hash.val.take 20

variable (cfg : RollupConfig)

section Prefix

variable (safeHead : L2BlockInfo)

/-- The number of the next block, unless span batches have ended before it. -/
def nextNumber : Check Nat := do
  let next ← Checked.add .panic safeHead.blockInfo.number 1
  require (¬ cfg.isDenimActive (cfg.l2BlockTimestamp next)) (.drop .spanBatchPostDenim)
  return next

/-- The L1 origin of the first block. -/
def batchOrigin (epoch : BlockInfo) (rest : List BlockInfo)
    (startingEpoch : Nat) : Check BlockInfo := do
  let nextEpoch ← Checked.add .panic epoch.number 1
  if startingEpoch = nextEpoch then
    match rest with
    | [] => stop .undecided
    | second :: _ => .ok second
  else .ok epoch

def checkTiming (origin inclusionBlock : BlockInfo)
    (nextTimestamp start final : Nat) : Check Unit := do
  require (cfg.isDeltaActive origin.timestamp) (.drop .spanBatchPreDelta)
  require (start ≤ nextTimestamp) (if cfg.isHoloceneActive inclusionBlock.timestamp then
      .drop .futureTimestampHolocene else .future)
  require (nextTimestamp ≤ final) (if cfg.isHoloceneActive inclusionBlock.timestamp then .past
      else .drop .spanBatchNoNewBlocksPreHolocene)

/-- How many blocks of the safe chain come after the one that starts the span. -/
def overlap (start : Nat) : Check Nat := if cfg.blockTime = 0 then .error .panic
  else .ok ((safeHead.blockInfo.timestamp - start) / cfg.blockTime)

variable (fetcher : BatchValidationProvider)

/-- A block of the safe chain; without it there is no verdict yet. -/
def fetchParent (number : Nat) : Check L2BlockInfo := match fetcher.l2BlockInfoByNumber number with
  | none => stop .undecided
  | some block => .ok block

/-- The block before the first block of the span. -/
def parentBlock (nextTimestamp start : Nat) : Check L2BlockInfo := if start < nextTimestamp then do
    require (start ≤ safeHead.blockInfo.timestamp) (.drop .spanBatchMisalignedTimestamp)
    require ((safeHead.blockInfo.timestamp - start) % cfg.blockTime = 0)
      (.drop .spanBatchNotOverlappedExactly)
    let overlap ← overlap cfg safeHead start
    let first ← Checked.sub .panic safeHead.blockInfo.number overlap
    let parentNum ← Checked.sub .panic first 1
    fetchParent fetcher parentNum
  else .ok safeHead

variable (batch : SpanBatch) (l1Origins : List BlockInfo)

def checkOrigins (parent : L2BlockInfo)
    (inclusionBlock : BlockInfo) (startEpoch endEpoch : Nat) : Check Unit := do
  require (batch.checkParentHash parent.blockInfo.hash) (.drop .parentHashMismatch)
  let windowEnd ← Checked.add .panic startEpoch cfg.seqWindowSize
  require (inclusionBlock.number ≤ windowEnd) (.drop .includedTooLate)
  let nextEpoch ← Checked.add .panic parent.l1Origin.number 1
  require (startEpoch ≤ nextEpoch) (.drop .epochTooFarInFuture)
  match l1Origins.find? (·.number = endEpoch) with
  | none => stop .undecided
  | some block => do
      require (batch.checkOriginHash block.hash) (.drop .epochHashMismatch)
      require (parent.l1Origin.number ≤ startEpoch) (.drop .epochTooOld)

/-- The prefix check; the parent block is returned when the prefix is
accepted. -/
def checkPrefix (safeHead : L2BlockInfo)
    (inclusionBlock : BlockInfo) (fetcher : BatchValidationProvider) :
    Check L2BlockInfo :=
  match l1Origins, batch.batches with
  | [], _ => stop .undecided
  | _, [] => stop .undecided
  | epoch :: rest, first :: more => do
      let next ← nextNumber cfg safeHead
      let origin ← batchOrigin epoch rest first.epochNum
      checkTiming cfg origin inclusionBlock (cfg.l2BlockTimestamp next)
        first.timestamp (more.getLastD first).timestamp
      let parent ← parentBlock cfg safeHead fetcher (cfg.l2BlockTimestamp next) first.timestamp
      checkOrigins cfg batch (epoch :: rest) parent inclusionBlock first.epochNum
        (more.getLastD first).epochNum
      return parent

def checkBatchPrefix (safeHead : L2BlockInfo)
    (inclusionBlock : BlockInfo) (fetcher : BatchValidationProvider) :
    Option (BatchValidity × Option L2BlockInfo) :=
  match checkPrefix cfg batch l1Origins safeHead inclusionBlock fetcher with
  | .ok parent => some (.accept, some parent)
  | .error (.verdict validity) => some (validity, none)
  | .error .panic => none

end Prefix

/-- Where the search for L1 origins stands. -/
structure Walk where
  originIndex : Nat
  originAdvanced : Bool
deriving DecidableEq

section Elements

variable (l1Blocks : List BlockInfo) (safeHead : L2BlockInfo)

/-- The L1 blocks from an index on. -/
def blocksFrom (index : Nat) : Check (List BlockInfo) :=
  if l1Blocks.length < index then .error .panic else .ok (l1Blocks.drop index)

/-- An empty block may exceed the drift when the next origin is not yet
possible. -/
def checkDrift (walk : Walk) (element : SpanBatchElement) (maxTimestamp : Nat) : Check Unit :=
  if element.timestamp ≤ maxTimestamp then .ok ()
  else if element.transactions.isEmpty then
    if walk.originAdvanced then .ok ()
    else
      match l1Blocks[walk.originIndex + 1]? with
      | none => stop .undecided
      | some next => require (element.timestamp < next.timestamp)
          (.drop .sequencerDriftNotAdoptedNextOrigin)
  else Check.drop .sequencerDriftExceeded

/-- One new block, against the L1 block it names. -/
def checkAgainst (walk : Walk) (element : SpanBatchElement) (origin : BlockInfo) : Check Walk := do
  require (origin.timestamp ≤ element.timestamp) (.drop .timestampBeforeL1Origin)
  let maxTimestamp ← Checked.add .panic origin.timestamp (cfg.maxSequencerDrift origin.timestamp)
  checkDrift l1Blocks walk element maxTimestamp
  match checkTransactions cfg element.timestamp element.transactions with
  | some reason => Check.drop reason
  | none => .ok walk

/-- One block of the span; blocks of the safe chain are skipped.  The epoch of
the block before it says whether it starts a new epoch. -/
def checkElement (previous : Option Nat) (walk : Walk) (element : SpanBatchElement) : Check Walk :=
  if element.timestamp ≤ safeHead.blockInfo.timestamp then .ok walk
  else do
    require (safeHead.l1Origin.number ≤ element.epochNum) (.drop .l1OriginBeforeSafeHead)
    let blocks ← blocksFrom l1Blocks walk.originIndex
    match blocks.zipIdx.find? (·.1.number = element.epochNum) with
    | none => Check.drop .missingL1Origin
    | some (origin, offset) =>
      checkAgainst cfg l1Blocks
        { originIndex := walk.originIndex + offset
          originAdvanced := match previous with
            | none => walk.originAdvanced
            | some epochNum => decide (epochNum < element.epochNum) }
        element origin

def checkElements : Option Nat → Walk → List SpanBatchElement → Check Walk
  | _, walk, [] => .ok walk
  | previous, walk, element :: elements => do
      let walk ← checkElement cfg l1Blocks safeHead previous walk element
      checkElements (some element.epochNum) walk elements

end Elements

section Overlap

/-- The transactions of a safe block after its deposits, from an index on. -/
def checkOverlappedTxs (txs : List BlockTransaction) (depositCount : Nat) :
    Nat → List Bytes → Check Unit
  | _, [] => .ok ()
  | index, raw :: raws => do
      let tx ← Checked.get .panic txs[index + depositCount]?
      require (tx.encoded = raw) (.drop .overlappedTxMismatch)
      checkOverlappedTxs txs depositCount (index + 1) raws

def checkOverlapped (block : BaseBlock) (element : SpanBatchElement) : Check Unit := do
  let depositCount := block.transactions.countP (·.isDeposit)
  let others ← Checked.sub .panic block.transactions.length depositCount
  require (others = element.transactions.length) (.drop .overlappedTxCountMismatch)
  checkOverlappedTxs block.transactions depositCount 0 element.transactions
  let info ← L2BlockInfo.fromBlockAndGenesis block cfg.genesis
  match info with
  | none => Check.drop .l2BlockInfoExtractionFailed
  | some info =>
    require (info.l1Origin.number = element.epochNum) (.drop .overlappedL1OriginMismatch)

variable (batch : SpanBatch) (fetcher : BatchValidationProvider)

/-- The blocks shared with the safe chain, from an index on. -/
def checkOverlap (parentNum : Nat) : Nat → Nat → Check Unit
  | 0, _ => .ok ()
  | remaining + 1, index => do
      let before ← Checked.add .panic parentNum index
      let number ← Checked.add .panic before 1
      match fetcher.blockByNumber number with
      | none => stop .undecided
      | some block => do
          let element ← Checked.get .panic batch.batches[index]?
          checkOverlapped cfg block element
          checkOverlap parentNum remaining (index + 1)

end Overlap

section Whole

variable (batch : SpanBatch) (l1Blocks : List BlockInfo) (safeHead : L2BlockInfo)
  (inclusionBlock : BlockInfo) (fetcher : BatchValidationProvider)

/-- Everything after the prefix. -/
def checkBody (parent : L2BlockInfo) : Check Unit := do
  let first ← Checked.get .panic batch.batches.head?
  let nextEpoch ← Checked.add .panic parent.l1Origin.number 1
  let _ ← checkElements cfg l1Blocks safeHead none
    { originIndex := 0, originAdvanced := first.epochNum = nextEpoch }
    batch.batches
  if first.timestamp < cfg.l2BlockTimestamp (saturatingAdd safeHead.blockInfo.number 1) then do
    let shared ← Checked.sub .panic safeHead.blockInfo.number parent.blockInfo.number
    checkOverlap cfg batch fetcher parent.blockInfo.number shared 0
  else .ok ()

def checkBatch : Option BatchValidity :=
  match checkBatchPrefix cfg batch l1Blocks safeHead inclusionBlock fetcher with
  | none => none
  | some (.accept, none) => none
  | some (.accept, some parent) =>
    match checkBody cfg batch l1Blocks safeHead fetcher parent with
    | .ok () => some .accept
    | .error (.verdict validity) => some validity
    | .error .panic => none
  | some (validity, _) => some validity

end Whole

/-- The elements after the safe head as single batches; the parent hash is set
when a batch is handed out.  Each search for an L1 origin starts at the origin
found before. -/
def singularBatches (safeHead : L2BlockInfo) : List BlockInfo → List SpanBatchElement →
      Except SpanBatchError (List SingleBatch)
  | _, [] => .ok []
  | origins, element :: rest =>
    if element.timestamp ≤ safeHead.blockInfo.timestamp then
      singularBatches safeHead origins rest
    else if element.epochNum < safeHead.l1Origin.number then
      .error .l1OriginBeforeSafeHead
    else
      match origins.dropWhile (·.number ≠ element.epochNum) with
      | [] => .error .missingL1Origin
      | origin :: later => do
          let batches ← singularBatches safeHead (origin :: later) rest
          return { parentHash := default
                   epochNum := element.epochNum, epochHash := origin.hash
                   timestamp := element.timestamp
                   transactions := element.transactions } :: batches

def getSingularBatches (l1Origins : List BlockInfo)
    (safeHead : L2BlockInfo) : Except SpanBatchError (List SingleBatch) :=
  singularBatches safeHead l1Origins batch.batches

end SpanBatch

end BaseChain
