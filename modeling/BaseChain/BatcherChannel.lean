/-
One derivation channel of the batcher: admission of batches against the
protocol limits, and a byte FIFO of compressed output from which numbered
frames are cut.
-/
import BaseChain.EncoderConfig

namespace BaseChain

/-- A computation whose `none` is a failed `expect`. -/
abbrev MayPanic (α : Type) := Option α

inductive ChannelLimit where
  | rlpBytes (required maximum : Nat)
  | frameCount (required maximum : Nat)
  | assembledBytes (required maximum : Nat)
deriving Repr, DecidableEq

inductive ChannelAddOutcome where
  | accepted
  | targetReached
  | rejected (limit : ChannelLimit)
deriving Repr, DecidableEq

inductive ChannelError where
  | compression (error : CompressionError)
  | closed
  | outputUnderflow (requested available : Nat)
  | tooManyFrames (frameCount maximum : Nat)
  | invalidTerminalTransition
deriving Repr, DecidableEq

/-- The channel of the batcher.  `emitted` is not a field of the source: it
records every byte the compressor has handed over, so that the output FIFO can
be compared with it. -/
structure BatcherChannel (brotli : BrotliWriter) where
  id : ChannelId
  rollupConfig : RollupConfig
  compressor : Option (CompressionStream brotli)
  output : List Bytes
  availableOutput : Nat
  compressedBytes : Nat
  maxFrameSize : Nat
  compressedSizeTarget : Option Nat
  inputBytes : Nat
  blockStart : Nat
  blocksAdded : Nat
  daBacklogBytes : Nat
  openedL1Block : Nat
  deadlineL1Block : Nat
  nextFrameNumber : Nat
  terminalPending : Bool
  firstConfirmedL1Block : Option Nat
  lastConfirmedL1Block : Option Nat
  emitted : Bytes

/-- What taking output leaves: the bytes asked for and the rest of the FIFO.
It panics when the chunks run out. -/
def takeOutput : Nat → List Bytes → MayPanic (Bytes × List Bytes)
  | 0, output => some ([], output)
  | _ + 1, [] => none
  | remaining + 1, chunk :: output =>
    let consumed := min (remaining + 1) chunk.length
    if consumed < chunk.length then
      some (chunk.take consumed, chunk.drop consumed :: output)
    else
      (takeOutput (remaining + 1 - consumed) output).map
        fun (data, output) => (chunk.take consumed ++ data, output)

namespace BatcherChannel

variable {brotli : BrotliWriter}

def maxFrames : Nat := 65535

def flushInterval (target : Nat) : Option Nat :=
  let interval := divCeil target 4
  if interval = 0 then none else some interval

/-- A fresh channel; the configuration has been validated by the caller. -/
def new (id : ChannelId) (rollupConfig : RollupConfig) (config : EncoderConfig)
    (blockStart openedL1Block : Nat) :
    Except EncoderConfigError (BatcherChannel brotli) :=
  match config.validate with
  | .error error => .error error
  | .ok () =>
    let durationBlocks := config.maxChannelDuration - config.subSafetyMargin
    .ok
      { id := id
        rollupConfig := rollupConfig
        compressor := some (CompressionStream.new config.brotliLevel
          (config.compressedSizeTarget.bind flushInterval))
        output := []
        availableOutput := 0
        compressedBytes := 0
        maxFrameSize := config.maxFrameSize
        compressedSizeTarget := config.compressedSizeTarget
        inputBytes := 0
        blockStart := blockStart
        blocksAdded := 0
        daBacklogBytes := 0
        openedL1Block := openedL1Block
        deadlineL1Block := saturatingAdd openedL1Block durationBlocks
        nextFrameNumber := 0
        terminalPending := false
        firstConfirmedL1Block := none
        lastConfirmedL1Block := none
        emitted := [] }

variable (channel : BatcherChannel brotli)

def isOpen : Bool := channel.compressor.isSome

def isEmpty : Bool := channel.blocksAdded = 0

def maxFrameData : Nat := channel.maxFrameSize - Frame.encodedOverhead

def deadlineDue (l1Head : Nat) : Bool := l1Head ≥ channel.deadlineL1Block

def releaseAt (l1Head : Nat) : BatcherChannel brotli :=
  { channel with deadlineL1Block := min channel.deadlineL1Block l1Head }

/-- One past the last block of the channel. -/
def blockEnd : Nat := channel.blockStart + channel.blocksAdded

def blockRange : Nat × Nat := (channel.blockStart, channel.blockEnd)

def framingComplete : Bool := channel.compressor.isNone && !channel.terminalPending

def pushOutput (output : Bytes) : BatcherChannel brotli := if output.isEmpty then
    channel
  else
    { channel with
      availableOutput := channel.availableOutput + output.length
      compressedBytes := channel.compressedBytes + output.length
      output := channel.output ++ [output]
      emitted := channel.emitted ++ output }

variable (maxCompressedBytes : Nat)

/-- Output split at blob boundaries may need one frame more per blob. -/
def maxTotalFrames : Nat :=
  let maxFrameCount := divCeil maxCompressedBytes channel.maxFrameData
  let blobPayloadCapacity := blobMaxDataSize - blobDerivationPrefixSize
  let maxBlobBoundaryFrames := saturatingAdd
    (divCeil maxCompressedBytes (blobPayloadCapacity - Frame.encodedOverhead)) 1
  saturatingAdd maxFrameCount maxBlobBoundaryFrames

def maxAssembledBytes : Nat := saturatingAdd maxCompressedBytes
    (saturatingMul (channel.maxTotalFrames maxCompressedBytes) Frame.overhead)

/-- The limit a batch would break, if any.  The limits are checked on the
projected size of the finished channel, before the stream is touched. -/
def projectedLimit (stream : CompressionStream brotli)
    (maxChannelBytes nextInputBytes : Nat) : Option ChannelLimit :=
  if nextInputBytes > maxChannelBytes then
    some (.rlpBytes nextInputBytes maxChannelBytes)
  else
    let maxCompressedBytes := stream.maxOutputSize nextInputBytes
    if channel.maxTotalFrames maxCompressedBytes > maxFrames then
      some (.frameCount (channel.maxTotalFrames maxCompressedBytes) maxFrames)
    else if channel.maxAssembledBytes maxCompressedBytes > maxChannelBytes then
      some (.assembledBytes (channel.maxAssembledBytes maxCompressedBytes) maxChannelBytes)
    else
      none

def addBatch (batch : SingleBatch) (daBacklogBytes : Nat) :
    Except ChannelError ChannelAddOutcome × BatcherChannel brotli :=
  let maxChannelBytes :=
    channel.rollupConfig.maxRlpBytesPerChannel batch.timestamp
  match channel.compressor with
  | none => (.error .closed, channel)
  | some stream =>
    let candidate := batch.channelEntry
    let nextInputBytes := saturatingAdd channel.inputBytes candidate.length
    match channel.projectedLimit stream maxChannelBytes nextInputBytes with
    | some limit => (.ok (.rejected limit), channel)
    | none =>
      match stream.append candidate with
      | .error error => (.error (.compression error), channel)
      | .ok (stream, output) =>
        let totalOutput := stream.outputSize
        let channel :=
          ({ channel with compressor := some stream }).pushOutput output
        let channel :=
          { channel with
            inputBytes := nextInputBytes
            blocksAdded := channel.blocksAdded + 1
            daBacklogBytes := channel.daBacklogBytes + daBacklogBytes }
        if channel.compressedSizeTarget.any (· ≤ totalOutput) then
          (.ok .targetReached, channel)
        else
          (.ok .accepted, channel)

/-- End the compressed stream.  The terminal frame is owed from here on, also
when finishing fails. -/
def close : Except ChannelError Unit × BatcherChannel brotli := match channel.compressor with
  | none => (.ok (), channel)
  | some stream =>
    let channel := { channel with compressor := none, terminalPending := true }
    match stream.finish with
    | .error error => (.error (.compression error), channel)
    | .ok output => (.ok (), channel.pushOutput output)

def takeFrame (dataLen : Nat) (isLast : Bool) :
    MayPanic (Except ChannelError (Frame × BatcherChannel brotli)) :=
  if dataLen > channel.availableOutput then
    some (.error (.outputUnderflow dataLen channel.availableOutput))
  else if channel.nextFrameNumber ≥ maxFrames then
    some (.error (.tooManyFrames (channel.nextFrameNumber + 1) maxFrames))
  else if isLast && (channel.compressor.isSome ||
      dataLen ≠ channel.availableOutput || !channel.terminalPending) then
    some (.error .invalidTerminalTransition)
  else
    (takeOutput dataLen channel.output).map fun (data, output) =>
      .ok ({ id := channel.id
             number := UInt16.ofNat channel.nextFrameNumber
             data := data
             isLast := isLast },
        { channel with
          output := output
          availableOutput := channel.availableOutput - dataLen
          nextFrameNumber := channel.nextFrameNumber + 1
          terminalPending := if isLast then false else channel.terminalPending })

def recordConfirmation (l1Block : Nat) : BatcherChannel brotli :=
  { channel with
    firstConfirmedL1Block := some (channel.firstConfirmedL1Block.elim l1Block (min · l1Block))
    lastConfirmedL1Block := some (channel.lastConfirmedL1Block.elim l1Block (max · l1Block)) }

def rebaseAfterPrune (pruneCount : Nat) : BatcherChannel brotli :=
  let oldEnd := channel.blockStart + channel.blocksAdded
  let blockStart := channel.blockStart - pruneCount
  { channel with
    blockStart := blockStart
    blocksAdded := oldEnd - pruneCount - blockStart }

/-- The outcomes of `add_batch` that admit the batch. -/
def Admits (outcome : Except ChannelError ChannelAddOutcome) : Prop :=
  outcome = .ok .accepted ∨ outcome = .ok .targetReached

/-- An empty output changes nothing, so the guard of `push_output` can be
moved into the list of chunks. -/
theorem pushOutput_eq (output : Bytes) : channel.pushOutput output =
      { channel with
        availableOutput := channel.availableOutput + output.length
        compressedBytes := channel.compressedBytes + output.length
        output := channel.output ++ if output.isEmpty then [] else [output]
        emitted := channel.emitted ++ output } := by
  unfold pushOutput
  split
  · rename_i hempty
    obtain rfl := List.isEmpty_iff.mp hempty
    simp
  · rfl

variable {channel} {channel' : BatcherChannel brotli}

/-- What admitting a batch does to the channel. -/
theorem addBatch_eq_of_admits {batch : SingleBatch} {daBacklogBytes : Nat}
    {outcome : Except ChannelError ChannelAddOutcome}
    (hadd : channel.addBatch batch daBacklogBytes = (outcome, channel'))
    (hadmits : Admits outcome) :
    ∃ stream stream' output, channel.compressor = some stream ∧ channel.projectedLimit stream
        (channel.rollupConfig.maxRlpBytesPerChannel batch.timestamp)
        (saturatingAdd channel.inputBytes batch.channelEntry.length) = none ∧
      stream.append batch.channelEntry = .ok (stream', output) ∧
      channel' =
        { ({ channel with compressor := some stream' }).pushOutput output with
          inputBytes := saturatingAdd channel.inputBytes batch.channelEntry.length
          blocksAdded := channel.blocksAdded + 1
          daBacklogBytes := channel.daBacklogBytes + daBacklogBytes } := by
  unfold addBatch at hadd
  dsimp only at hadd
  split at hadd
  · cases hadd
    rcases hadmits with hcase | hcase <;> cases hcase
  rename_i stream hstream
  split at hadd
  · cases hadd
    rcases hadmits with hcase | hcase <;> cases hcase
  rename_i hlimit
  split at hadd
  · cases hadd
    rcases hadmits with hcase | hcase <;> cases hcase
  rename_i stream' output happend
  refine ⟨stream, stream', output, hstream, hlimit, happend, ?_⟩
  simp only [pushOutput_eq] at hadd ⊢
  split at hadd
  · exact (Prod.mk.inj hadd).2.symm
  · exact (Prod.mk.inj hadd).2.symm

/-- Closing an open channel pushes the end of its stream, if there is one. -/
theorem close_eq_pushOutput {stream : CompressionStream brotli}
    (hstream : channel.compressor = some stream) :
    ∃ output, channel.close.2 =
      ({ channel with
        compressor := none
        terminalPending := true }).pushOutput output := by
  simp only [close, hstream]
  cases stream.finish with
  | ok output => exact ⟨output, rfl⟩
  | error error => exact ⟨[], rfl⟩

/-- What a frame that is cut leaves. -/
theorem takeFrame_eq_ok {dataLen : Nat} {isLast : Bool} {frame : Frame}
    (htake : channel.takeFrame dataLen isLast = some (.ok (frame, channel'))) :
    ∃ data output, dataLen ≤ channel.availableOutput ∧ channel.nextFrameNumber < maxFrames ∧
      (isLast = true → channel.compressor = none ∧
        dataLen = channel.availableOutput ∧ channel.terminalPending = true) ∧
      takeOutput dataLen channel.output = some (data, output) ∧
      frame =
        { id := channel.id
          number := UInt16.ofNat channel.nextFrameNumber
          data := data
          isLast := isLast } ∧
      channel' =
        { channel with
          output := output
          availableOutput := channel.availableOutput - dataLen
          nextFrameNumber := channel.nextFrameNumber + 1
          terminalPending := if isLast then false else channel.terminalPending } := by
  unfold takeFrame at htake
  split at htake
  · cases htake
  rename_i hlen
  split at htake
  · cases htake
  rename_i hnumber
  split at htake
  · cases htake
  rename_i hterminal
  obtain ⟨⟨data, output⟩, houtput, hpair⟩ := Option.map_eq_some_iff.mp htake
  cases hpair
  refine ⟨data, output, not_lt.mp hlen, not_le.mp hnumber, ?_, houtput, rfl, rfl⟩
  intro hlast
  simpa [hlast, and_assoc] using hterminal

end BatcherChannel

end BaseChain
