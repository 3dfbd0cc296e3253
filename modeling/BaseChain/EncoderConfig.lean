/-
The batcher encoder's configuration and its validation, and the incremental
compressor of one channel.  The Brotli writer is a third-party component and
enters as a parameter.
-/
import BaseChain.Frame
import BaseChain.BlobEncoder
import BaseChain.SingleBatch

namespace BaseChain

open Frame

inductive DaType where
  | blob
  | calldata
deriving Repr, DecidableEq

/-- One byte of a blob's payload is the derivation version. -/
def blobDerivationPrefixSize : Nat := 1

def maxBlobFrameSize : Nat := blobMaxDataSize - blobDerivationPrefixSize

structure EncoderConfig where
  compressedSizeTarget : Option Nat
  maxFrameSize : Nat
  maxChannelDuration : Nat
  subSafetyMargin : Nat
  maxBlobsPerTx : Nat
  daType : DaType
  brotliLevel : Nat
deriving Repr, DecidableEq

inductive EncoderConfigError where
  | safetyMarginTooLarge (subSafetyMargin maxChannelDuration : Nat)
  | frameSizeTooSmall (maxFrameSize minFrameSize : Nat)
  | frameSizeTooLarge (maxFrameSize maxProtocolFrameSize : Nat)
  | compressedTargetZero
  | maxBlobsPerTxZero
  | tooManyBlobsPerTx (configured maximum : Nat)
  | frameExceedsBlobPackingLimit (maxFrameSize maxBlobFrameSize : Nat)
deriving Repr, DecidableEq

namespace EncoderConfig

def maxBlobsPerTxLimit : Nat := 6

variable (config : EncoderConfig)

def validate : Except EncoderConfigError Unit :=
  let minFrameSize := encodedOverhead + 1
  let maxProtocolFrameSize := encodedOverhead + maxLen
  if config.subSafetyMargin ≥ config.maxChannelDuration then
    .error (.safetyMarginTooLarge config.subSafetyMargin config.maxChannelDuration)
  else if config.maxFrameSize < minFrameSize then
    .error (.frameSizeTooSmall config.maxFrameSize minFrameSize)
  else if config.maxFrameSize > maxProtocolFrameSize then
    .error (.frameSizeTooLarge config.maxFrameSize maxProtocolFrameSize)
  else if config.compressedSizeTarget = some 0 then
    .error .compressedTargetZero
  else if config.maxBlobsPerTx = 0 then
    .error .maxBlobsPerTxZero
  else if config.maxBlobsPerTx > maxBlobsPerTxLimit then
    .error (.tooManyBlobsPerTx config.maxBlobsPerTx maxBlobsPerTxLimit)
  else if config.maxFrameSize > maxBlobFrameSize then
    .error (.frameExceedsBlobPackingLimit config.maxFrameSize maxBlobFrameSize)
  else
    .ok ()

/-- What validation establishes. -/
structure Valid (config : EncoderConfig) : Prop where
  margin_lt : config.subSafetyMargin < config.maxChannelDuration
  frame_ge : encodedOverhead + 1 ≤ config.maxFrameSize
  frame_le : config.maxFrameSize ≤ maxBlobFrameSize
  target_ne : config.compressedSizeTarget ≠ some 0
  blobs_pos : 0 < config.maxBlobsPerTx
  blobs_le : config.maxBlobsPerTx ≤ maxBlobsPerTxLimit

theorem validate_ok_iff : config.validate = .ok () ↔ config.Valid := by
  have hlimit : maxBlobFrameSize ≤ encodedOverhead + maxLen := by decide
  unfold validate
  dsimp only
  constructor
  · intro hvalid
    repeat' split at hvalid
    all_goals first
      | cases hvalid; done | exact ⟨by omega, by omega, by omega, by assumption, by omega, by omega⟩
  · intro hvalid
    obtain ⟨hmargin, hlow, hhigh, htarget, hpos, hle⟩ := hvalid
    rw [if_neg (by omega), if_neg (by omega), if_neg (by omega),
      if_neg htarget, if_neg (by omega), if_neg (by omega), if_neg (by omega)]

/-- The channel timeout used for confirmations; zero counts as unset. -/
def confirmationChannelTimeout (cfg : RollupConfig) : Nat :=
  let preGranite := cfg.channelTimeout 0
  let postGranite := cfg.channelTimeout u64Max
  if preGranite = 0 then postGranite
  else if postGranite = 0 then preGranite
  else min preGranite postGranite

end EncoderConfig

inductive CompressionError where
  | io
deriving Repr, DecidableEq

/-- The streaming Brotli encoder.  Each call returns the bytes it pushes into
its sink; `intoInner` ends the stream and returns its last bytes. -/
structure BrotliWriter where
  State : Type
  new : Nat → State
  writeAll : State → Bytes → Except CompressionError (State × Bytes)
  flush : State → Except CompressionError (State × Bytes)
  intoInner : State → Bytes
  maxCompressedSize : Nat → Nat

/-- A writer that stores its input; it shows that the interface has an
instance, and runs of the model can be evaluated with it. -/
def storedBrotli : BrotliWriter where
  State := Unit
  new _ := ()
  writeAll _ input := .ok ((), input)
  flush _ := .ok ((), [])
  intoInner _ := []
  maxCompressedSize inputSize := inputSize

/-- The channel version byte in front of a Brotli stream. -/
def channelVersionBrotli : UInt8 := 1

/-- One incremental compressor.  `sink` holds the bytes pushed but not yet
transferred. -/
structure CompressionStream (brotli : BrotliWriter) where
  writer : brotli.State
  sink : Bytes
  outputSize : Nat
  flushInterval : Option Nat
  unflushedInput : Nat

namespace CompressionStream

variable {brotli : BrotliWriter}

def flushOverhead : Nat := 6

def new (level : Nat) (flushInterval : Option Nat) : CompressionStream brotli :=
  { writer := brotli.new level, sink := [channelVersionBrotli],
    outputSize := 0, flushInterval := flushInterval, unflushedInput := 0 }

variable (stream : CompressionStream brotli)

/-- Transfer the sink to the caller. -/
def take : CompressionStream brotli × Bytes :=
  ({ stream with
      sink := [], outputSize := stream.outputSize + stream.sink.length },
    stream.sink)

def append (input : Bytes) : Except CompressionError (CompressionStream brotli × Bytes) := do
  let (writer, pushed) ← brotli.writeAll stream.writer input
  let stream :=
    { stream with
      writer := writer
      sink := stream.sink ++ pushed
      unflushedInput := stream.unflushedInput + input.length }
  if stream.flushInterval.any (· ≤ stream.unflushedInput) then
    let (writer, pushed) ← brotli.flush stream.writer
    return { stream with
      writer := writer
      sink := stream.sink ++ pushed
      unflushedInput := 0 }.take
  else
    return stream.take

/-- The bound on the finished size that the encoder budgets with. -/
def maxOutputSize (inputSize : Nat) : Nat :=
  let maxFlushes := match stream.flushInterval with
    | none => 0
    | some interval => inputSize / interval
  saturatingAdd (saturatingAdd (brotli.maxCompressedSize inputSize)
      (saturatingMul maxFlushes flushOverhead)) 1

def finish : Except CompressionError Bytes := .ok (stream.sink ++ brotli.intoInner stream.writer)

end CompressionStream

end BaseChain
