/-
The batch reader of derivation: a channel's bytes are decompressed once and then
read as a sequence of byte strings, each of them a batch.
-/
import BaseChain.SingleBatch

namespace BaseChain

open List SingleBatch BatchType

/-- A batch; `σ` is the type of span batches. -/
inductive Batch (σ : Type) where
  | single (batch : SingleBatch)
  | span (batch : σ)
deriving DecidableEq

inductive BatchDecodingError where
  | emptyBuffer
  | alloyRlpError (error : Rlp.Error)
  | spanBatchError
  | invalidBatchType (byte : UInt8)
deriving Repr, DecidableEq

inductive DecompressionError where
  | emptyData
  | unsupportedType (byte : UInt8)
  | brotliError
  | zlibError
deriving Repr, DecidableEq

inductive BatchReaderError where
  | decompression (error : DecompressionError)
  | rlp (error : Rlp.Error)
  | batch (error : BatchDecodingError)
deriving Repr, DecidableEq

/-- What the reader calls: the decompressors with their output limit, and the
decoder of span batches. -/
structure ReaderExternals (σ : Type) where
  zlib : Bytes → Nat → Option Bytes
  brotli : Bytes → Nat → Option Bytes
  decodeSpan : RollupConfig → Bytes → Option σ

variable {σ : Type}

def BatchType.ofByte? (byte : UInt8) : Option BatchType :=
  if byte = 0 then some .single else if byte = 1 then some .span else none

def Batch.decode (externals : ReaderExternals σ) (cfg : RollupConfig) :
    Bytes → Except BatchDecodingError (Batch σ)
  | [] => .error .emptyBuffer
  | byte :: buf =>
    match ofByte? byte with
    | none => .error (.invalidBatchType byte)
    | some .single =>
      match SingleBatch.decode buf with
      | .error error => .error (.alloyRlpError error)
      | .ok (batch, _) => .ok (.single batch)
    | some .span =>
      match externals.decodeSpan cfg buf with
      | none => .error .spanBatchError
      | some batch => .ok (.span batch)

structure BatchReader where
  data : Option Bytes
  decompressed : Bytes
  cursor : Nat
  maxRlpBytesPerChannel : Nat
  brotliUsed : Bool
  brotliSupported : Bool

namespace BatchReader

def zlibDeflateCompressionMethod : UInt8 := 8

def zlibReservedCompressionMethod : UInt8 := 15

def channelVersionBrotli : UInt8 := 1

def new (data : Bytes) (maxRlpBytesPerChannel : Nat) (brotliSupported : Bool) : BatchReader :=
  { data := some data
    decompressed := []
    cursor := 0
    maxRlpBytesPerChannel := maxRlpBytesPerChannel
    brotliUsed := false
    brotliSupported := brotliSupported }

variable (externals : ReaderExternals σ) (reader : BatchReader)

/-- The data is taken before the attempt, so a failed one is not repeated. -/
def decompress : Except DecompressionError Unit × BatchReader :=
  if !reader.decompressed.isEmpty then
    (.ok (), reader)
  else
    let taken := { reader with data := none }
    match reader.data with
    | none => (.error .emptyData, taken)
    | some [] => (.error .emptyData, taken)
    | some (compressionType :: body) =>
      if compressionType &&& 0x0F = zlibDeflateCompressionMethod ∨
          compressionType &&& 0x0F = zlibReservedCompressionMethod then
        match externals.zlib (compressionType :: body)
            reader.maxRlpBytesPerChannel with
        | none => (.error .zlibError, taken)
        | some decompressed =>
          (.ok (), { taken with decompressed := decompressed })
      else if compressionType = channelVersionBrotli ∧ reader.brotliSupported then
        let taken := { taken with brotliUsed := true }
        match externals.brotli body reader.maxRlpBytesPerChannel with
        | none => (.error .brotliError, taken)
        | some decompressed =>
          (.ok (), { taken with decompressed := decompressed })
      else
        (.error (.unsupportedType compressionType), taken)

variable (cfg : RollupConfig)

/-- The part of `next_batch_strict` behind decompression. -/
def readAtCursor : Except BatchReaderError (Option (Batch σ)) × BatchReader :=
  if reader.cursor ≥ reader.decompressed.length then
    (.ok none, reader)
  else
    match Rlp.decodePayload false (reader.decompressed.drop reader.cursor) with
    | .error error => (.error (.rlp error), reader)
    | .ok (bytes, rest) =>
      match Batch.decode externals cfg bytes with
      | .error error => (.error (.batch error), reader)
      | .ok batch =>
        (.ok (some batch),
          { reader with
            cursor := reader.decompressed.length - rest.length })

def nextBatchStrict : Except BatchReaderError (Option (Batch σ)) × BatchReader :=
  match reader.decompress externals with
  | (.error error, reader) => (.error (.decompression error), reader)
  | (.ok (), reader) => reader.readAtCursor externals cfg

def nextBatch : Option (Batch σ) × BatchReader := match reader.nextBatchStrict externals cfg with
  | (.ok batch, reader) => (batch, reader)
  | (.error _, reader) => (none, reader)

/-- Batches until the first `None`. -/
def readBatches (cfg : RollupConfig) : Nat → BatchReader → List (Batch σ)
  | 0, _ => []
  | turns + 1, reader =>
    match reader.nextBatch externals cfg with
    | (none, _) => []
    | (some batch, reader) => batch :: readBatches cfg turns reader

/-- Every batch takes a byte of the decompressed channel, which is limited. -/
def readChannel (origin : BlockInfo) (data : Bytes) : List (Batch σ) :=
  let maximum := cfg.maxRlpBytesPerChannel origin.timestamp
  readBatches externals cfg (maximum + 1) (new data maximum (cfg.isFjordActive origin.timestamp))

section Reading

variable {externals} {cfg : RollupConfig} (batch : SingleBatch)

theorem encode_ne_nil : batch.encode ≠ [] := by
  simp [encode, Rlp.encodeList, Rlp.Header.encode_ne_nil]

/-- An entry is the byte string of type byte and record. -/
theorem channelEntry_eq : batch.channelEntry = Rlp.encodeBytes (single.toByte :: batch.encode) := by
  have hencode := encode_ne_nil batch
  unfold Rlp.encodeBytes
  split
  · simp_all
  · simp [channelEntry, rlpHeader, SingleBatch.length, add_comm]

theorem length_lt_channelEntry : batch.length < batch.channelEntry.length := by
  simp only [channelEntry, length_append, length_cons, SingleBatch.length]
  omega

variable {batch : SingleBatch}

theorem decode_single (hbound : batch.Bounded) :
    Batch.decode externals cfg (single.toByte :: batch.encode) = .ok (.single batch) := by
  have hdecode := decode_encode hbound []
  rw [append_nil] at hdecode
  simp [Batch.decode, ofByte?, toByte, hdecode]

/-- The reader in the middle of a channel of entries. -/
structure Reading (reader : BatchReader) (batches : List SingleBatch) : Prop where
  decompressed : reader.decompressed ≠ []
  rest : reader.decompressed.drop reader.cursor = batches.flatMap SingleBatch.channelEntry
  cursor : reader.cursor ≤ reader.decompressed.length

/-- Data is decompressed once. -/
theorem decompress_of_ne_nil (externals : ReaderExternals σ)
    {reader : BatchReader} (hdecompressed : reader.decompressed ≠ []) :
    reader.decompress externals = (.ok (), reader) := by
  simp [decompress, isEmpty_eq_false_iff.mpr hdecompressed]

variable {batches : List SingleBatch}

/-- Reading one entry moves the reader behind it. -/
theorem Reading.nextBatch (externals : ReaderExternals σ) (cfg : RollupConfig)
    {reader : BatchReader} (hreading : Reading reader (batch :: batches))
    (hbound : batch.Bounded) (hlength : batch.length + 1 < 2 ^ 64) :
    ∃ reader', reader.nextBatch externals cfg =
        (some (.single batch), reader') ∧ Reading reader' batches := by
  have hrest := hreading.rest
  rw [flatMap_cons] at hrest
  have hpayload : Rlp.decodePayload false (reader.decompressed.drop reader.cursor) =
      .ok (BatchType.single.toByte :: batch.encode, batches.flatMap channelEntry) := by
    rw [hrest, channelEntry_eq]
    apply Rlp.decodePayload_encodeBytes
    simpa [SingleBatch.length] using hlength
  have hsize := congrArg List.length hrest
  simp only [length_drop, length_append] at hsize
  have hentry := length_lt_channelEntry batch
  have hcursor : ¬ reader.cursor ≥ reader.decompressed.length := by omega
  let next := reader.decompressed.length - (batches.flatMap channelEntry).length
  have hnext : next = reader.cursor + batch.channelEntry.length := by omega
  refine ⟨{ reader with cursor := next }, ?_, hreading.decompressed, ?_, ?_⟩
  · simp [BatchReader.nextBatch, nextBatchStrict,
      decompress_of_ne_nil externals hreading.decompressed, readAtCursor, if_neg hcursor, hpayload,
      decode_single hbound, next]
  · rw [hnext, ← drop_drop, hrest, drop_left]
  · exact Nat.sub_le _ _

/-- At the end of the channel the reader stops. -/
theorem Reading.nextBatch_nil {reader : BatchReader} (hreading : Reading reader []) :
    reader.nextBatch externals cfg = (none, reader) := by
  have hcursor : reader.cursor ≥ reader.decompressed.length := by simpa using hreading.rest
  simp [BatchReader.nextBatch, nextBatchStrict,
    decompress_of_ne_nil externals hreading.decompressed, readAtCursor, if_pos hcursor]

theorem Reading.readBatches (externals : ReaderExternals σ) (cfg : RollupConfig) :
    ∀ {reader : BatchReader} {turns : Nat}, Reading reader batches →
      (∀ batch ∈ batches, batch.Bounded ∧ batch.length + 1 < 2 ^ 64) →
      batches.length < turns →
      BatchReader.readBatches externals cfg turns reader = batches.map .single := by
  induction batches with
  | nil =>
    intro reader turns hreading _ hturns
    obtain ⟨turns, rfl⟩ := Nat.exists_eq_add_one.mpr hturns
    simp [BatchReader.readBatches, hreading.nextBatch_nil]
  | cons batch batches ih =>
    intro reader turns hreading hbound hturns
    obtain ⟨turns, rfl⟩ := Nat.exists_eq_add_one.mpr (Nat.zero_lt_of_lt hturns)
    obtain ⟨hbatch, hlength⟩ := hbound batch mem_cons_self
    obtain ⟨reader', hnext, hreading'⟩ := hreading.nextBatch externals cfg hbatch hlength
    have hbatches := ih hreading' (fun other hother => hbound other (mem_cons_of_mem _ hother))
      (Nat.lt_of_succ_lt_succ hturns)
    simp [BatchReader.readBatches, hnext, hbatches]

theorem length_le_flatMap_channelEntry (batches : List SingleBatch) :
    batches.length ≤ (batches.flatMap channelEntry).length := by
  induction batches with
  | nil => simp
  | cons batch =>
    have hentry := length_lt_channelEntry batch
    simp only [length_cons, flatMap_cons, length_append]
    omega

/-- A Brotli channel whose body decompresses to the entries of some batches is
read back as these batches. -/
theorem readChannel_eq {origin : BlockInfo} {body : Bytes} (hbatches : batches ≠ [])
    (hbound : ∀ batch ∈ batches, batch.Bounded ∧ batch.length + 1 < 2 ^ 64)
    (hfjord : cfg.isFjordActive origin.timestamp = true)
    (hbrotli : externals.brotli body (cfg.maxRlpBytesPerChannel origin.timestamp) =
      some (batches.flatMap channelEntry))
    (hlimit : (batches.flatMap channelEntry).length ≤ cfg.maxRlpBytesPerChannel origin.timestamp) :
    readChannel externals cfg origin (channelVersionBrotli :: body) = batches.map .single := by
  have hentries : batches.flatMap channelEntry ≠ [] := by
    rw [← length_pos_iff] at hbatches ⊢
    exact lt_of_lt_of_le hbatches (length_le_flatMap_channelEntry batches)
  have hturns := length_le_flatMap_channelEntry batches
  let opened : BatchReader :=
    { new (channelVersionBrotli :: body)
        (cfg.maxRlpBytesPerChannel origin.timestamp) true with
      data := none
      decompressed := batches.flatMap channelEntry
      brotliUsed := true }
  have hopened : (new (channelVersionBrotli :: body)
      (cfg.maxRlpBytesPerChannel origin.timestamp) true).decompress externals =
      (.ok (), opened) := by
    simp only [decompress, new, hbrotli]
    rfl
  have hreading : Reading opened batches := ⟨hentries, rfl, Nat.zero_le _⟩
  rw [← hreading.readBatches externals cfg hbound (Nat.lt_succ_of_le (le_trans hturns hlimit))]
  simp [readChannel, hfjord, readBatches, nextBatch, nextBatchStrict, hopened,
    decompress_of_ne_nil externals hreading.decompressed]

end Reading

end BatchReader

end BaseChain
