/-
When the round trip holds.  The batcher budgets the frames of a channel from
the size of its stream, and the assembler charges the frames that are really
cut; a partial frame at the end of every blob is not in the budget.
-/
import BaseChain.BatcherRoundTrip

namespace BaseChain

open List BatcherChannel BatchEncoder DaEgress Frame FrameBudget Rlp RollupConfig SingleBatch
open BatchSubmission

variable {externals : BatcherExternals} {σ : Type}

/-- Every channel that the blocks are composed into stays within the
assembler's size limit, counting the frames that are cut from it. -/
def FitsAssembler (externals : BatcherExternals) (rollupConfig : RollupConfig)
    {config : EncoderConfig} (hvalid : config.Valid) (rng : Nat → ChannelId)
    (blocks : List L2Block) : Prop :=
  ∀ channels : List (BatcherChannel externals.brotli), composeBlocks rollupConfig config rng 0 none
      (blocks.map (BufferedBlock.new externals)) = some channels →
    ∀ size ∈ assembledSizes (config.budget hvalid) (channels.map (·.availableOutput)),
      size ≤ RollupConfig.maxRlpBytesPerChannelFjord

section Counting

variable {maxFrameSize : Nat} (hsize : Frame.encodedOverhead + 1 ≤ maxFrameSize)

variable {remaining available : Nat}

section

variable (budget : FrameBudget)

/-- A frame that leaves some of the stream. -/
theorem frameCount_cons {dataLen : Nat}
    (hlen : cutLength budget.maxData (budget.refill remaining) available =
      dataLen) (hpart : dataLen ≠ available) :
    (budget.frameCount remaining available).1 = (budget.frameCount (budget.refill remaining -
        (encodedOverhead + dataLen)) (available - dataLen)).1 + 1 := by
  rw [frameCount]
  simp [hlen, if_neg hpart]

theorem frameCounts_singleton (remaining available : Nat) :
    budget.frameCounts remaining [available] = [(budget.frameCount remaining available).1] := by
  simp [frameCounts]

end

/-- Full frames, as long as the blob has room for them. -/
theorem frameCount_full (count : Nat) (hroom : count * maxFrameSize + encodedOverhead < remaining)
    (hrest : 0 < available) :
    ((blobBudget maxFrameSize hsize).frameCount remaining
        (count * (maxFrameSize - encodedOverhead) + available)).1 =
      ((blobBudget maxFrameSize hsize).frameCount
        (remaining - count * maxFrameSize) available).1 + count := by
  induction count generalizing remaining with
  | zero => simp
  | succ count ih =>
    rw [Nat.succ_mul] at hroom
    have hrefill : (blobBudget maxFrameSize hsize).refill remaining =
        remaining := if_neg (by omega)
    have hlen : cutLength (blobBudget maxFrameSize hsize).maxData
        ((blobBudget maxFrameSize hsize).refill remaining)
        ((count + 1) * (maxFrameSize - encodedOverhead) + available) =
        maxFrameSize - encodedOverhead := by
      rw [hrefill, cutLength, Nat.succ_mul]
      simp only [blobBudget]
      omega
    rw [frameCount_cons _ hlen (by rw [Nat.succ_mul]; omega), hrefill]
    have htail := ih (show count * maxFrameSize + encodedOverhead <
      remaining - maxFrameSize by omega)
    have hframe : encodedOverhead + (maxFrameSize - encodedOverhead) = maxFrameSize := by omega
    have hleft : (count + 1) * (maxFrameSize - encodedOverhead) +
        available - (maxFrameSize - encodedOverhead) =
        count * (maxFrameSize - encodedOverhead) + available := by
      rw [Nat.succ_mul]
      omega
    rw [hframe, hleft, htail, Nat.sub_sub, add_comm maxFrameSize, ← Nat.succ_mul, add_assoc]

/-- A stream starts a fresh blob wherever the last one ended. -/
theorem frameCount_fresh (available : Nat) :
    (blobBudget maxFrameSize hsize).frameCount 0 available =
      (blobBudget maxFrameSize hsize).frameCount blobCapacity
        available := by
  have hrefill : (blobBudget maxFrameSize hsize).refill 0 =
      (blobBudget maxFrameSize hsize).refill blobCapacity := by
    simp [blobBudget]
  conv_lhs => rw [frameCount]
  conv_rhs => rw [frameCount]
  rw [hrefill]

end Counting

/-- Frames of this size fill a blob with 74 of them and two bytes. -/
def wideFrameSize : Nat := 1757

theorem wideFrameSize_ge : encodedOverhead + 1 ≤ wideFrameSize := by decide

/-- Every full blob holds 75 frames. -/
theorem wide_blobs (blobs : Nat) {available : Nat} (hrest : 0 < available) :
    ((blobBudget wideFrameSize wideFrameSize_ge).frameCount 0 (blobs * 128318 + available)).1 =
      ((blobBudget wideFrameSize wideFrameSize_ge).frameCount 0 available).1 + blobs * 75 := by
  induction blobs with
  | zero => simp
  | succ blobs ih =>
    have hsplit : (blobs + 1) * 128318 + available =
        74 * (wideFrameSize - encodedOverhead) + (2 + (blobs * 128318 + available)) := by
      rw [show wideFrameSize - encodedOverhead = 1734 from rfl]
      omega
    have hfull := frameCount_full wideFrameSize_ge 74
      (show 74 * wideFrameSize + encodedOverhead < blobCapacity by decide)
      (show 0 < 2 + (blobs * 128318 + available) by omega)
    have hpart : ((blobBudget wideFrameSize wideFrameSize_ge).frameCount
        (blobCapacity - 74 * wideFrameSize) (2 + (blobs * 128318 + available))).1 =
        ((blobBudget wideFrameSize wideFrameSize_ge).frameCount 0
          (blobs * 128318 + available)).1 + 1 := by
      have hrefill : (blobBudget wideFrameSize wideFrameSize_ge).refill
          (blobCapacity - 74 * wideFrameSize) = 25 := rfl
      have hlen : cutLength (blobBudget wideFrameSize wideFrameSize_ge).maxData
          ((blobBudget wideFrameSize wideFrameSize_ge).refill (blobCapacity - 74 * wideFrameSize))
          (2 + (blobs * 128318 + available)) = 2 := by
        rw [hrefill, cutLength, show (blobBudget wideFrameSize wideFrameSize_ge).maxData = 1734
            from rfl, show 25 - encodedOverhead = 2 from rfl]
        omega
      rw [frameCount_cons _ hlen (by omega), Nat.add_sub_cancel_left]
      rfl
    rw [hsplit, frameCount_fresh, hfull, hpart]
    omega

/-- Nearly seven hundred blobs: the stream is cut into 52332 frames. -/
theorem wide_frameCounts : (blobBudget wideFrameSize wideFrameSize_ge).frameCounts 0 [89535000] =
      [52332] := by
  have hlast : ((blobBudget wideFrameSize wideFrameSize_ge).frameCount 0 97354).1 = 57 := by
    have hfull := frameCount_full wideFrameSize_ge 56 (show 56 * wideFrameSize + encodedOverhead <
        blobCapacity by decide) (show 0 < 250 by decide)
    have hone : ((blobBudget wideFrameSize wideFrameSize_ge).frameCount
        (blobCapacity - 56 * wideFrameSize) 250).1 = 1 := by rw [frameCount]; rfl
    rw [hone, show 56 * (wideFrameSize - encodedOverhead) + 250 = 97354 from rfl] at hfull
    rw [frameCount_fresh, hfull]
  have hblobs := wide_blobs 697 (show 0 < 97354 by decide)
  rw [hlast, show 697 * 128318 + 97354 = 89535000 from rfl,
    show 57 + 697 * 75 = 52332 from rfl] at hblobs
  rw [frameCounts_singleton, hblobs]

/-! The stored pipeline of the encoder, with its reader. -/

def storedReader : ReaderExternals Unit where
  zlib _ _ := none
  brotli data limit := if data.length ≤ limit then some data else none
  decodeSpan _ _ := none

theorem stored_writes {level : Nat} {state : storedBrotli.State} {input output : Bytes}
    (hwrites : storedBrotli.Writes level state input output) :
    output = input := by
  induction hwrites with
  | new => rfl
  | writeAll _ hwrite ih =>
    cases hwrite
    rw [ih]
  | flush _ hflush ih =>
    cases hflush
    rw [ih, append_nil]

theorem stored_invertedBy : storedExternals.brotli.InvertedBy storedReader.brotli := by
  intro level state input output limit hwrites hlimit
  obtain rfl := stored_writes hwrites
  change (if (output ++ []).length ≤ limit then some (output ++ []) else none) = some output
  rw [append_nil, if_pos hlimit]

def storedOrigin : BlockInfo where
  hash := zeroHash
  number := 1
  parentHash := zeroHash
  timestamp := 0

/-- Payloads in one L1 block are inside every channel timeout. -/
theorem placed_timeout (cfg : RollupConfig) (block : BlockInfo) (payloads : List Bytes) :
    ∀ opened ∈ (payloads.map (block, ·)).map (·.1), ∀ origin ∈ (payloads.map (block, ·)).map (·.1),
        ¬ opened.number + cfg.channelTimeout origin.timestamp < origin.number := by
  intro opened hopened origin horigin
  obtain ⟨-, rfl⟩ : payloads ≠ [] ∧ opened = block := by simpa using hopened
  obtain ⟨-, rfl⟩ : payloads ≠ [] ∧ origin = opened := by simpa using horigin
  omega

def storedEncoder : BatchEncoder storedExternals :=
  { storedFresh with
    tip := some zeroHash
    blocks := [BufferedBlock.new storedExternals storedBlock] }

/-- The submissions of the stored block, and the encoder they leave. -/
def storedDrain : List BatchSubmission × BatchEncoder storedExternals :=
  match storedEncoder.encodeAndDrain 3 with
  | some (.ok submissions, drained) => (submissions, drained)
  | _ => ([], storedEncoder)

def storedPlaced : List (BlockInfo × Bytes) :=
  (storedDrain.1.flatMap payloads).map (storedOrigin, ·)

/-! A block whose channel passes the batcher's own checks to the byte and is
then cut into seven frames more than were budgeted. -/

theorem stored_bounded : storedExternals.brotli.Bounded := by
  intro config state input output hwrites hsmall
  obtain rfl := stored_writes hwrites
  change (channelVersionBrotli :: (output ++ [])).length ≤
    saturatingAdd (saturatingAdd output.length _) 1
  unfold maxRlpBytesPerChannelFjord at hsmall
  simp only [append_nil, length_cons, saturatingAdd, u64Max]
  omega

def wideConfig : EncoderConfig := { storedConfig with maxFrameSize := wideFrameSize }

def wideTransaction : Bytes := List.replicate 89534910 0

def wideBlock : L2Block :=
  { storedBlock with
    transactions := [.deposit [], .signed wideTransaction] }

def wideBatch : SingleBatch where
  parentHash := zeroHash
  epochNum := 0
  epochHash := zeroHash
  timestamp := 2
  transactions := [wideTransaction]

theorem header_length {payloadLength : Nat} (list : Bool)
    (hlow : 256 ^ 3 ≤ payloadLength) (hhigh : payloadLength < 256 ^ 4) :
    (Header.encode ⟨list, payloadLength⟩).length = 5 := by
  have hle := byteLength_le hhigh
  have hge : 4 ≤ byteLength payloadLength := by
    by_contra hlt
    have hpow : 256 ^ byteLength payloadLength ≤ 256 ^ 3 :=
      Nat.pow_le_pow_right (by decide) (by omega)
    have hvalue := lt_pow_byteLength payloadLength
    omega
  rw [Header.encode, if_neg (by dsimp only; omega)]
  simp only [length_cons, beMin_length]
  omega

theorem encodeBytes_length {data : Bytes} (hlow : 256 ^ 3 ≤ data.length)
    (hhigh : data.length < 256 ^ 4) :
    (encodeBytes data).length = data.length + 5 := by
  unfold encodeBytes
  split
  · simp at hlow
  · rw [length_append, header_length false hlow hhigh, add_comm]

theorem encodeList_length {payload : Bytes} (hlow : 256 ^ 3 ≤ payload.length)
    (hhigh : payload.length < 256 ^ 4) :
    (encodeList payload).length = payload.length + 5 := by
  rw [encodeList, length_append, header_length true hlow hhigh, add_comm]

variable {batch : SingleBatch}

theorem channelEntry_length (hlow : 256 ^ 3 ≤ batch.length) (hhigh : batch.length + 1 < 256 ^ 4) :
    batch.channelEntry.length = batch.length + 6 := by
  rw [channelEntry, rlpHeader, length_append,
    length_cons, header_length false (by omega) (by omega), ← SingleBatch.length]
  omega

theorem encodeBytes_hash (hash : B256) : (encodeBytes hash.val).length = 33 := by
  have hlength : hash.val.length = 32 := hash.property
  unfold encodeBytes
  split
  · rename_i heq
    rw [heq] at hlength
    cases hlength
  · rw [length_append, hlength]
    rfl

theorem wideBatch_entry_length : wideBatch.channelEntry.length = 89534999 := by
  have htransaction : wideTransaction.length = 89534910 := length_replicate
  have hbytes : (encodeBytes wideTransaction).length = 89534915 := by
    rw [encodeBytes_length (by rw [htransaction]; decide)
      (by rw [htransaction]; decide), htransaction]
  have htxs : (wideBatch.transactions.flatMap encodeBytes).length = 89534915 := by
    rw [wideBatch, flatMap_singleton, hbytes]
  have hlist : (encodeList (wideBatch.transactions.flatMap encodeBytes)).length = 89534920 := by
    rw [encodeList_length (by rw [htxs]; decide) (by rw [htxs]; decide), htxs]
  have hpayload : wideBatch.payload.length = 89534988 := by
    simp only [SingleBatch.payload, length_append, encodeBytes_hash, hlist,
      show (encodeUint wideBatch.epochNum).length = 1 from rfl,
      show (encodeUint wideBatch.timestamp).length = 1 from rfl]
  have hlength : wideBatch.length = 89534993 := by
    rw [SingleBatch.length, SingleBatch.encode,
      encodeList_length (by rw [hpayload]; decide) (by rw [hpayload]; decide), hpayload]
  rw [channelEntry_length (by rw [hlength]; decide) (by rw [hlength]; decide), hlength]

def wideId : ChannelId := storedFresh.rng 0

/-- The channel that is opened for the block. -/
def wideChannel : BatcherChannel storedExternals.brotli where
  id := wideId
  rollupConfig := storedRollupConfig
  compressor := some (CompressionStream.new 10 none)
  output := []
  availableOutput := 0
  compressedBytes := 0
  maxFrameSize := wideFrameSize
  compressedSizeTarget := none
  inputBytes := 0
  blockStart := 0
  blocksAdded := 0
  daBacklogBytes := 0
  openedL1Block := 0
  deadlineL1Block := 6
  nextFrameNumber := 0
  terminalPending := false
  firstConfirmedL1Block := none
  lastConfirmedL1Block := none
  emitted := []

/-- The largest entry that the channel admits. -/
theorem wideChannel_addBatch (hlength : batch.channelEntry.length = 89534999) (daBytes : Nat) :
    ∃ channel, wideChannel.addBatch batch daBytes = (.ok .accepted, channel) ∧
      channel.close.2.availableOutput = 89535000 := by
  have hstream : wideChannel.compressor = some (CompressionStream.new 10 none) := rfl
  have happend : (CompressionStream.new 10 none :
      CompressionStream storedExternals.brotli).append batch.channelEntry =
      .ok ({ writer := (), sink := []
             outputSize := 1 + batch.channelEntry.length
             flushInterval := none
             unflushedInput := batch.channelEntry.length },
        channelVersionBrotli :: batch.channelEntry) := by
    simp [CompressionStream.append, CompressionStream.new,
      CompressionStream.take, storedExternals, storedBrotli, bind, Except.bind, pure,
      Except.pure, add_comm]
  have hadmitted : (wideChannel.addBatch batch daBytes).1 = .ok .accepted := by
    unfold addBatch
    simp only [hlength]
    rfl
  cases hadd : wideChannel.addBatch batch daBytes with
  | mk outcome channel =>
    obtain rfl : outcome = .ok .accepted := by rw [hadd] at hadmitted; exact hadmitted
    obtain ⟨stream, stream', output, hsame, -, houtput, rfl⟩ :=
      addBatch_eq_of_admits hadd (.inl rfl)
    obtain rfl := Option.some.inj (hstream.symm.trans hsame)
    obtain ⟨rfl, rfl⟩ := Prod.mk.inj (Except.ok.inj (happend.symm.trans houtput))
    refine ⟨_, rfl, ?_⟩
    simp [close, pushOutput_eq, CompressionStream.finish, storedExternals, storedBrotli, hlength,
      wideChannel]

def wideFresh : BatchEncoder storedExternals := { storedFresh with config := wideConfig }

/-- The encoder with one block in its queue. -/
def wideEncoder (block : L2Block) : BatchEncoder storedExternals :=
  { wideFresh with
    tip := some (storedExternals.hashSlow block.header)
    blocks := [BufferedBlock.new storedExternals block] }

theorem wideFresh_new : new storedRollupConfig wideConfig storedFresh.rng = .ok wideFresh := rfl

theorem wideFresh_addBlocks (block : L2Block) :
    wideFresh.addBlocks [block] = .ok (wideEncoder block) := rfl

section Wide

variable {block : L2Block} {batch : SingleBatch}

section

variable (hbatch : blockToSingleBatch storedExternals block = .ok batch)
  (hlength : batch.channelEntry.length = 89534999)
include hbatch hlength

theorem wide_composeBlocks :
    ∃ channel : BatcherChannel storedExternals.brotli, channel.availableOutput = 89535000 ∧
      composeBlocks storedRollupConfig wideConfig storedFresh.rng 0 none
        ([block].map (BufferedBlock.new storedExternals)) = some [channel] := by
  obtain ⟨channel, hadd, hopen⟩ := wideChannel_addBatch hlength
    (BufferedBlock.new storedExternals block).estimatedDaBytes
  refine ⟨channel.close.2, hopen, ?_⟩
  have hfresh : ∀ limit, (wideChannel.addBatch batch
      (BufferedBlock.new storedExternals block).estimatedDaBytes).1 ≠ .ok (.rejected limit) := by
    intro limit
    rw [hadd]
    simp
  rw [map_singleton, composeBlocks_fresh hbatch rfl hfresh, composeBlocks_accepted hbatch hadd]
  rfl

/-- The block is encoded in the first step, and the second finds nothing. -/
theorem wide_stepUntilIdle : ∃ idle, idle.drawn = [wideId] ∧ ∀ turns, 2 ≤ turns →
      (wideEncoder block).stepUntilIdle turns = some (.ok (), idle) := by
  obtain ⟨channel, hadd, -⟩ := wideChannel_addBatch hlength
    (BufferedBlock.new storedExternals block).estimatedDaBytes
  let opened : BatchEncoder storedExternals :=
    { wideEncoder block with
      channels := [wideChannel]
      rng := fun index => storedFresh.rng (index + 1)
      drawn := [wideId] }
  let idle : BatchEncoder storedExternals := { opened with channels := [channel], blockCursor := 1 }
  have hopened : (wideEncoder block).ensureOpenChannel = some opened := rfl
  have hbatched : opened.stepBatch batch
      (BufferedBlock.new storedExternals block).estimatedDaBytes =
      some (.ok .blockEncoded, idle) := by
    simp only [stepBatch, opened, getLast?_singleton, hadd]
    rfl
  have hfirst : (wideEncoder block).step = some (.ok .blockEncoded, idle) := by
    have hstep : (wideEncoder block).step = (wideEncoder block).stepBlock := rfl
    have hget : (wideEncoder block).blocks[(wideEncoder block).blockCursor]? =
        some (BufferedBlock.new storedExternals block) := rfl
    have hblock : (BufferedBlock.new storedExternals block).block = block := rfl
    rw [hstep, stepBlock, hget]
    simp only [hblock, hbatch, hopened]
    exact hbatched
  have hsecond : idle.step = some (.ok .idle, idle) := by
    obtain ⟨-, -, hdeadline⟩ := addBatch_admits_open hadd (.inl rfl)
    have hquiet : idle.checkChannelTimeout = (.ok false, idle) := by
      simp [checkChannelTimeout, idle, opened, deadlineDue, hdeadline, wideChannel, wideEncoder,
        wideFresh, storedFresh]
    simp only [step, hquiet]
    rfl
  refine ⟨idle, rfl, ?_⟩
  intro turns hturns
  obtain ⟨turns, rfl⟩ := Nat.exists_eq_add_of_le' hturns
  rw [stepUntilIdle, hfirst]
  dsimp only
  rw [stepUntilIdle, hsecond]

/-- A channel that fits the batcher's budget to the byte and is dropped by the
assembler: nothing is derived from its payloads. -/
theorem wide_lost : ∃ turns submissions drained, (wideEncoder block).encodeAndDrain turns =
        some (.ok submissions, drained) ∧
      drained.drawn.Nodup ∧
      deriveBatches storedReader storedRollupConfig
        ((submissions.flatMap payloads).map (storedOrigin, ·)) = [] := by
  have hvalid : wideConfig.Valid := wideConfig.validate_ok_iff.mp rfl
  have hbudget : wideConfig.budget hvalid = blobBudget wideFrameSize wideFrameSize_ge := rfl
  obtain ⟨channel, hopen, hcomp⟩ := wide_composeBlocks hbatch hlength
  obtain ⟨idle, hdrawn, hidle⟩ := wide_stepUntilIdle hbatch hlength
  have hcounts : (wideConfig.budget hvalid).frameCounts 0
      ([channel].map (·.availableOutput)) = [52332] := by
    rw [map_singleton, hopen, hbudget, wide_frameCounts]
  have hone : idle.drawn.Nodup := by
    rw [hdrawn]
    exact nodup_singleton wideId
  have hrange : ∀ channels : List (BatcherChannel storedExternals.brotli),
      composeBlocks storedRollupConfig wideConfig storedFresh.rng 0 none
        ([block].map (BufferedBlock.new storedExternals)) = some channels →
      Forall₂ (fun _ count => count ≤ maxFrames) channels
        ((wideConfig.budget hvalid).frameCounts 0 (channels.map (·.availableOutput))) := by
    intro channels hchans
    obtain rfl := Option.some.inj (hcomp.symm.trans hchans)
    rw [hcounts]
    exact .cons (by decide) .nil
  obtain ⟨turns, submissions, drained, hrun, hsame⟩ :=
    encodeAndDrain_returns (fun _ => rfl) wideFresh_new
      (wideFresh_addBlocks block) hvalid hidle hone hrange
  have hdistinct : drained.drawn.Nodup := hsame ▸ hone
  refine ⟨turns, submissions, drained, hrun, hdistinct, ?_⟩
  obtain ⟨channels, groups, streams, hchans, -, -, -, hsizes, hderive⟩ :=
    deriveBatches_drained stored_invertedBy (fun _ => rfl) wideFresh_new
      (wideFresh_addBlocks block) hvalid hrun hdistinct (show ((submissions.flatMap payloads).map
        (storedOrigin, ·)).map (·.2) = _ by simp) (placed_timeout _ _ _)
  obtain rfl := Option.some.inj (hcomp.symm.trans hchans)
  have hcharged : streams.map chargedSize = [100001400] := by
    rw [hsizes, assembledSizes, hcounts, map_singleton, hopen]
    rfl
  have hnone : (groups.zip streams).filter (chargedSize ·.2 ≤ maxRlpBytesPerChannelFjord) = [] := by
    rw [filter_eq_nil_iff]
    intro pair hpair
    have hmem : chargedSize pair.2 ∈ streams.map chargedSize := mem_map_of_mem (of_mem_zip hpair).2
    rw [hcharged, mem_singleton] at hmem
    rw [hmem]
    decide
  rw [hderive, keptBatches, hnone]
  rfl

end

end Wide

end BaseChain
