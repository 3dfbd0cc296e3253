/-
What a composed channel holds: the stream of a compressor that has been given
the entries of some batches, so that decompressing it gives the entries back.
-/
import BaseChain.EncodeAndDrain
import BaseChain.BatchReader

namespace BaseChain

open List BatcherChannel RollupConfig

/-- The states of a writer with everything it has been given and everything it
has pushed. -/
inductive BrotliWriter.Writes (brotli : BrotliWriter) (level : Nat) :
    brotli.State → Bytes → Bytes → Prop where
  | new : Writes brotli level (brotli.new level) [] []
  | writeAll {state state' : brotli.State} {input output data pushed : Bytes}
      (hwrites : Writes brotli level state input output)
      (hwrite : brotli.writeAll state data = .ok (state', pushed)) :
      Writes brotli level state' (input ++ data) (output ++ pushed)
  | flush {state state' : brotli.State} {input output pushed : Bytes}
      (hwrites : Writes brotli level state input output)
      (hflush : brotli.flush state = .ok (state', pushed)) :
      Writes brotli level state' input (output ++ pushed)

variable (brotli : BrotliWriter)

/-- Decompression gives back what a finished stream has been given. -/
def BrotliWriter.InvertedBy (decompress : Bytes → Nat → Option Bytes) : Prop :=
  ∀ level state input output limit, brotli.Writes level state input output → input.length ≤ limit →
      decompress (output ++ brotli.intoInner state) limit = some input

/-- No finished stream of a channel is longer than the encoder's bound. -/
def BrotliWriter.Bounded : Prop := ∀ config : EncoderConfig, ∀ state input output,
    brotli.Writes config.brotliLevel state input output →
      input.length ≤ maxRlpBytesPerChannelFjord →
      (channelVersionBrotli :: (output ++ brotli.intoInner state)).length ≤
        (CompressionStream.new config.brotliLevel (config.compressedSizeTarget.bind flushInterval) :
            CompressionStream brotli).maxOutputSize input.length

variable {brotli : BrotliWriter}

/-- The wire form of some batches. -/
def entries (batches : List SingleBatch) : Bytes := batches.flatMap SingleBatch.channelEntry

/-- An open channel that has been given the entries of some batches. -/
structure Writing (rollupConfig : RollupConfig) (config : EncoderConfig)
    (batches : List SingleBatch) (channel : BatcherChannel brotli) : Prop where
  stream : ∃ stream output, channel.compressor = some stream ∧
    brotli.Writes config.brotliLevel stream.writer (entries batches) output ∧
    channel.emitted ++ stream.sink = channelVersionBrotli :: output
  inputBytes : channel.inputBytes = (entries batches).length
  limit : (entries batches).length ≤ maxRlpBytesPerChannelFjord
  rollup : channel.rollupConfig = rollupConfig
  frameSize : channel.maxFrameSize = config.maxFrameSize

/-- A closed channel that holds the entries of some batches. -/
structure Written (config : EncoderConfig) (batches : List SingleBatch)
    (channel : BatcherChannel brotli) : Prop where
  stream : ∃ state output, brotli.Writes config.brotliLevel state (entries batches) output ∧
    channel.emitted = channelVersionBrotli :: (output ++ brotli.intoInner state)
  closed : channel.isOpen = false
  nonempty : batches ≠ []
  limit : (entries batches).length ≤ maxRlpBytesPerChannelFjord
  frameSize : channel.maxFrameSize = config.maxFrameSize

variable {stream : CompressionStream brotli}

/-- Appending gives the writer the data and transfers what it has pushed. -/
theorem append_writes {stream' : CompressionStream brotli} {level : Nat}
    {input output data pushed : Bytes}
    (hwrites : brotli.Writes level stream.writer input output)
    (happend : stream.append data = .ok (stream', pushed)) :
    ∃ output', brotli.Writes level stream'.writer (input ++ data) (output ++ output') ∧
      pushed = stream.sink ++ output' ∧ stream'.sink = [] := by
  unfold CompressionStream.append at happend
  cases hwrite : brotli.writeAll stream.writer data with
  | error => simp [hwrite, bind, Except.bind] at happend
  | ok written =>
    obtain ⟨state, first⟩ := written
    have hwritten := hwrites.writeAll hwrite
    simp only [hwrite, bind, Except.bind] at happend
    split at happend
    · cases hflush : brotli.flush state with
      | error => simp [hflush] at happend
      | ok flushed =>
        obtain ⟨state', second⟩ := flushed
        simp only [hflush] at happend
        cases happend
        refine ⟨first ++ second, ?_, ?_, rfl⟩
        · rw [← append_assoc]
          exact hwritten.flush hflush
        · simp
    · cases happend
      exact ⟨first, hwritten, rfl, rfl⟩

theorem projectedLimit_none {channel : BatcherChannel brotli} {maximum nextInputBytes : Nat}
    (hlimit : channel.projectedLimit stream maximum nextInputBytes = none) :
    nextInputBytes ≤ maximum := by
  unfold projectedLimit at hlimit
  split at hlimit
  · cases hlimit
  · omega

variable {rollupConfig : RollupConfig} {config : EncoderConfig}

section Content

variable {batches : List SingleBatch} {channel channel' : BatcherChannel brotli}

theorem Writing.of_new {id : ChannelId} {blockStart : Nat}
    (hnew : new id rollupConfig config blockStart 0 =
      .ok channel) : Writing rollupConfig config [] channel := by
  unfold new at hnew
  split at hnew
  · cases hnew
  · cases hnew
    exact ⟨⟨_, [], rfl, .new, rfl⟩, rfl, Nat.zero_le _, rfl, rfl⟩

/-- An admitted batch is given to the compressor. -/
theorem Writing.addBatch (hwriting : Writing rollupConfig config batches channel)
    (hfjord : ∀ timestamp, rollupConfig.isFjordActive timestamp = true)
    {batch : SingleBatch} {daBytes : Nat}
    {outcome : Except ChannelError ChannelAddOutcome}
    (hadd : channel.addBatch batch daBytes = (outcome, channel'))
    (hadmits : Admits outcome) :
    Writing rollupConfig config (batches ++ [batch]) channel' := by
  obtain ⟨stream, stream', pushed, hstream, hlimit, happend, rfl⟩ :=
    addBatch_eq_of_admits hadd hadmits
  obtain ⟨⟨_, output, hsame, hwrites, hemitted⟩, hbytes, hsmall, hrollup, hsize⟩ := hwriting
  obtain rfl := Option.some.inj (hstream.symm.trans hsame)
  obtain ⟨output', hwrites', rfl, hsink⟩ := append_writes hwrites happend
  have hentries : entries (batches ++ [batch]) = entries batches ++ batch.channelEntry := by
    simp [entries]
  have hbound := projectedLimit_none hlimit
  have hsum : saturatingAdd channel.inputBytes batch.channelEntry.length =
      (entries (batches ++ [batch])).length ∧
      (entries (batches ++ [batch])).length ≤ maxRlpBytesPerChannelFjord := by
    rw [hrollup, maxRlpBytesPerChannel, if_pos (hfjord _), saturatingAdd, u64Max] at hbound
    rw [saturatingAdd, u64Max, hentries, length_append]
    unfold maxRlpBytesPerChannelFjord at hbound ⊢
    omega
  rw [pushOutput_eq]
  refine ⟨⟨stream', output ++ output', rfl, ?_, ?_⟩, hsum.1, hsum.2, hrollup, hsize⟩
  · rw [hentries]
    exact hwrites'
  · rw [hsink, append_nil, ← append_assoc, hemitted]
    rfl

/-- Closing the channel ends the stream. -/
theorem Writing.close (hwriting : Writing rollupConfig config batches channel)
    (hbatches : batches ≠ []) : Written config batches channel.close.2 := by
  obtain ⟨⟨stream, output, hstream, hwrites, hemitted⟩, -, hlimit, -, hsize⟩ := hwriting
  have hclosed := BatchEncoder.close_isOpen channel
  simp only [BatcherChannel.close, hstream, CompressionStream.finish, pushOutput_eq] at hclosed ⊢
  refine ⟨⟨stream.writer, output, hwrites, ?_⟩, hclosed, hbatches, hlimit, hsize⟩
  rw [← append_assoc, hemitted]
  rfl

end Content

section Composition

variable {externals : BatcherExternals}

/-- The open channel of a composition with the batches it has been given. -/
def Given (rollupConfig : RollupConfig) (config : EncoderConfig) (given : List SingleBatch) :
    Option (BatcherChannel externals.brotli) → Prop
  | none => given = []
  | some channel => given ≠ [] ∧ Writing rollupConfig config given channel

/-- The channels of a composition hold its batches, in order. -/
def Holds (config : EncoderConfig) (given : List SingleBatch) (blocks : List BufferedBlock)
    (channels : List (BatcherChannel externals.brotli)) : Prop :=
  ∃ groups batches, List.Forall₂ (Written config) groups channels ∧
    groups.flatten = given ++ batches ∧
    blocks.map (fun block => blockToSingleBatch externals block.block) = batches.map .ok

variable {channel : BatcherChannel externals.brotli}

theorem Holds.cons {given : List SingleBatch} {blocks : List BufferedBlock}
    {channels : List (BatcherChannel externals.brotli)}
    (hwritten : Written config given channel)
    (hholds : Holds config [] blocks channels) :
    Holds config given blocks (channel :: channels) := by
  obtain ⟨groups, batches, hgroups, hflatten, hblocks⟩ := hholds
  refine ⟨given :: groups, batches, .cons hwritten hgroups, ?_, hblocks⟩
  rw [flatten_cons, hflatten, nil_append]

variable {blocks : List BufferedBlock}
  {channels : List (BatcherChannel externals.brotli)} {batch : SingleBatch}
  {given : List SingleBatch}

theorem Holds.block {block : BufferedBlock}
    (hbatch : blockToSingleBatch externals block.block = .ok batch)
    (hholds : Holds config (given ++ [batch]) blocks channels) :
    Holds config given (block :: blocks) channels := by
  obtain ⟨groups, batches, hgroups, hflatten, hblocks⟩ := hholds
  refine ⟨groups, batch :: batches, hgroups, ?_, ?_⟩
  · rw [hflatten, append_assoc]
    rfl
  · rw [map_cons, map_cons, hbatch, hblocks]

section

variable (hfjord : ∀ timestamp, rollupConfig.isFjordActive timestamp = true)
include hfjord

variable
  {compose : Option (BatcherChannel externals.brotli) →
    Option (List (BatcherChannel externals.brotli))}

section

variable {block : BufferedBlock} (hbatch : blockToSingleBatch externals block.block = .ok batch)
  (hcomp : ∀ current given channels, Given rollupConfig config given
    current → compose current = some channels → Holds config given blocks channels)
include hbatch hcomp

/-- A batch that a channel takes, and the composition behind it. -/
theorem settle_holds (hwriting : Writing rollupConfig config given channel)
    (hsettle : settle (channel.addBatch batch block.estimatedDaBytes) compose = some channels) :
    Holds config given (block :: blocks) channels := by
  refine Holds.block hbatch ?_
  unfold settle at hsettle
  split at hsettle
  · rename_i channel' hadd
    have hnext := hwriting.addBatch hfjord hadd (.inl rfl)
    exact hcomp (some channel') _ _ ⟨by simp, hnext⟩ hsettle
  · rename_i channel' hadd
    have hnext := hwriting.addBatch hfjord hadd (.inr rfl)
    obtain ⟨rest, hrest, rfl⟩ := Option.map_eq_some_iff.mp hsettle
    exact .cons (hnext.close (by simp)) (hcomp none [] rest rfl hrest)
  · cases hsettle

theorem placeFresh_holds {id : ChannelId} {cursor : Nat} (hplace : placeFresh rollupConfig config
      id cursor batch block.estimatedDaBytes compose = some channels) :
    Holds config [] (block :: blocks) channels := by
  unfold placeFresh at hplace
  split at hplace
  · cases hplace
  · rename_i channel hnew
    exact settle_holds hfjord hbatch hcomp (.of_new hnew) hplace

end

/-- The composed channels hold the batches of the blocks, in order. -/
theorem composeBlocks_holds {rng : Nat → ChannelId} {cursor : Nat}
    {current : Option (BatcherChannel externals.brotli)}
    (hgiven : Given rollupConfig config given current)
    (hcomp : composeBlocks rollupConfig config rng cursor current blocks =
      some channels) : Holds config given blocks channels := by
  induction blocks generalizing rng cursor current given channels with
  | nil =>
    cases current with
    | none =>
      obtain rfl : given = [] := hgiven
      cases hcomp
      exact ⟨[], [], .nil, rfl, rfl⟩
    | some =>
      cases hcomp
      exact .cons (hgiven.2.close hgiven.1) ⟨[], [], .nil, rfl, rfl⟩
  | cons block blocks ih =>
    have hrest : ∀ (rng : Nat → ChannelId) (current :
        Option (BatcherChannel externals.brotli)) given channels,
        Given rollupConfig config given current →
        composeBlocks rollupConfig config rng (cursor + 1) current blocks =
          some channels → Holds config given blocks channels :=
      fun rng current given channels hgiven hcomp => ih hgiven hcomp
    cases current with
    | none =>
      obtain rfl : given = [] := hgiven
      rw [composeBlocks] at hcomp
      split at hcomp
      · cases hcomp
      · rename_i batch hbatch
        exact placeFresh_holds hfjord hbatch (hrest _) hcomp
    | some =>
      rw [composeBlocks] at hcomp
      split at hcomp
      · cases hcomp
      rename_i batch hbatch
      split at hcomp
      · obtain ⟨rest, hplace, rfl⟩ := Option.map_eq_some_iff.mp hcomp
        exact .cons (hgiven.2.close hgiven.1) (placeFresh_holds hfjord hbatch (hrest _) hplace)
      · exact settle_holds hfjord hbatch (hrest _) hgiven.2 hcomp

end

end Composition

end BaseChain
