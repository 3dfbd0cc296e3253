/-
Block coverage of the encoder: the channels of the FIFO tile the composed part
of the block queue, and the queue is a chain of parent hashes.
-/
import BaseChain.BatchEncoderMoves
import BaseChain.Tiling
import Mathlib.Data.List.Chain

namespace BaseChain

open List BatcherChannel DaEgress

variable {rollupConfig : RollupConfig} {config : EncoderConfig}

namespace BatcherChannel

variable {brotli : BrotliWriter}

/-- What coverage depends on in a channel. -/
def shape (channel : BatcherChannel brotli) : (Nat × Nat) × Bool :=
  (channel.blockRange, channel.isOpen)

theorem shape_takeFrame (channel channel' : BatcherChannel brotli)
    (frame : Frame) (dataLen : Nat) (isLast : Bool)
    (htake : channel.takeFrame dataLen isLast = some (.ok (frame, channel'))) :
    channel'.shape = channel.shape := by
  obtain ⟨data, output, -, -, -, -, -, rfl⟩ := takeFrame_eq_ok htake
  rfl

variable {channel : BatcherChannel brotli}

theorem shape_close (hopen : channel.isOpen = true) :
    channel.close.2.shape = (channel.blockRange, false) := by
  obtain ⟨stream, hstream⟩ := Option.isSome_iff_exists.mp hopen
  obtain ⟨output, hclose⟩ := close_eq_pushOutput hstream
  rw [hclose, pushOutput_eq]
  rfl

theorem shape_addBatch {channel' : BatcherChannel brotli} {batch : SingleBatch}
    {daBacklogBytes : Nat} {outcome : Except ChannelError ChannelAddOutcome}
    (hadd : channel.addBatch batch daBacklogBytes = (outcome, channel'))
    (hadmits : Admits outcome) :
    channel'.shape = ((channel.blockStart, channel.blockEnd + 1), true) := by
  obtain ⟨stream, stream', output, hstream, -, -, rfl⟩ := addBatch_eq_of_admits hadd hadmits
  rw [pushOutput_eq]
  rfl

theorem shape_rebaseAfterPrune (channel : BatcherChannel brotli) (pruneCount : Nat) :
    (channel.rebaseAfterPrune pruneCount).shape =
      (shiftRange pruneCount channel.blockRange, channel.isOpen) := by
  simp only [shape, rebaseAfterPrune, blockRange, blockEnd, shiftRange, isOpen,
    Prod.mk.injEq, true_and, and_true]
  omega

theorem new_eq_ok {id : ChannelId} {blockStart openedL1Block : Nat}
    (hnew : new id rollupConfig config blockStart openedL1Block = .ok channel) :
    channel.blockRange = (blockStart, blockStart) := by
  unfold new at hnew
  split at hnew
  · cases hnew
  · cases hnew
    rfl

end BatcherChannel

namespace BatchEncoder

variable {externals : BatcherExternals}

/-- The blocks of the queue, oldest first, each the parent of the next, and
the tip is the hash of the last. -/
structure HashChain (externals : BatcherExternals)
    (blocks : List BufferedBlock) (tip : Option B256) : Prop where
  linked : blocks.IsChain fun parent child =>
    child.block.header.parentHash = externals.hashSlow parent.block.header
  ends : ∀ last, blocks.getLast? = some last → tip = some (externals.hashSlow last.block.header)

/-- The channels tile the blocks below the cursor, and only the last of them
may be open. -/
structure Covers (cursor : Nat) (channels : List (BatcherChannel externals.brotli)) : Prop where
  tiles : Tiles 0 cursor (channels.map (·.blockRange))
  closed : channels.Pairwise fun earlier _ => earlier.isOpen = false

structure Coverage (encoder : BatchEncoder externals) : Prop where
  cursor_le : encoder.blockCursor ≤ encoder.blocks.length
  covers : Covers encoder.blockCursor encoder.channels
  chain : HashChain externals encoder.blocks encoder.tip

section Channels

variable {cursor : Nat} {channels channels' : List (BatcherChannel externals.brotli)}

/-- Coverage depends on the shapes of the channels only. -/
theorem Covers.of_shape (hcovers : Covers cursor channels)
    (hshape : channels'.map (·.shape) = channels.map (·.shape)) :
    Covers cursor channels' := by
  have hranges : ∀ list : List (BatcherChannel externals.brotli),
      list.map (·.blockRange) = (list.map (·.shape)).map Prod.fst :=
    fun list => by rw [map_map]; rfl
  have hclosed : ∀ list : List (BatcherChannel externals.brotli),
      (list.Pairwise fun earlier _ => earlier.isOpen = false) ↔
        (list.map (·.shape)).Pairwise fun earlier _ => earlier.2 = false :=
    fun list => by rw [pairwise_map]; rfl
  constructor
  · rw [hranges, hshape, ← hranges]
    exact hcovers.tiles
  · rw [hclosed, hshape, ← hclosed]
    exact hcovers.closed

variable {channel : BatcherChannel externals.brotli}

theorem covers_concat {front : List (BatcherChannel externals.brotli)} :
    Covers cursor (front ++ [channel]) ↔ Covers channel.blockStart front ∧
        (∀ earlier ∈ front, earlier.isOpen = false) ∧
        channel.blockStart < channel.blockEnd ∧ channel.blockEnd = cursor := by
  constructor
  · rintro ⟨htiles, hclosed⟩
    rw [map_append, map_singleton, tiles_concat] at htiles
    obtain ⟨hfront, hlast⟩ := pairwise_append.mp hclosed
    exact ⟨⟨htiles.1, hfront⟩, fun earlier hearlier => hlast.2 earlier hearlier channel
        (mem_singleton_self channel), htiles.2⟩
  · rintro ⟨⟨htiles, hfront⟩, hclosed, hrange⟩
    constructor
    · rw [map_append, map_singleton, tiles_concat]
      exact ⟨htiles, hrange⟩
    · refine pairwise_append.mpr ⟨hfront, pairwise_singleton _ _, ?_⟩
      intro earlier hearlier _ _
      exact hclosed earlier hearlier

/-- The channels in front of a channel cover the blocks in front of it. -/
theorem Covers.front {front back : List (BatcherChannel externals.brotli)}
    (hcovers : Covers cursor (front ++ channel :: back)) :
    Covers channel.blockStart front ∧ channel.blockStart ≤ cursor := by
  have htiles := hcovers.tiles
  rw [map_append, tiles_append] at htiles
  obtain ⟨middle, hfront, rfl, hrange, hback⟩ := htiles
  exact ⟨⟨hfront, (pairwise_append.mp hcovers.closed).1⟩, (le_of_lt hrange).trans hback.le⟩

/-- When the last channel is closed all of them are. -/
theorem Covers.all_closed (hcovers : Covers cursor channels)
    (hlast : ∀ last, channels.getLast? = some last → last.isOpen = false) :
    ∀ channel ∈ channels, channel.isOpen = false := by
  intro channel hchan
  obtain ⟨front, back, rfl⟩ := append_of_mem hchan
  cases back with
  | nil => exact hlast channel (by simp)
  | cons next =>
    have hpairs := (pairwise_append.mp hcovers.closed).2.1
    exact (pairwise_cons.mp hpairs).1 next mem_cons_self

/-- Pruning drops the covered channels and moves the others. -/
theorem Covers.prune (hcovers : Covers cursor channels) (pruneCount : Nat) :
    Covers (cursor - pruneCount) ((channels.dropWhile (·.blockEnd ≤ pruneCount)).map
        (·.rebaseAfterPrune pruneCount)) := by
  constructor
  · have hcut := hcovers.tiles.cut (Nat.zero_le pruneCount)
    rw [dropWhile_map, map_map] at hcut
    rw [map_map]
    refine (congrArg (Tiles 0 _) (map_congr_left ?_)).mpr hcut
    intro channel _
    exact congrArg Prod.fst (channel.shape_rebaseAfterPrune pruneCount)
  · rw [pairwise_map]
    exact hcovers.closed.sublist (dropWhile_sublist _)

end Channels

section Blocks

variable {blocks : List BufferedBlock} {tip : Option B256}

theorem HashChain.extend {block : L2Block} (hchain : HashChain externals blocks tip)
    (htip : ∀ expected, tip = some expected → block.header.parentHash = expected) :
    HashChain externals (blocks ++ [BufferedBlock.new externals block])
      (some (externals.hashSlow block.header)) := by
  constructor
  · refine isChain_append.mpr ⟨hchain.linked, .singleton _, ?_⟩
    intro last hlast child hchild
    obtain rfl : BufferedBlock.new externals block = child := by simpa using hchild
    exact htip _ (hchain.ends last hlast)
  · intro last hlast
    obtain rfl : BufferedBlock.new externals block = last := by simpa using hlast
    rfl

theorem HashChain.drop (hchain : HashChain externals blocks tip) (count : Nat) (safeHash : B256) :
    HashChain externals (blocks.drop count)
      (if (blocks.drop count).isEmpty then some safeHash else tip) := by
  refine ⟨hchain.linked.drop count, ?_⟩
  intro last hlast
  have hsome : blocks.getLast? = some last := by
    rw [List.getLast?_drop] at hlast
    split at hlast
    · cases hlast
    · exact hlast
  have hfull : (blocks.drop count).isEmpty = false := by
    cases hdrop : blocks.drop count with
    | nil =>
      rw [hdrop] at hlast
      cases hlast
    | cons => rfl
  rw [hfull]
  exact hchain.ends last hsome

end Blocks

/-- Every move keeps coverage. -/
theorem Coverage.move {before after : BatchEncoder externals}
    (hcoverage : Coverage before) (hmove : Move before after) :
    Coverage after := by
  obtain ⟨hcursor, hcovers, hchain⟩ := hcoverage
  cases hmove with
  | retune => exact ⟨hcursor, hcovers, hchain⟩
  | extend _ htip =>
    refine ⟨?_, hcovers, hchain.extend htip⟩
    rw [length_append]
    exact Nat.le_add_right_of_le hcursor
  | accept front channel channel' outcome buffered batch hchans hopen hblock hbatch hadd hadmits =>
      rw [hchans, covers_concat] at hcovers
      obtain ⟨hfront, hclosed, hrange, hend⟩ := hcovers
      have hshape := shape_addBatch hadd hadmits
      have hstart : channel'.blockStart = channel.blockStart := congrArg (·.1.1) hshape
      have hend' : channel'.blockEnd = channel.blockEnd + 1 := congrArg (·.1.2) hshape
      have hlt := (List.getElem?_eq_some_iff.mp hblock).1
      refine ⟨hlt, covers_concat.mpr ⟨hstart ▸ hfront, hclosed, ?_, ?_⟩, hchain⟩
      · omega
      · rw [hend', hend]
  | acceptFresh channel channel' outcome buffered batch hclosed hblock hbatch hnew hadd hadmits =>
      have hshape := shape_addBatch hadd hadmits
      have hrange := new_eq_ok hnew
      have hstart : channel.blockStart = before.blockCursor := congrArg Prod.fst hrange
      have hend : channel.blockEnd = before.blockCursor := congrArg Prod.snd hrange
      have hstart' : channel'.blockStart = before.blockCursor :=
        (congrArg (·.1.1) hshape).trans hstart
      have hend' : channel'.blockEnd = before.blockCursor + 1 :=
        (congrArg (·.1.2) hshape).trans (congrArg (· + 1) hend)
      have hlt := (List.getElem?_eq_some_iff.mp hblock).1
      refine ⟨hlt, covers_concat.mpr ⟨hstart'.symm ▸ hcovers,
        hcovers.all_closed hclosed, ?_, hend'⟩, hchain⟩
      omega
  | close _ channel hchans hopen =>
    rw [hchans, covers_concat] at hcovers
    have hrange : channel.close.2.blockRange = channel.blockRange :=
      congrArg Prod.fst (shape_close hopen)
    have hstart : channel.close.2.blockStart = channel.blockStart := congrArg Prod.fst hrange
    have hend : channel.close.2.blockEnd = channel.blockEnd := congrArg Prod.snd hrange
    refine ⟨hcursor, covers_concat.mpr ?_, hchain⟩
    rw [hstart, hend]
    exact hcovers
  | release =>
    refine ⟨hcursor, hcovers.of_shape ?_, hchain⟩
    rw [map_map]
    rfl
  | commitBlob _ _ _ _ hcommit =>
    obtain ⟨frames, hframes, -⟩ := commitBlob_eq_some hcommit
    exact ⟨hcursor, hcovers.of_shape (commitFrames_map _ shape_takeFrame hframes), hchain⟩
  | commitCalldata _ _ _ _ hcommit =>
    obtain ⟨frame, hframe, -⟩ := commitCalldata_eq_some hcommit
    exact ⟨hcursor, hcovers.of_shape (commitFrame_map _ shape_takeFrame hframe), hchain⟩
  | lease => exact ⟨hcursor, hcovers, hchain⟩
  | confirm id l1Block =>
    obtain ⟨channels, hconfirm, hview⟩ := before.confirm_eq id l1Block
    rw [hconfirm]
    exact ⟨hcursor, hcovers.of_shape (hview _ fun _ _ => rfl), hchain⟩
  | requeue => exact ⟨hcursor, hcovers, hchain⟩
  | invalidate _ hidx =>
    obtain ⟨affected, front, first, back, -, hsplit, -, -, hreplay⟩ := invalidateChannel_eq hidx
    rw [hsplit] at hcovers
    obtain ⟨hfront, hle⟩ := hcovers.front
    rw [hreplay, Nat.min_eq_right hle]
    exact ⟨hle.trans hcursor, hfront, hchain⟩
  | prune pruneCount _ safeHash =>
    rw [pruneBlocks_eq]
    refine ⟨?_, hcovers.prune pruneCount, hchain.drop pruneCount safeHash⟩
    rw [length_drop]
    exact Nat.sub_le_sub_right hcursor pruneCount
  | adoptTip _ hempty =>
    refine ⟨hcursor, hcovers, ?_, ?_⟩
    · rw [hempty]
      exact .nil
    · intro last hlast
      rw [hempty] at hlast
      cases hlast
  | reset =>
    refine ⟨le_refl 0, ⟨rfl, .nil⟩, .nil, ?_⟩
    intro last hlast
    cases hlast

theorem new_coverage {rng : Nat → ChannelId} {fresh : BatchEncoder externals}
    (hnew : new rollupConfig config rng = .ok fresh) : Coverage fresh := by
  unfold new at hnew
  split at hnew
  · cases hnew
  cases hnew
  refine ⟨le_refl 0, ⟨rfl, .nil⟩, .nil, ?_⟩
  intro last hlast
  cases hlast

theorem Reachable.coverage {encoder : BatchEncoder externals}
    (hreach : Reachable encoder) : Coverage encoder :=
  hreach.of_moves (fun _ _ hbefore hmove => hbefore.move hmove)
    fun _ _ _ _ hnew => new_coverage hnew

/-- A safe head that does not fit the queue is refused without an effect. -/
theorem reconcileDerivation_mismatch (encoder : BatchEncoder externals)
    {safeL2 : BlockInfo} {currentL1 : Nat} (hblocks : encoder.blocks ≠ [])
    (hmismatch : (encoder.reconcileDerivation safeL2 currentL1).1 = .safeHeadMismatch) :
    (encoder.reconcileDerivation safeL2 currentL1).2 = encoder := by
  unfold reconcileDerivation at hmismatch ⊢
  split
  · rename_i after hprune
    exact encoder.pruneSafe_of_false hblocks hprune
  · rename_i hprune
    rw [hprune] at hmismatch
    dsimp only at hmismatch
    split at hmismatch
    · cases hmismatch
    · cases hmismatch

/-- Block coverage in every reachable state: the cursor stays in the queue,
the channels tile the blocks below it, only the last one may be open, the queue
is a hash chain, and a refused safe head changes nothing. -/
theorem reachable_blockCoverage {encoder : BatchEncoder externals}
    (hreach : Reachable encoder) :
    encoder.blockCursor ≤ encoder.blocks.length ∧
      Tiles 0 encoder.blockCursor (encoder.channels.map (·.blockRange)) ∧
      (∀ index, encoder.channels.countP
        (fun channel => channel.blockStart ≤ index ∧ index < channel.blockEnd) =
          if index < encoder.blockCursor then 1 else 0) ∧
      (∀ channel ∈ encoder.channels.dropLast, channel.isOpen = false) ∧
      HashChain externals encoder.blocks encoder.tip ∧
      ∀ safeL2 currentL1, encoder.blocks ≠ [] →
        (encoder.reconcileDerivation safeL2 currentL1).1 =
          .safeHeadMismatch →
        (encoder.reconcileDerivation safeL2 currentL1).2 = encoder := by
  obtain ⟨hcursor, hcovers, hchain⟩ := hreach.coverage
  refine ⟨hcursor, hcovers.tiles, ?_, ?_, hchain, ?_⟩
  · intro index
    rw [← hcovers.tiles.count_containing (Nat.zero_le index), List.countP_map]
    rfl
  · intro channel hchannel
    rcases List.eq_nil_or_concat encoder.channels with
      hempty | ⟨front, last, hsplit⟩
    · rw [hempty] at hchannel
      cases hchannel
    · rw [hsplit, List.concat_eq_append, covers_concat] at hcovers
      rw [hsplit, List.concat_eq_append, List.dropLast_concat] at hchannel
      exact hcovers.2.1 channel hchannel
  · intro safeL2 currentL1
    exact encoder.reconcileDerivation_mismatch

theorem reachable_blockCoverage_storedRun :
    storedRun.blockCursor = 1 ∧
      Tiles 0 1 (storedRun.channels.map (·.blockRange)) :=
  ⟨rfl, (reachable_blockCoverage storedRun_reachable).2.1⟩

end BatchEncoder

end BaseChain
