/-
What the operations of the encoder can do to its state, said once.  Every
operation is a sequence of elementary moves, and an invariant of the moves is
an invariant of all runs.
-/
import BaseChain.ReplayClosure

namespace BaseChain

open List DaEgress
open CompressionStream (finish)
open BatcherChannel (Admits addBatch addBatch_eq_of_admits close isOpen pushOutput_eq)

namespace BatchEncoder

variable {externals : BatcherExternals}

/-- One elementary change of the encoder's state, with its guard. -/
inductive Move : BatchEncoder externals → BatchEncoder externals → Prop
  /-- Fields that only steer later operations. -/
  | retune (encoder : BatchEncoder externals) (l1Head : Nat)
      (blobOverride : Bool) (deferred : Option StepError) :
      Move encoder { encoder with
        l1Head := l1Head, blobOverride := blobOverride,
        deferredStepError := deferred }
  /-- A block that extends the tip. -/
  | extend (encoder : BatchEncoder externals) (block : L2Block)
      (htip : ∀ expected, encoder.tip = some expected → block.header.parentHash = expected) :
      Move encoder { encoder with
        tip := some (externals.hashSlow block.header)
        blocks := encoder.blocks ++ [BufferedBlock.new externals block] }
  /-- The block at the cursor goes into the open channel. -/
  | accept (encoder : BatchEncoder externals)
      (front : List (BatcherChannel externals.brotli))
      (channel channel' : BatcherChannel externals.brotli)
      (outcome : Except ChannelError ChannelAddOutcome)
      (buffered : BufferedBlock) (batch : SingleBatch)
      (hchannels : encoder.channels = front ++ [channel])
      (hopen : channel.isOpen = true)
      (hblock : encoder.blocks[encoder.blockCursor]? = some buffered)
      (hbatch : blockToSingleBatch externals buffered.block = .ok batch)
      (hadd : channel.addBatch batch buffered.estimatedDaBytes = (outcome, channel'))
      (hadmits : Admits outcome) :
      Move encoder { encoder with
        channels := front ++ [channel']
        blockCursor := encoder.blockCursor + 1 }
  /-- The block at the cursor goes into a fresh channel. -/
  | acceptFresh (encoder : BatchEncoder externals)
      (channel channel' : BatcherChannel externals.brotli)
      (outcome : Except ChannelError ChannelAddOutcome)
      (buffered : BufferedBlock) (batch : SingleBatch)
      (hclosed : ∀ last, encoder.channels.getLast? = some last → last.isOpen = false)
      (hblock : encoder.blocks[encoder.blockCursor]? = some buffered)
      (hbatch : blockToSingleBatch externals buffered.block = .ok batch)
      (hnew : BatcherChannel.new (encoder.rng 0) encoder.rollupConfig
        encoder.config encoder.blockCursor encoder.l1Head = .ok channel)
      (hadd : channel.addBatch batch buffered.estimatedDaBytes = (outcome, channel'))
      (hadmits : Admits outcome) :
      Move encoder { encoder with
        channels := encoder.channels ++ [channel']
        blockCursor := encoder.blockCursor + 1
        rng := fun index => encoder.rng (index + 1)
        drawn := encoder.drawn ++ [encoder.rng 0] }
  /-- The open channel is closed. -/
  | close (encoder : BatchEncoder externals)
      (front : List (BatcherChannel externals.brotli))
      (channel : BatcherChannel externals.brotli)
      (hchannels : encoder.channels = front ++ [channel])
      (hopen : channel.isOpen = true) (hfull : channel.isEmpty = false) :
      Move encoder { encoder with channels := front ++ [channel.close.2] }
  /-- Every channel is released at the current head. -/
  | release (encoder : BatchEncoder externals) :
      Move encoder { encoder with
        channels := encoder.channels.map (·.releaseAt encoder.l1Head) }
  /-- A blob plan is committed. -/
  | commitBlob (encoder : BatchEncoder externals) (plan : List PlannedFrame)
      (egress : DaEgress) (channels : List (BatcherChannel externals.brotli))
      (hplan : planBlob encoder.channels encoder.l1Head = some plan)
      (hcommit : encoder.egress.commitBlob encoder.channels plan = some (egress, channels)) :
      Move encoder { encoder with egress := egress, channels := channels }
  /-- A calldata plan is committed. -/
  | commitCalldata (encoder : BatchEncoder externals) (plan : PlannedFrame)
      (egress : DaEgress) (channels : List (BatcherChannel externals.brotli))
      (hplan : planCalldata encoder.channels = some plan)
      (hcommit : encoder.egress.commitCalldata encoder.channels plan = some (egress, channels)) :
      Move encoder { encoder with egress := egress, channels := channels }
  /-- Ready artifacts are leased to the next submission id. -/
  | lease (encoder : BatchEncoder externals) (submission : BatchSubmission)
      (artifactIds : List ArtifactId) (artifacts : DaArtifacts)
      (hlease : encoder.egress.artifacts.lease encoder.nextId encoder.config.maxBlobsPerTx =
          some ((submission, artifactIds), artifacts)) :
      Move encoder { encoder with
        egress :=
          { artifacts := artifacts
            pending := insertPending encoder.egress.pending encoder.nextId artifactIds }
        nextId := encoder.nextId + 1 }
  /-- A submission landed. -/
  | confirm (encoder : BatchEncoder externals) (id : SubmissionId)
      (l1Block : Nat) : Move encoder (encoder.confirm id l1Block)
  /-- A submission is retried. -/
  | requeue (encoder : BatchEncoder externals) (id : SubmissionId) :
      Move encoder (encoder.requeue id)
  /-- A channel is replayed. -/
  | invalidate (encoder : BatchEncoder externals) (channelIdx : Nat)
      (hidx : channelIdx < encoder.channels.length) :
      Move encoder (encoder.invalidateChannel channelIdx)
  /-- Safe blocks are pruned. -/
  | prune (encoder : BatchEncoder externals) (pruneCount : Nat)
      (block : BufferedBlock) (safeHash : B256)
      (hpos : 0 < pruneCount) (hle : pruneCount ≤ encoder.blocks.length)
      (hblock : encoder.blocks[pruneCount - 1]? = some block)
      (hhash : externals.hashSlow block.block.header = safeHash) :
      Move encoder (encoder.pruneBlocks pruneCount safeHash)
  /-- An empty queue adopts the safe head as its tip. -/
  | adoptTip (encoder : BatchEncoder externals) (safeHash : B256)
      (hempty : encoder.blocks = []) :
      Move encoder { encoder with tip := some safeHash }
  /-- Everything buffered is dropped. -/
  | reset (encoder : BatchEncoder externals) (rng : Nat → ChannelId) :
      Move encoder (encoder.reset rng)

/-- Any sequence of moves. -/
abbrev Moves : BatchEncoder externals → BatchEncoder externals → Prop := Relation.ReflTransGen Move

variable {after before : BatchEncoder externals}

theorem Move.moves (hmove : Move before after) : Moves before after :=
  Relation.ReflTransGen.single hmove

variable (encoder : BatchEncoder externals)

section Equations

variable {β : Type} (view : BatcherChannel externals.brotli → β)
  (hview : ∀ channel l1Block,
    view (BatcherChannel.recordConfirmation channel l1Block) = view channel)

include hview in
theorem map_recordConfirmation (l1Block : Nat) (channelId : ChannelId)
    (channels : List (BatcherChannel externals.brotli)) :
    (recordConfirmation l1Block channelId channels).map view = channels.map view := by
  induction channels with
  | nil => rfl
  | cons _ _ ih =>
    rw [recordConfirmation]
    split
    · rw [map_cons, map_cons, hview]
    · rw [map_cons, map_cons, ih]

include hview in
theorem map_recordConfirmations (l1Block : Nat) (channelIds : List ChannelId)
    (channels : List (BatcherChannel externals.brotli)) :
    (channelIds.foldl (fun channels channelId => recordConfirmation l1Block channelId channels)
      channels).map view = channels.map view := by
  induction channelIds generalizing channels with
  | nil => rfl
  | cons _ _ ih => rw [foldl_cons, ih, map_recordConfirmation view hview]

/-- Confirming touches the egress, and of the channels only the record of
confirmations. -/
theorem confirm_eq (id : SubmissionId) (l1Block : Nat) : ∃ channels, encoder.confirm id l1Block =
        { encoder with
          egress := (encoder.egress.confirm id).2, channels := channels } ∧
      ∀ {β : Type} (view : BatcherChannel externals.brotli → β), (∀ channel l1Block,
          view (BatcherChannel.recordConfirmation channel l1Block) = view channel) →
        channels.map view = encoder.channels.map view := by
  unfold confirm
  split
  · rename_i hconfirm
    rw [hconfirm]
    exact ⟨encoder.channels, rfl, fun _ _ => rfl⟩
  · rename_i channelIds egress hconfirm
    rw [hconfirm]
    refine ⟨_, rfl, ?_⟩
    intro β view hview
    exact map_recordConfirmations view hview l1Block channelIds encoder.channels

/-- The channels that a safe head covers completely. -/
def coveredBy (pruneCount : Nat) : List (BatcherChannel externals.brotli) :=
  encoder.channels.takeWhile (·.blockEnd ≤ pruneCount)

theorem pruneBlocks_eq (pruneCount : Nat) (safeHash : B256) :
    encoder.pruneBlocks pruneCount safeHash =
      { encoder with
        blocks := encoder.blocks.drop pruneCount
        blockCursor := encoder.blockCursor - pruneCount
        tip := if (encoder.blocks.drop pruneCount).isEmpty then some safeHash
          else encoder.tip
        channels := (encoder.channels.dropWhile (·.blockEnd ≤ pruneCount)).map
            (·.rebaseAfterPrune pruneCount)
        egress := if (encoder.coveredBy pruneCount).length > 0 then
            encoder.egress.pruneChannels ((encoder.coveredBy pruneCount).map (·.id))
          else encoder.egress } := by
  have hsplit : encoder.coveredBy pruneCount ++
      encoder.channels.dropWhile (·.blockEnd ≤ pruneCount) =
        encoder.channels := takeWhile_append_dropWhile
  have hdrop : encoder.channels.drop (encoder.coveredBy pruneCount).length =
      encoder.channels.dropWhile (·.blockEnd ≤ pruneCount) := by
    conv_lhs => rw [← hsplit]
    exact drop_left
  unfold coveredBy at hdrop
  unfold pruneBlocks rebaseAfterBlockPrune coveredBy
  dsimp only
  by_cases hcovered : (encoder.channels.takeWhile (·.blockEnd ≤ pruneCount)).length > 0
  · rw [if_pos hcovered, hdrop]
    split
    · rfl
    · rfl
  · rw [Nat.eq_zero_of_not_pos hcovered] at hdrop
    rw [if_neg hcovered, ← hdrop]
    split
    · rfl
    · rfl

end Equations

section Decomposition

theorem closeCurrentChannel_moves : Moves encoder encoder.closeCurrentChannel.2 := by
  unfold closeCurrentChannel
  split
  · exact .refl
  · rename_i channel hlast
    split
    · exact .refl
    · rename_i hguard
      obtain ⟨front, hfront⟩ := List.getLast?_eq_some_iff.mp hlast
      simp only [Bool.or_eq_true, Bool.not_eq_true', not_or,
        Bool.not_eq_false, Bool.not_eq_true] at hguard
      have hmove := Move.close encoder front channel hfront hguard.1 hguard.2
      rw [hfront, dropLast_concat]
      exact hmove.moves

theorem checkChannelTimeout_moves : Moves encoder encoder.checkChannelTimeout.2 := by
  have hmoves := encoder.closeCurrentChannel_moves
  unfold checkChannelTimeout
  cases hclose : encoder.closeCurrentChannel with
  | mk =>
    rw [hclose] at hmoves
    dsimp only
    split
    · exact hmoves
    · exact .refl

variable {after : BatchEncoder externals}

theorem checkChannelTimeout_of_ok_false
    (hcheck : encoder.checkChannelTimeout = (.ok false, after)) :
    after = encoder := by
  unfold checkChannelTimeout at hcheck
  cases hclose : encoder.closeCurrentChannel with
  | mk result =>
    rw [hclose] at hcheck
    dsimp only at hcheck
    split at hcheck
    · obtain ⟨hresult, -⟩ := Prod.mk.inj hcheck
      cases result <;> cases hresult
    · exact (Prod.mk.inj hcheck).2.symm

theorem flushChannels_moves : Moves encoder encoder.flushChannels.2 := by
  have hclose := encoder.closeCurrentChannel_moves
  unfold flushChannels
  split
  · rename_i hclosed
    rw [hclosed] at hclose
    exact hclose
  · rename_i closed hclosed
    rw [hclosed] at hclose
    exact hclose.tail (Move.release closed)

variable {blockStart : Nat}

theorem openNewChannel_eq_some (hopen : encoder.openNewChannel blockStart = some after) :
    ∃ channel, BatcherChannel.new (encoder.rng 0) encoder.rollupConfig
        encoder.config blockStart encoder.l1Head = .ok channel ∧
      after = { encoder with
        channels := encoder.channels ++ [channel]
        rng := fun index => encoder.rng (index + 1)
        drawn := encoder.drawn ++ [encoder.rng 0] } := by
  unfold openNewChannel at hopen
  dsimp only at hopen
  split at hopen
  · cases hopen
  · rename_i channel hchan
    exact ⟨channel, hchan, (Option.some.inj hopen).symm⟩

variable {daBacklogBytes : Nat} {channel : BatcherChannel externals.brotli} {batch : SingleBatch}

/-- A rejected or failed batch leaves the channel as it was. -/
theorem addBatch_unchanged {channel' : BatcherChannel externals.brotli}
    {outcome : Except ChannelError ChannelAddOutcome}
    (hadd : channel.addBatch batch daBacklogBytes = (outcome, channel'))
    (hrefused : ¬ Admits outcome) : channel' = channel := by
  unfold addBatch at hadd
  dsimp only at hadd
  split at hadd
  · exact (Prod.mk.inj hadd).2.symm
  split at hadd
  · exact (Prod.mk.inj hadd).2.symm
  split at hadd
  · exact (Prod.mk.inj hadd).2.symm
  split at hadd
  · exact absurd (.inr (Prod.mk.inj hadd).1.symm) hrefused
  · exact absurd (.inl (Prod.mk.inj hadd).1.symm) hrefused

variable {front : List (BatcherChannel externals.brotli)} {result : StepResult}

/-- Closing the last channel when it is open and not empty. -/
theorem closeCurrentChannel_eq {encoder : BatchEncoder externals}
    (hchans : encoder.channels = front ++ [channel])
    (hopen : channel.isOpen = true) (hfull : channel.isEmpty = false) :
    encoder.closeCurrentChannel =
      (.ok (), { encoder with channels := front ++ [channel.close.2] }) := by
  obtain ⟨stream, hstream⟩ := Option.isSome_iff_exists.mp hopen
  simp [closeCurrentChannel, hchans, hopen, hfull, close, hstream, finish, Except.mapError]

/-- An admitted batch leaves the channel open and with a block in it. -/
theorem addBatch_admits_open {channel' : BatcherChannel externals.brotli}
    {outcome : Except ChannelError ChannelAddOutcome}
    (hadd : channel.addBatch batch daBacklogBytes = (outcome, channel'))
    (hadmits : Admits outcome) :
    channel'.isOpen = true ∧ channel'.isEmpty = false ∧
      channel'.deadlineL1Block = channel.deadlineL1Block := by
  obtain ⟨stream, stream', output, -, -, -, rfl⟩ := addBatch_eq_of_admits hadd hadmits
  simp [pushOutput_eq, isOpen, BatcherChannel.isEmpty]

/-- The three ways a batch is handled without an error. -/
theorem stepBatch_eq_ok {encoder : BatchEncoder externals}
    (hchans : encoder.channels = front ++ [channel]) (hopen : channel.isOpen = true)
    (hstep : encoder.stepBatch batch daBacklogBytes = some (.ok result, after)) :
    result ≠ .idle ∧ ∃ channel', (channel.addBatch batch daBacklogBytes = (.ok .accepted, channel') ∧
        after = { encoder with
          channels := front ++ [channel']
          blockCursor := encoder.blockCursor + 1 }) ∨
      (channel.addBatch batch daBacklogBytes = (.ok .targetReached, channel') ∧
        after = { encoder with
          channels := front ++ [channel'.close.2]
          blockCursor := encoder.blockCursor + 1 }) ∨
      (∃ limit, channel.addBatch batch daBacklogBytes = (.ok (.rejected limit), channel') ∧
        channel.isEmpty = false ∧
        after = { encoder with channels := front ++ [channel.close.2] }) := by
  unfold stepBatch at hstep
  rw [hchans, getLast?_concat, dropLast_concat] at hstep
  dsimp only at hstep
  cases hadd : channel.addBatch batch daBacklogBytes with
  | mk outcome channel' =>
    rw [hadd] at hstep
    dsimp only at hstep
    split at hstep
    · cases hstep
    · cases hstep
      exact ⟨by simp, channel', .inl ⟨rfl, rfl⟩⟩
    · obtain ⟨hopen', hfull, -⟩ := addBatch_admits_open hadd (.inr rfl)
      rw [closeCurrentChannel_eq rfl hopen' hfull] at hstep
      cases hstep
      exact ⟨by simp, channel', .inr (.inl ⟨rfl, rfl⟩)⟩
    · rename_i limit
      have hrefused : ¬ Admits (.ok (.rejected limit)) := by
        rintro (hcase | hcase) <;> cases hcase
      obtain rfl := addBatch_unchanged hadd hrefused
      split at hstep
      · cases hstep
      rename_i hfull
      rw [Bool.not_eq_true] at hfull
      rw [closeCurrentChannel_eq rfl hopen hfull] at hstep
      cases hstep
      exact ⟨by simp, channel', .inr (.inr ⟨limit, rfl, hfull, rfl⟩)⟩

theorem new_fresh {id : ChannelId} {rollupConfig : RollupConfig}
    {config : EncoderConfig} {openedL1Block : Nat}
    (hnew : BatcherChannel.new id rollupConfig config blockStart
      openedL1Block = .ok channel) : channel.isOpen = true ∧ channel.isEmpty = true := by
  unfold BatcherChannel.new at hnew
  split at hnew
  · cases hnew
  · cases hnew
    exact ⟨rfl, rfl⟩

theorem stepBlock_moves (hstep : encoder.stepBlock = some (.ok result, after)) :
    Moves encoder after := by
  unfold stepBlock at hstep
  split at hstep
  · cases hstep
    exact .refl
  rename_i buffered hblock
  split at hstep
  · cases hstep
  rename_i batch hbatch
  obtain ⟨opened, hopened, hstep⟩ := Option.bind_eq_some_iff.mp hstep
  unfold ensureOpenChannel at hopened
  split at hopened
  · rename_i hopen
    cases hopened
    cases hlast : encoder.channels.getLast? with
    | none => simp [hlast] at hopen
    | some channel =>
      obtain ⟨front, hchans⟩ := List.getLast?_eq_some_iff.mp hlast
      replace hopen : channel.isOpen = true := by simpa [hlast] using hopen
      obtain ⟨-, channel', ⟨hadd, rfl⟩ | ⟨hadd, rfl⟩ | ⟨limit, hadd, hfull, rfl⟩⟩ :=
        stepBatch_eq_ok hchans hopen hstep
      · exact (Move.accept encoder front channel channel' _ buffered batch hchans hopen hblock
          hbatch hadd (.inl rfl)).moves
      · obtain ⟨hopen', hfull, -⟩ := addBatch_admits_open hadd (.inr rfl)
        exact (Move.accept encoder front channel channel' _ buffered batch hchans hopen hblock
          hbatch hadd (.inr rfl)).moves.tail (.close _ front channel' rfl hopen' hfull)
      · exact (Move.close encoder front channel hchans hopen hfull).moves
  · rename_i hopen
    obtain ⟨fresh, hnew, rfl⟩ := encoder.openNewChannel_eq_some hopened
    obtain ⟨hfresh, hempty⟩ := new_fresh hnew
    have hclosed : ∀ last, encoder.channels.getLast? = some last → last.isOpen = false := by
      intro last hsome
      simpa [hsome] using hopen
    obtain ⟨-, channel', ⟨hadd, rfl⟩ | ⟨hadd, rfl⟩ | ⟨limit, -, hfull, -⟩⟩ :=
      stepBatch_eq_ok rfl hfresh hstep
    · exact (Move.acceptFresh encoder fresh channel' _ buffered batch hclosed hblock hbatch hnew
        hadd (.inl rfl)).moves
    · obtain ⟨hopen', hfull, -⟩ := addBatch_admits_open hadd (.inr rfl)
      exact (Move.acceptFresh encoder fresh channel' _ buffered batch hclosed hblock hbatch hnew
        hadd (.inr rfl)).moves.tail (.close _ encoder.channels channel' rfl hopen' hfull)
    · rw [hempty] at hfull
      cases hfull

theorem step_moves (hstep : encoder.step = some (.ok result, after)) : Moves encoder after := by
  have htimeout := encoder.checkChannelTimeout_moves
  unfold step at hstep
  split at hstep
  · cases hstep
  split at hstep
  · cases hstep
  · rename_i hcheck
    rw [hcheck] at htimeout
    cases hstep
    exact htimeout
  · rename_i hcheck
    obtain rfl := encoder.checkChannelTimeout_of_ok_false hcheck
    exact stepBlock_moves _ hstep

variable {egress : DaEgress} {maxBlobs : Nat} {channels : List (BatcherChannel externals.brotli)}

/-- Building blobs is a sequence of committed plans. -/
theorem buildBlobs_moves (turns : Nat) {encoder : BatchEncoder externals}
    (hbuild : buildBlobs encoder.l1Head maxBlobs turns encoder.egress
      encoder.channels = some (egress, channels)) :
    Moves encoder { encoder with egress := egress, channels := channels } := by
  induction turns generalizing encoder with
  | zero =>
    cases hbuild
    exact .refl
  | succ _ ih =>
    rw [buildBlobs] at hbuild
    split at hbuild
    · split at hbuild
      · cases hbuild
        exact .refl
      · rename_i plan hplan
        obtain ⟨⟨egress', channels'⟩, hcommit, hrest⟩ := Option.bind_eq_some_iff.mp hbuild
        exact .head (Move.commitBlob encoder plan egress' channels' hplan hcommit) (ih hrest)
    · cases hbuild
      exact .refl

theorem ensureReadyArtifacts_moves {daType : DaType}
    (hbuild : encoder.egress.ensureReadyArtifacts encoder.channels daType
      encoder.l1Head maxBlobs = some (egress, channels)) :
    Moves encoder { encoder with egress := egress, channels := channels } := by
  unfold ensureReadyArtifacts at hbuild
  split at hbuild
  · cases hbuild
    exact .refl
  cases daType with
  | blob => exact buildBlobs_moves maxBlobs hbuild
  | calldata =>
    simp only [buildReadyArtifacts] at hbuild
    split at hbuild
    · cases hbuild
      exact .refl
    · rename_i plan hplan
      exact (Move.commitCalldata encoder plan egress channels hplan hbuild).moves

theorem nextSubmission_moves {submission : Option BatchSubmission}
    (hnext : encoder.nextSubmission = some (submission, after)) :
    Moves encoder after := by
  obtain ⟨⟨submission', egress, channels⟩, hegress, hnext⟩ := Option.bind_eq_some_iff.mp hnext
  obtain ⟨⟨built, channels'⟩, hbuild, hlease⟩ := Option.bind_eq_some_iff.mp hegress
  have hbuilt := encoder.ensureReadyArtifacts_moves hbuild
  dsimp only at hlease
  split at hlease
  · cases hlease
    cases hnext
    exact hbuilt
  · rename_i leased artifactIds artifacts hsome
    cases hlease
    cases hnext
    exact hbuilt.tail (Move.lease { encoder with egress := built, channels := channels } leased
      artifactIds artifacts hsome)

theorem addBlock_moves (block : L2Block) : Moves encoder (encoder.addBlock block).2 := by
  unfold addBlock
  split
  · rename_i htip
    refine (Move.extend encoder block ?_).moves
    intro expected hexpected
    rw [htip] at hexpected
    cases hexpected
  · rename_i expected htip
    split
    · exact .refl
    · rename_i hparent
      refine (Move.extend encoder block ?_).moves
      intro other hother
      rw [htip] at hother
      cases hother
      exact not_not.mp hparent

theorem deferStepError_moves (error : StepError) :
    Moves encoder (encoder.deferStepError error) := by
  unfold deferStepError
  split
  · exact (Move.retune encoder encoder.l1Head encoder.blobOverride (some error)).moves
  · exact .refl

theorem invalidateExpiredChannels_moves : Moves encoder encoder.invalidateExpiredChannels := by
  unfold invalidateExpiredChannels
  dsimp only
  split
  · exact .refl
  · rename_i channelIdx hexpired
    obtain ⟨hidx, -, -⟩ := List.findIdx?_eq_some_iff_getElem.mp hexpired
    exact (Move.invalidate encoder channelIdx hidx).moves

theorem advanceL1Head_moves (l1Block : Nat) : Moves encoder (encoder.advanceL1Head l1Block) := by
  have hhead : ∀ head : Nat, Moves encoder { encoder with l1Head := head } :=
    fun head => (Move.retune encoder head encoder.blobOverride encoder.deferredStepError).moves
  by_cases hadvanced : l1Block > encoder.l1Head
  · simp only [advanceL1Head, hadvanced, if_true]
    refine (hhead l1Block).trans ?_
    split
    · exact .refl
    · refine .trans ?_ (invalidateExpiredChannels_moves _)
      have htimeout := checkChannelTimeout_moves { encoder with l1Head := l1Block }
      split
      · rename_i error after hcheck
        rw [hcheck] at htimeout
        exact htimeout.trans (after.deferStepError_moves error)
      · rename_i hcheck
        rw [hcheck] at htimeout
        exact htimeout
  · simp only [advanceL1Head, hadvanced, if_false]
    split
    · exact .refl
    · exact encoder.invalidateExpiredChannels_moves

theorem pruneSafe_moves (safeL2 : BlockInfo) : Moves encoder (encoder.pruneSafe safeL2).2 := by
  unfold pruneSafe
  split
  · rename_i hempty
    exact (Move.adoptTip encoder safeL2.hash hempty).moves
  · dsimp only
    split
    · exact .refl
    split
    · exact .refl
    split
    · exact .refl
    split
    · exact .refl
    rename_i hle hpos _ block hblock
    split
    · exact .refl
    · rename_i hhash
      exact (Move.prune encoder _ block safeL2.hash (Nat.pos_of_ne_zero hpos) (not_lt.mp hle) hblock
        (not_not.mp hhash)).moves

theorem pruneSafe_of_false {safeL2 : BlockInfo} (hblocks : encoder.blocks ≠ [])
    (hprune : encoder.pruneSafe safeL2 = (false, after)) :
    after = encoder := by
  unfold pruneSafe at hprune
  split at hprune
  · rename_i hempty
    exact absurd hempty hblocks
  · dsimp only at hprune
    repeat' split at hprune
    all_goals first
      | exact (Prod.mk.inj hprune).2.symm | cases (Prod.mk.inj hprune).1

theorem reconcileDerivation_moves (safeL2 : BlockInfo) (currentL1 : Nat) :
    Moves encoder (encoder.reconcileDerivation safeL2 currentL1).2 := by
  have hprune := encoder.pruneSafe_moves safeL2
  unfold reconcileDerivation
  split
  · rename_i hsafe
    rw [hsafe] at hprune
    exact hprune
  · rename_i hsafe
    rw [hsafe] at hprune
    split
    · exact hprune
    · exact hprune

end Decomposition

/-- Every operation without a step error is a sequence of moves. -/
theorem Steps.moves (hstep : Steps before after) : Moves before after := by
  obtain ⟨op, hop⟩ := hstep
  cases op with
  | addBlock block =>
    cases hop
    exact before.addBlock_moves block
  | step =>
    obtain ⟨⟨result, stepped⟩, hsome, hpair⟩ := Option.map_eq_some_iff.mp hop
    obtain ⟨hresult, rfl⟩ := Prod.mk.inj hpair
    cases result with
    | ok => exact before.step_moves hsome
    | error => cases hresult
  | nextSubmission =>
    obtain ⟨⟨submission, stepped⟩, hsome, hpair⟩ := Option.map_eq_some_iff.mp hop
    cases hpair
    exact before.nextSubmission_moves hsome
  | confirm id l1Block =>
    cases hop
    exact (Move.confirm before id l1Block).moves
  | requeue id =>
    cases hop
    exact (Move.requeue before id).moves
  | flush =>
    obtain ⟨-, rfl⟩ := Prod.mk.inj (Option.some.inj hop)
    exact before.flushChannels_moves
  | advanceL1Head l1Block =>
    cases hop
    exact before.advanceL1Head_moves l1Block
  | reset rng =>
    cases hop
    exact (Move.reset before rng).moves
  | reconcileDerivation safeL2 currentL1 =>
    cases hop
    exact before.reconcileDerivation_moves safeL2 currentL1
  | setBlobOverride active =>
    cases hop
    exact (Move.retune before before.l1Head active before.deferredStepError).moves

variable {P : BatchEncoder externals → Prop}

variable (hmove : ∀ before after, P before → Move before after → P after)
include hmove

/-- An invariant of the moves is an invariant of every sequence of moves. -/
theorem Moves.invariant (hmoves : Moves before after) (hbefore : P before) : P after := by
  induction hmoves with
  | refl => exact hbefore
  | tail _ hlast ih => exact hmove _ _ ih hlast

/-- An invariant of fresh encoders and of the moves holds in every reachable
state. -/
theorem Reachable.of_moves
    (hnew : ∀ rollupConfig config rng fresh, new rollupConfig config rng = .ok fresh → P fresh)
    {encoder : BatchEncoder externals} (hreach : Reachable encoder) : P encoder :=
  hreach.invariant hnew fun _ _ hbefore hstep => hstep.moves.invariant hmove hbefore

end BatchEncoder

end BaseChain
