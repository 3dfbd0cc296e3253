/-
Encoding a whole queue at once: step until idle, flush, and collect the
submissions.  What stepping does to a fresh encoder is also described block by
block, as a composition of the queue into channels.
-/
import BaseChain.BatchEncoderMoves

namespace BaseChain

open Function List BatcherChannel CompressionStream

variable {externals : BatcherExternals}

namespace BatchEncoder

/-- Add blocks until one is refused. -/
def addBlocks (encoder : BatchEncoder externals) :
    List L2Block → Except ReorgError (BatchEncoder externals)
  | [] => .ok encoder
  | block :: blocks =>
    match encoder.addBlock block with
    | (.error error, _) => .error error
    | (.ok (), encoder) => encoder.addBlocks blocks

/-- The stepping loop; `none` is a panic or a loop that needs more turns. -/
def stepUntilIdle : Nat → BatchEncoder externals →
    MayPanic (Except StepError Unit × BatchEncoder externals)
  | 0, _ => none
  | turns + 1, encoder =>
    match encoder.step with
    | none => none
    | some (.error error, encoder) => some (.error error, encoder)
    | some (.ok .idle, encoder) => some (.ok (), encoder)
    | some (.ok .blockEncoded, encoder) => stepUntilIdle turns encoder
    | some (.ok .channelClosed, encoder) => stepUntilIdle turns encoder

/-- The submission loop. -/
def drainSubmissions : Nat → BatchEncoder externals →
    MayPanic (List BatchSubmission × BatchEncoder externals)
  | 0, _ => none
  | turns + 1, encoder =>
    match encoder.nextSubmission with
    | none => none
    | some (none, encoder) => some ([], encoder)
    | some (some submission, encoder) =>
      (drainSubmissions turns encoder).map
        fun (submissions, encoder) => (submission :: submissions, encoder)

/-- Both loops run for at most `turns` turns. -/
def encodeAndDrain (turns : Nat) (encoder : BatchEncoder externals) :
    MayPanic (Except StepError (List BatchSubmission) × BatchEncoder externals) :=
  match encoder.stepUntilIdle turns with
  | none => none
  | some (.error error, encoder) => some (.error error, encoder)
  | some (.ok (), encoder) =>
    match encoder.flushChannels with
    | (.error error, encoder) => some (.error error, encoder)
    | (.ok (), encoder) =>
      (encoder.drainSubmissions turns).map fun (submissions, encoder) => (.ok submissions, encoder)

end BatchEncoder

section Composition

variable (rollupConfig : RollupConfig) (config : EncoderConfig)

/-- Go on after a batch has been added: with the channel while it stays open,
without one when it has reached its target. -/
def settle (result : Except ChannelError ChannelAddOutcome × BatcherChannel externals.brotli)
    (compose : Option (BatcherChannel externals.brotli) →
      Option (List (BatcherChannel externals.brotli))) :
    Option (List (BatcherChannel externals.brotli)) :=
  match result with
  | (.ok .accepted, channel) => compose (some channel)
  | (.ok .targetReached, channel) =>
    (compose none).map (channel.close.2 :: ·)
  | _ => none

/-- Place a batch into a fresh channel and go on. -/
def placeFresh (id : ChannelId) (cursor : Nat) (batch : SingleBatch) (daBytes : Nat)
    (compose : Option (BatcherChannel externals.brotli) →
      Option (List (BatcherChannel externals.brotli))) :
    Option (List (BatcherChannel externals.brotli)) :=
  match BatcherChannel.new id rollupConfig config cursor 0 with
  | .error _ => none
  | .ok channel => settle (channel.addBatch batch daBytes) compose

/-- Place blocks one after the other: into the open channel while it admits
them, and into a fresh channel after that. -/
def composeBlocks : (Nat → ChannelId) → Nat →
    Option (BatcherChannel externals.brotli) → List BufferedBlock →
    Option (List (BatcherChannel externals.brotli))
  | _, _, none, [] => some []
  | _, _, some channel, [] => some [channel.close.2]
  | rng, cursor, none, block :: blocks =>
    match blockToSingleBatch externals block.block with
    | .error _ => none
    | .ok batch =>
      placeFresh rollupConfig config (rng 0) cursor batch block.estimatedDaBytes fun current =>
          composeBlocks (fun index => rng (index + 1)) (cursor + 1) current blocks
  | rng, cursor, some channel, block :: blocks =>
    match blockToSingleBatch externals block.block with
    | .error _ => none
    | .ok batch =>
      match channel.addBatch batch block.estimatedDaBytes with
      | (.ok (.rejected _), _) =>
        (placeFresh rollupConfig config (rng 0) cursor batch block.estimatedDaBytes fun current =>
            composeBlocks (fun index => rng (index + 1)) (cursor + 1)
              current blocks).map (channel.close.2 :: ·)
      | result =>
        settle result fun current =>
          composeBlocks rng (cursor + 1) current blocks

variable {rollupConfig config} {rng : Nat → ChannelId} {cursor : Nat}
  {channel channel' : BatcherChannel externals.brotli} {block : BufferedBlock}
  {blocks : List BufferedBlock} {batch : SingleBatch}

section

variable (hbatch : blockToSingleBatch externals block.block = .ok batch)
include hbatch

theorem composeBlocks_accepted
    (hadd : channel.addBatch batch block.estimatedDaBytes = (.ok .accepted, channel')) :
    composeBlocks rollupConfig config rng cursor (some channel) (block :: blocks) =
      composeBlocks rollupConfig config rng (cursor + 1) (some channel')
        blocks := by
  simp [composeBlocks, hbatch, hadd, settle]

theorem composeBlocks_fresh (hnew : new (rng 0) rollupConfig config cursor 0 = .ok channel)
    (hadd : ∀ limit, (channel.addBatch batch block.estimatedDaBytes).1 ≠ .ok (.rejected limit)) :
    composeBlocks rollupConfig config rng cursor none (block :: blocks) =
      composeBlocks rollupConfig config (fun index => rng (index + 1)) cursor
        (some channel) (block :: blocks) := by
  simp only [composeBlocks, hbatch, placeFresh, hnew]
  split
  · rename_i limit _ hrejected
    exact absurd (congrArg Prod.fst hrejected) (hadd limit)
  · rfl

end

end Composition

namespace BatchEncoder

variable {brotli : BrotliWriter}

theorem close_isOpen (channel : BatcherChannel brotli) : channel.close.2.isOpen = false := by
  unfold close
  split
  · rename_i hclosed
    simp [isOpen, hclosed]
  · simp [finish, pushOutput_eq, isOpen]

variable {channel : BatcherChannel externals.brotli} {encoder : BatchEncoder externals}
  {result : StepResult}

theorem new_deadline {id : ChannelId} {rollupConfig : RollupConfig} {config : EncoderConfig}
    {blockStart : Nat} (hnew : BatcherChannel.new id rollupConfig config blockStart 0 =
      .ok channel) :
    0 < channel.deadlineL1Block := by
  unfold BatcherChannel.new at hnew
  split at hnew
  · cases hnew
  rename_i hvalidate
  have hmargin := ((config.validate_ok_iff).mp hvalidate).margin_lt
  cases hnew
  simp only [saturatingAdd, u64Max]
  omega

/-- The state between the steps of an encoder that only composes: channels
that are closed, and at most one open channel with blocks in it. -/
structure Composing (encoder : BatchEncoder externals)
    (closed : List (BatcherChannel externals.brotli))
    (current : Option (BatcherChannel externals.brotli)) : Prop where
  channels : encoder.channels = closed ++ current.toList
  closed : ∀ channel ∈ closed, channel.isOpen = false
  current : ∀ channel ∈ current, channel.isOpen = true ∧
    channel.isEmpty = false ∧ 0 < channel.deadlineL1Block
  l1Head : encoder.l1Head = 0
  deferred : encoder.deferredStepError = none

/-- The channels an encoder will have composed in the end. -/
def composition (encoder : BatchEncoder externals) (closed : List (BatcherChannel externals.brotli))
    (current : Option (BatcherChannel externals.brotli)) :
    Option (List (BatcherChannel externals.brotli)) :=
  (composeBlocks encoder.rollupConfig encoder.config encoder.rng encoder.blockCursor current
    (encoder.blocks.drop encoder.blockCursor)).map (closed ++ ·)

/-- What composing leaves alone. -/
def setting (encoder : BatchEncoder externals) :
    RollupConfig × EncoderConfig × List BufferedBlock × DaEgress × Bool :=
  (encoder.rollupConfig, encoder.config, encoder.blocks, encoder.egress, encoder.blobOverride)

namespace Composing

variable {encoder after : BatchEncoder externals} {closed : List (BatcherChannel externals.brotli)}
  {current : Option (BatcherChannel externals.brotli)}
  (hcomp : Composing encoder closed current)

include hcomp in
/-- No deadline is due while the L1 head is at zero. -/
theorem checkChannelTimeout : encoder.checkChannelTimeout = (.ok false, encoder) := by
  have hnone : (encoder.channels.getLast?.any
      fun channel => channel.isOpen && channel.deadlineDue encoder.l1Head) =
      false := by
    rw [hcomp.channels, hcomp.l1Head]
    cases current with
    | none =>
      rw [Option.toList_none, append_nil]
      cases hlast : closed.getLast? with
      | none => rfl
      | some channel => simp [hcomp.closed channel (mem_of_getLast? hlast)]
    | some channel =>
      have hdeadline := (hcomp.current channel rfl).2.2
      simp [deadlineDue, ne_of_gt hdeadline]
  rw [BatchEncoder.checkChannelTimeout, hnone]
  rfl

/-- A batch that the open channel handles. -/
theorem stepBatch {front : List (BatcherChannel externals.brotli)}
    {block : BufferedBlock} {batch : SingleBatch}
    (hstep : encoder.stepBatch batch block.estimatedDaBytes = some (.ok result, after))
    (hchans : encoder.channels = front ++ [channel])
    (hclosed : ∀ other ∈ front, other.isOpen = false) (hopen : channel.isOpen = true)
    (hdeadline : 0 < channel.deadlineL1Block) (hhead : encoder.l1Head = 0)
    (hdeferred : encoder.deferredStepError = none)
    (hblock : encoder.blocks[encoder.blockCursor]? = some block)
    (hbatch : blockToSingleBatch externals block.block = .ok batch) :
    result ≠ .idle ∧ after.setting = encoder.setting ∧
      ∃ closed' current', Composing after closed' current' ∧ after.composition closed' current' =
          encoder.composition front (some channel) := by
  obtain ⟨hbusy, channel', hcase⟩ := stepBatch_eq_ok hchans hopen hstep
  refine ⟨hbusy, ?_⟩
  obtain ⟨hcursor, hget⟩ := List.getElem?_eq_some_iff.mp hblock
  have hdrop : encoder.blocks.drop encoder.blockCursor =
      block :: encoder.blocks.drop (encoder.blockCursor + 1) := by
    rw [← hget, drop_eq_getElem_cons hcursor]
  have hclose : ∀ last : BatcherChannel externals.brotli,
      ∀ other ∈ front ++ [last.close.2], other.isOpen = false := by
    intro last
    exact forall_mem_append.mpr ⟨hclosed, by simpa using close_isOpen last⟩
  rcases hcase with ⟨hadd, rfl⟩ | ⟨hadd, rfl⟩ | ⟨limit, hadd, hfull, rfl⟩
  · refine ⟨rfl, front, some channel', ⟨rfl, hclosed, ?_, hhead, hdeferred⟩, ?_⟩
    · rintro other hother
      cases hother
      obtain ⟨hopen', hfull, hsame⟩ := addBatch_admits_open hadd (.inl rfl)
      exact ⟨hopen', hfull, hsame ▸ hdeadline⟩
    · rw [composition, composition, hdrop, composeBlocks_accepted hbatch hadd]
  · refine ⟨rfl, front ++ [channel'.close.2], none, ⟨by simp, hclose channel',
      by simp, hhead, hdeferred⟩, ?_⟩
    rw [composition, composition, hdrop, composeBlocks]
    simp [hbatch, hadd, settle, comp_def]
  · refine ⟨rfl, front ++ [channel.close.2], none, ⟨by simp, hclose channel,
      by simp, hhead, hdeferred⟩, ?_⟩
    rw [composition, composition, hdrop]
    simp [composeBlocks, hbatch, hadd, comp_def]

include hcomp in
/-- A step without an error keeps what will be composed. -/
theorem step (hstep : encoder.step = some (.ok result, after)) :
    after.setting = encoder.setting ∧ (∃ closed' current', Composing after closed' current' ∧
        after.composition closed' current' = encoder.composition closed current ∧
        (result = .idle → after.blocks.length ≤ after.blockCursor)) := by
  rw [BatchEncoder.step, hcomp.deferred] at hstep
  rw [hcomp.checkChannelTimeout] at hstep
  dsimp only at hstep
  unfold stepBlock at hstep
  split at hstep
  · rename_i hend
    obtain ⟨hresult, rfl⟩ := Prod.mk.inj (Option.some.inj hstep)
    exact ⟨rfl, closed, current, hcomp, rfl, fun _ => getElem?_eq_none_iff.mp hend⟩
  rename_i block hblock
  split at hstep
  · cases hstep
  rename_i batch hbatch
  obtain ⟨opened, hopened, hstep⟩ := Option.bind_eq_some_iff.mp hstep
  cases current with
  | some channel =>
    obtain ⟨hopen, hfull, hdeadline⟩ := hcomp.current channel rfl
    have hchans : encoder.channels = closed ++ [channel] := hcomp.channels
    have hsame : encoder.ensureOpenChannel = some encoder := by
      simp [ensureOpenChannel, hchans, hopen]
    obtain rfl : encoder = opened := Option.some.inj (hsame.symm.trans hopened)
    obtain ⟨hbusy, hsetting, closed', current', hnext, hcomposition⟩ :=
      stepBatch hstep hchans hcomp.closed hopen hdeadline hcomp.l1Head hcomp.deferred hblock hbatch
    exact ⟨hsetting, closed', current', hnext, hcomposition, fun hidle => absurd hidle hbusy⟩
  | none =>
    have hchans : encoder.channels = closed := by simpa using hcomp.channels
    have hnone : (encoder.channels.getLast?.any (·.isOpen)) = false := by
      rw [hchans]
      cases hlast : closed.getLast? with
      | none => rfl
      | some channel => simp [hcomp.closed channel (mem_of_getLast? hlast)]
    rw [ensureOpenChannel, hnone] at hopened
    obtain ⟨channel, hnew, rfl⟩ := encoder.openNewChannel_eq_some hopened
    rw [hcomp.l1Head] at hnew
    have hdeadline := new_deadline hnew
    obtain ⟨hopen, hempty⟩ := new_fresh hnew
    have hfresh : ∀ limit, (channel.addBatch batch block.estimatedDaBytes).1 ≠
          .ok (.rejected limit) := by
      intro limit hrejected
      obtain ⟨-, channel', hcase⟩ := stepBatch_eq_ok rfl hopen hstep
      rcases hcase with ⟨hadd, -⟩ | ⟨hadd, -⟩ | ⟨_, -, hfull, -⟩
      · rw [hadd] at hrejected
        cases hrejected
      · rw [hadd] at hrejected
        cases hrejected
      · rw [hempty] at hfull
        cases hfull
    obtain ⟨hbusy, hsetting, closed', current', hnext, hcomposition⟩ :=
      stepBatch hstep rfl (hchans ▸ hcomp.closed) hopen hdeadline
        hcomp.l1Head hcomp.deferred hblock hbatch
    refine ⟨hsetting, closed', current', hnext, hcomposition.trans ?_,
      fun hidle => absurd hidle hbusy⟩
    obtain ⟨hcursor, hget⟩ := List.getElem?_eq_some_iff.mp hblock
    rw [composition, composition, hchans, drop_eq_getElem_cons hcursor, hget,
      composeBlocks_fresh hbatch hnew hfresh]

include hcomp in
/-- Stepping until idle composes the whole queue. -/
theorem stepUntilIdle {turns : Nat} (hrun : encoder.stepUntilIdle turns = some (.ok (), after)) :
    after.setting = encoder.setting ∧ ∃ closed' current', Composing after closed' current' ∧
        after.composition closed' current' = encoder.composition closed current ∧
        after.blocks.length ≤ after.blockCursor := by
  induction turns generalizing encoder closed current with
  | zero => cases hrun
  | succ turns ih =>
    rw [stepUntilIdle] at hrun
    split at hrun
    · cases hrun
    · cases hrun
    · rename_i next hstep
      obtain rfl : next = after := (Prod.mk.inj (Option.some.inj hrun)).2
      obtain ⟨hsetting, closed', current', hnext, hcomposition, hidle⟩ := hcomp.step hstep
      exact ⟨hsetting, closed', current', hnext, hcomposition, hidle rfl⟩
    all_goals
      rename_i next hstep
      obtain ⟨hsetting, closed', current', hnext, hcomposition, -⟩ := hcomp.step hstep
      obtain ⟨hsetting', rest⟩ := ih hnext hrun
      rw [hcomposition] at rest
      exact ⟨hsetting'.trans hsetting, rest⟩

include hcomp in
/-- Flushing after that closes the open channel and releases all of them. -/
theorem flushChannels (hend : encoder.blocks.length ≤ encoder.blockCursor) :
    ∃ channels, encoder.composition closed current = some channels ∧ encoder.flushChannels =
        (.ok (), { encoder with
          channels := channels.map (·.releaseAt 0) }) := by
  rw [composition, drop_eq_nil_iff.mpr hend]
  cases current with
  | none =>
    refine ⟨closed, by simp [composeBlocks], ?_⟩
    have hchans : encoder.channels = closed := by simpa using hcomp.channels
    have hsame : encoder.closeCurrentChannel = (.ok (), encoder) := by
      unfold closeCurrentChannel
      split
      · rfl
      rename_i channel hlast
      rw [hchans] at hlast
      simp [hcomp.closed channel (mem_of_getLast? hlast)]
    rw [flushChannels, hsame]
    simp [hchans, hcomp.l1Head]
  | some channel =>
    refine ⟨closed ++ [channel.close.2], by simp [composeBlocks], ?_⟩
    obtain ⟨hopen, hfull, -⟩ := hcomp.current channel rfl
    rw [flushChannels, closeCurrentChannel_eq hcomp.channels hopen hfull]
    simp [hcomp.l1Head]

end Composing

end BatchEncoder

end BaseChain
