/-
From the batcher to derivation and back: the payloads of a drained encoder are
parsed, queued, assembled, decompressed and read, and the batches of the blocks
come out again as long as every channel fits the assembler's size limit.
-/
import BaseChain.BatcherSubmissions
import BaseChain.ChannelContent
import BaseChain.StreamConservation

namespace BaseChain

open Function List BatchEncoder BatchReader BatcherChannel RollupConfig ChannelAssembler
open EncoderConfig
open Frame (encode maxLen overhead)
open List (Forall₂ length)

variable {externals : BatcherExternals} {σ : Type}

/-- The payloads of a submission as L1 carries them: a version byte and
frames. -/
def BatchSubmission.payloads (submission : BatchSubmission) : List Bytes :=
  submission.payload.frameGroups.map fun frames =>
    derivationVersion0 :: frames.flatMap encode

/-- The frames derivation reads from payloads at their L1 origins; the queue is
empty whenever the next payload is loaded. -/
def deriveFrames (cfg : RollupConfig) (placed : List (BlockInfo × Bytes)) :
    List (BlockInfo × Frame) :=
  placed.flatMap fun (origin, data) =>
    (FrameQueue.loadFrames cfg origin [] data).map (origin, ·)

/-- The batches derivation reads from payloads at their L1 origins. -/
def deriveBatches (reader : ReaderExternals σ) (cfg : RollupConfig)
    (placed : List (BlockInfo × Bytes)) : List (Batch σ) :=
  (assemble cfg none (deriveFrames cfg placed)).1.flatMap
    fun (origin, data) => BatchReader.readChannel reader cfg origin data

/-- The budget a configuration gives its frames. -/
def EncoderConfig.budget (config : EncoderConfig) (hvalid : config.Valid) :
    FrameBudget :=
  config.daType.budget config.maxFrameSize hvalid.frame_ge

variable {turns : Nat} {config : EncoderConfig}

namespace BatchEncoder

variable {encoder after : BatchEncoder externals}

theorem nextSubmission_drawn {submission : Option BatchSubmission}
    (hnext : encoder.nextSubmission = some (submission, after)) :
    after.drawn = encoder.drawn := by
  obtain ⟨⟨found, egress, channels⟩, -, hpair⟩ := Option.bind_eq_some_iff.mp hnext
  dsimp only at hpair
  split at hpair
  · cases hpair
    rfl
  · cases hpair
    rfl

variable {submissions : List BatchSubmission}

theorem drainSubmissions_drawn (hrun : encoder.drainSubmissions turns = some (submissions, after)) :
    after.drawn = encoder.drawn := by
  induction turns generalizing encoder submissions with
  | zero => cases hrun
  | succ _ ih =>
    rw [drainSubmissions] at hrun
    split at hrun
    · cases hrun
    · rename_i next hnext
      cases hrun
      exact nextSubmission_drawn hnext
    · rename_i submission next hnext
      obtain ⟨⟨rest, last⟩, hrest, hpair⟩ := Option.map_eq_some_iff.mp hrun
      cases hpair
      exact (ih hrest).trans (nextSubmission_drawn hnext)

/-- Draining a sealed encoder either yields all frames of its queue, in order and
in payloads that are not empty, or the frames cannot all be numbered, or it
needs more turns: every submission takes a frame at least. -/
theorem drainSubmissions_drains (hvalid : config.Valid) (turns : Nat)
    (hconfig : encoder.config = config) (hoverride : encoder.blobOverride = false)
    (hdraining : Draining config.maxFrameSize encoder.l1Head encoder.channels)
    (hleased : encoder.egress.AllLeased) :
    (encoder.drainSubmissions turns = none ∧
      ((config.budget hvalid).InRange 0 (backlogs encoder.channels) →
        turns ≤ ((config.budget hvalid).frameAll 0 (backlogs encoder.channels)).length)) ∨
    ∃ submissions after, encoder.drainSubmissions turns = some (submissions, after) ∧
      (submissions.flatMap (·.payload.frameGroups)).flatten =
        (config.budget hvalid).frameAll 0 (backlogs encoder.channels) ∧
      (∀ group ∈ submissions.flatMap (·.payload.frameGroups), group ≠ []) ∧
      (config.budget hvalid).InRange 0 (backlogs encoder.channels) := by
  induction turns generalizing encoder with
  | zero => exact .inl ⟨rfl, fun _ => Nat.zero_le _⟩
  | succ _ ih =>
    have htype : encoder.effectiveDaType = config.daType := by
      simp [effectiveDaType, hoverride, hconfig]
    rw [drainSubmissions, nextSubmission, htype, hconfig]
    rcases DaEgress.nextSubmission_drains hvalid.frame_ge hdraining hleased encoder.nextId
      config.daType hvalid.blobs_pos with ⟨hnone, hout⟩ |
        ⟨egress', channels', hnext, hqueue⟩ | ⟨submission, egress', channels', hnext, hsubmitted⟩
    · rw [hnone]
      exact .inl ⟨rfl, fun hrange => absurd hrange hout⟩
    · rw [hnext, hqueue, FrameBudget.frameAll_nil]
      exact .inr ⟨[], _, rfl, rfl, by simp, FrameBudget.inRange_nil _ _⟩
    · rw [hnext]
      rcases @ih { encoder with
          config := config
          egress := egress'
          channels := channels'
          nextId := encoder.nextId + 1 } rfl hoverride hsubmitted.draining hsubmitted.leased with
        ⟨hnone, hturns⟩ | ⟨rest, last, hrest, hframes, hgroups, hrange⟩
      · refine .inl ⟨Option.map_eq_none_iff.mpr hnone, ?_⟩
        intro hrange
        have hfewer := hturns (hsubmitted.range.mp hrange)
        obtain ⟨group, groups, hgroups⟩ := exists_cons_of_ne_nil hsubmitted.groups
        have hgroup := length_pos_iff.mpr (hsubmitted.nonempty group (by simp [hgroups]))
        have hframes := congrArg length hsubmitted.frames
        rw [hgroups, flatten_cons, length_append, length_append] at hframes
        unfold budget at hfewer ⊢
        dsimp only at hfewer
        omega
      · refine .inr ⟨submission :: rest, last, Option.map_eq_some_iff.mpr ⟨_, hrest, rfl⟩, ?_, ?_,
          hsubmitted.range.mpr hrange⟩
        · rw [flatMap_cons, flatten_append, hframes]
          exact hsubmitted.frames.symm
        · exact forall_mem_append.mpr ⟨hsubmitted.nonempty, hgroups⟩

end BatchEncoder

variable {streams : List (List Frame)} {groups : List (List SingleBatch)}
  {reader : ReaderExternals σ}

section Derivation

variable {cfg : RollupConfig}

/-- The payload of a group of frames. -/
def framePayload (frames : List Frame) : Bytes := derivationVersion0 :: frames.flatMap encode

variable {placed : List (BlockInfo × Bytes)}

/-- Payloads of linked frames are read back frame by frame. -/
theorem deriveFrames_map (cfg : RollupConfig) {groups : List (List Frame)}
    (hgroups : ∀ group ∈ groups, group ≠ [])
    (hsizes : ∀ frame ∈ groups.flatten, frame.data.length ≤ maxLen)
    (hlinked : groups.flatten.IsChain FrameQueue.Linked)
    (hplaced : placed.map (·.2) = groups.map framePayload) :
    (deriveFrames cfg placed).map (·.2) = groups.flatten := by
  induction groups generalizing placed with
  | nil =>
    obtain rfl := map_eq_nil_iff.mp hplaced
    rfl
  | cons group _ ih =>
    obtain ⟨⟨origin, data⟩, rest, rfl, rfl, hrest⟩ := map_eq_cons_iff.mp hplaced
    obtain ⟨hfirst, hsizes'⟩ := forall_mem_append.mp hsizes
    obtain ⟨hlinked', hbehind, -⟩ := isChain_append.mp hlinked
    have hparse := Frame.parseFrames_of_container
      (show Frame.Container (framePayload group) group from
        ⟨hgroups group mem_cons_self, hfirst, rfl⟩)
    have hload := FrameQueue.loadFrames_of_linked cfg origin hparse hlinked'
    have htail := ih (fun other hother =>
      hgroups other (mem_cons_of_mem _ hother)) hsizes' hbehind hrest
    rw [flatten_cons, ← htail, deriveFrames, flatMap_cons, map_append]
    simp only [hload, map_map, comp_def, map_id_fun']
    rfl

theorem deriveFrames_origins (placed : List (BlockInfo × Bytes)) :
    ∀ pair ∈ deriveFrames cfg placed, pair.1 ∈ placed.map (·.1) := by
  intro pair hpair
  obtain ⟨source, hsource, hpair⟩ := mem_flatMap.mp hpair
  obtain ⟨frame, -, rfl⟩ := mem_map.mp hpair
  exact mem_map_of_mem hsource

variable (limit : Nat)

/-- The batches of the groups whose streams stay within the limit. -/
def keptBatches (groups : List (List SingleBatch))
    (streams : List (List Frame)) : List SingleBatch :=
  ((groups.zip streams).filter (chargedSize ·.2 ≤ limit)).flatMap (·.1)

theorem keptBatches_cons (group : List SingleBatch)
    (groups : List (List SingleBatch)) (stream : List Frame)
    (streams : List (List Frame)) :
    keptBatches limit (group :: groups) (stream :: streams) =
      (if chargedSize stream ≤ limit then group else []) ++ keptBatches limit groups streams := by
  unfold keptBatches
  rw [zip_cons_cons]
  by_cases hkeep : chargedSize stream ≤ limit
  · rw [filter_cons_of_pos (by simpa using hkeep), if_pos hkeep]
    rfl
  · rw [filter_cons_of_neg (by simpa using hkeep), if_neg hkeep]
    rfl

theorem keptBatches_length_le (groups : List (List SingleBatch)) (streams : List (List Frame)) :
    (keptBatches limit groups streams).length ≤ groups.flatten.length := by
  induction groups generalizing streams with
  | nil => simp [keptBatches]
  | cons _ _ ih =>
    cases streams with
    | nil => simp [keptBatches]
    | cons _ streams =>
      have htail := ih streams
      rw [keptBatches_cons, flatten_cons, length_append, length_append]
      split
      · omega
      · rw [length_nil]
        omega

variable {limit : Nat}

/-- Nothing is lost exactly when every stream stays within the limit. -/
theorem keptBatches_eq_flatten_iff (hlength : groups.length = streams.length)
    (hgroups : ∀ group ∈ groups, group ≠ []) :
    keptBatches limit groups streams = groups.flatten ↔
      ∀ stream ∈ streams, chargedSize stream ≤ limit := by
  induction groups generalizing streams with
  | nil =>
    obtain rfl := length_eq_zero_iff.mp hlength.symm
    simp [keptBatches]
  | cons _ groups ih =>
    cases streams with
    | nil => cases hlength
    | cons stream streams =>
      obtain ⟨hfirst, hrest⟩ := forall_mem_cons.mp hgroups
      have htail := ih (Nat.succ.inj hlength) hrest
      rw [keptBatches_cons, flatten_cons, forall_mem_cons, ← htail]
      by_cases hkeep : chargedSize stream ≤ limit
      · rw [if_pos hkeep, append_cancel_left_eq, and_iff_right hkeep]
      · rw [if_neg hkeep, nil_append]
        constructor
        · intro heq
          have hsum := congrArg length heq
          rw [length_append] at hsum
          have hshort := keptBatches_length_le limit groups streams
          have hpos := length_pos_iff.mpr hfirst
          omega
        · exact fun hall => absurd hall.1 hkeep

/-- Reading the channels that were handed on gives the kept batches. -/
theorem readChannels_kept {origins : List BlockInfo}
    (hread : Forall₂ (fun group stream => ∀ origin ∈ origins, readChannel reader cfg origin
        (stream.flatMap (·.data)) = group.map .single) groups streams)
    {emitted : List (BlockInfo × Bytes)} (hemitted : emitted.map (·.2) =
      (streams.filter (chargedSize · ≤ limit)).map (·.flatMap (·.data)))
    (horigins : ∀ pair ∈ emitted, pair.1 ∈ origins) :
    emitted.flatMap (fun (origin, data) => readChannel reader cfg origin data) =
      (keptBatches limit groups streams).map .single := by
  induction hread generalizing emitted with
  | nil =>
    obtain rfl := map_eq_nil_iff.mp hemitted
    rfl
  | @cons group stream groups streams hfirst _ ih =>
    rw [keptBatches_cons]
    by_cases hkeep : chargedSize stream ≤ limit
    · rw [filter_cons_of_pos (by simpa using hkeep)] at hemitted
      obtain ⟨⟨origin, data⟩, rest, rfl, rfl, hrest⟩ := map_eq_cons_iff.mp hemitted
      obtain ⟨horigin, hbehind⟩ := forall_mem_cons.mp horigins
      rw [flatMap_cons, ih hrest hbehind, if_pos hkeep, map_append, ← hfirst origin horigin]
    · rw [filter_cons_of_neg (by simpa using hkeep)] at hemitted
      rw [if_neg hkeep]
      exact ih hemitted horigins

/-- Derivation of framed channels: the batches of every channel that stays
within the size limit. -/
theorem deriveBatches_eq {packets : List (List Frame)}
    (hplaced : placed.map (·.2) = packets.map framePayload)
    (hpackets : ∀ packet ∈ packets, packet ≠ [])
    (hstreams : packets.flatten = streams.flatten)
    (hsizes : ∀ frame ∈ streams.flatten, frame.data.length ≤ maxLen)
    (hlinked : streams.flatten.IsChain FrameQueue.Linked)
    (hfinished : ∀ stream ∈ streams, ∃ id, FinishedStream id stream)
    (hlimit : ∀ origin ∈ placed.map (·.1), cfg.maxRlpBytesPerChannel origin.timestamp = limit)
    (htimeout : ∀ opened ∈ placed.map (·.1), ∀ origin ∈ placed.map (·.1),
      ¬ opened.number + cfg.channelTimeout origin.timestamp < origin.number)
    (hread : Forall₂ (fun group stream => ∀ origin ∈ placed.map (·.1),
      readChannel reader cfg origin (stream.flatMap (·.data)) = group.map .single) groups streams) :
    deriveBatches reader cfg placed = (keptBatches limit groups streams).map .single := by
  rw [← hstreams] at hsizes hlinked
  have hframes := deriveFrames_map cfg hpackets hsizes hlinked hplaced
  rw [hstreams] at hframes
  obtain ⟨hemitted, horigins⟩ := assemble_streams hlimit
    htimeout hfinished (deriveFrames_origins placed) hframes none
  exact readChannels_kept hread hemitted horigins

end Derivation

variable {rollupConfig : RollupConfig} {rng : Nat → ChannelId} {blocks : List L2Block}

namespace BatchEncoder

variable {fresh encoder idle : BatchEncoder externals} {after : BatchEncoder externals}

/-- Accepting blocks only appends them. -/
theorem addBlocks_eq (hadd : encoder.addBlocks blocks = .ok after) :
    Runs encoder after ∧ ∃ tip, after = { encoder with
      tip := tip
      blocks := encoder.blocks ++ blocks.map (BufferedBlock.new externals) } := by
  induction blocks generalizing encoder with
  | nil =>
    obtain rfl := Except.ok.inj hadd
    exact ⟨.refl, encoder.tip, by simp⟩
  | cons block blocks ih =>
    rw [addBlocks] at hadd
    split at hadd
    · cases hadd
    rename_i next hblock
    obtain ⟨hruns, tip, rfl⟩ := ih hadd
    have hnext : next = { encoder with
        tip := some (externals.hashSlow block.header)
        blocks := encoder.blocks ++ [BufferedBlock.new externals block] } := by
      unfold addBlock at hblock
      split at hblock
      · exact (Prod.mk.inj hblock).2.symm
      · split at hblock
        · cases hblock
        · exact (Prod.mk.inj hblock).2.symm
    have hstep : Steps encoder next := ⟨.addBlock block, by rw [perform, hblock]⟩
    refine ⟨.head hstep hruns, tip, ?_⟩
    rw [hnext]
    simp

theorem stepUntilIdle_runs (hrun : encoder.stepUntilIdle turns = some (.ok (), after)) :
    Runs encoder after := by
  induction turns generalizing encoder with
  | zero => cases hrun
  | succ _ ih =>
    rw [stepUntilIdle] at hrun
    split at hrun
    · cases hrun
    · cases hrun
    · rename_i next hstep
      obtain rfl : next = after := (Prod.mk.inj (Option.some.inj hrun)).2
      exact .single ⟨.step, by rw [perform, hstep]; rfl⟩
    all_goals
      rename_i next hstep
      exact .head ⟨.step, by rw [perform, hstep]; rfl⟩ (ih hrun)

theorem flushChannels_drawn {result : Except StepError Unit}
    (hflush : encoder.flushChannels = (result, after)) :
    encoder.drawn = after.drawn := by
  have hclose : encoder.closeCurrentChannel.2.drawn = encoder.drawn := by
    unfold closeCurrentChannel
    split
    · rfl
    split
    · rfl
    · rfl
  rw [← hclose]
  unfold flushChannels at hflush
  split at hflush
  · rename_i hcurrent
    rw [hcurrent, (Prod.mk.inj hflush).2]
  · rename_i current hcurrent
    rw [hcurrent, ← (Prod.mk.inj hflush).2]

/-- The parts of an encoding that returns submissions. -/
theorem encodeAndDrain_eq_ok {submissions : List BatchSubmission}
    (hrun : encoder.encodeAndDrain turns = some (.ok submissions, after)) :
    ∃ idle flushed, encoder.stepUntilIdle turns = some (.ok (), idle) ∧
      idle.flushChannels = (.ok (), flushed) ∧
      flushed.drainSubmissions turns = some (submissions, after) := by
  unfold encodeAndDrain at hrun
  split at hrun
  · cases hrun
  · cases hrun
  rename_i idle hidle
  split at hrun
  · cases hrun
  rename_i flushed hflushed
  obtain ⟨⟨found, last⟩, hdrain, hpair⟩ := Option.map_eq_some_iff.mp hrun
  cases hpair
  exact ⟨idle, flushed, hidle, hflushed, hdrain⟩

/-- Stepping a fresh encoder until idle and flushing it leaves exactly the
composition of its blocks, released. -/
theorem stepUntilIdle_composed (hnew : new rollupConfig config rng = .ok fresh)
    (hadd : fresh.addBlocks blocks = .ok encoder)
    (hidle : encoder.stepUntilIdle turns = some (.ok (), idle)) :
    ∃ channels, composeBlocks rollupConfig config rng 0 none
        (blocks.map (BufferedBlock.new externals)) = some channels ∧
      idle.flushChannels = (.ok (), { idle with
        channels := channels.map (·.releaseAt 0) }) ∧
      idle.setting = (rollupConfig, config,
        blocks.map (BufferedBlock.new externals), DaEgress.new, false) ∧
      idle.l1Head = 0 ∧ Reachable idle := by
  obtain ⟨hruns, tip, hencoder⟩ := addBlocks_eq hadd
  have hreach : Reachable idle := ⟨rollupConfig, config, rng, fresh, hnew,
      hruns.trans (stepUntilIdle_runs hidle)⟩
  unfold new at hnew
  split at hnew
  · cases hnew
  cases hnew
  have hcomp : Composing encoder [] none := by
    rw [hencoder]
    exact ⟨rfl, by simp, by simp, rfl, rfl⟩
  obtain ⟨hsetting, closed, current, hnext, hcomposition, hend⟩ := hcomp.stepUntilIdle hidle
  obtain ⟨channels, hchans, hflush⟩ := hnext.flushChannels hend
  refine ⟨channels, ?_, hflush, ?_, hnext.l1Head, hreach⟩
  · have hall := hcomposition.symm.trans hchans
    simpa [composition, hencoder] using hall
  · rw [hsetting]
    simp [setting, hencoder]

end BatchEncoder

variable (budget : FrameBudget)

/-- The sizes that the assembler charges channels with streams of the given
lengths: the bytes, and an overhead for every frame. -/
def assembledSizes (lengths : List Nat) : List Nat :=
  List.zipWith (fun length count => length + count * overhead) lengths
    (budget.frameCounts 0 lengths)

theorem Framed.chargedSize_eq {backlog : Backlog} {stream : List Frame}
    (hframed : Framed backlog stream) :
    chargedSize stream = backlog.data.length + stream.length * overhead := by
  have hsum : ∀ frames : List Frame, chargedSize frames =
      (frames.flatMap (·.data)).length + frames.length * overhead := by
    intro frames
    induction frames with
    | nil => rfl
    | cons frame frames ih =>
      have hcons : chargedSize (frame :: frames) = frame.size + chargedSize frames := by
        simp [chargedSize]
      rw [hcons, flatMap_cons, length_append, length_cons, Frame.size, Nat.add_one_mul]
      omega
  rw [hsum, hframed.data]

theorem chargedSizes_eq {backlogs : List Backlog} {streams : List (List Frame)}
    (hframed : Forall₂ Framed backlogs streams)
    (hcounts : streams.map length = budget.frameCounts 0 (backlogs.map (·.data.length))) :
    streams.map chargedSize = assembledSizes budget (backlogs.map (·.data.length)) := by
  rw [assembledSizes, ← hcounts]
  clear hcounts
  induction hframed with
  | nil => rfl
  | cons hfirst _ ih =>
    rw [map_cons, map_cons, map_cons, zipWith_cons_cons, ih, hfirst.chargedSize_eq]

section RoundTrip

variable {group : List SingleBatch} {channel : BatcherChannel externals.brotli}

/-- A composed channel that nothing has been cut from, once it is released. -/
theorem Written.release (hwritten : Written config group channel)
    (hsent : Streamed [] channel) :
    Sealed config.maxFrameSize 0 (channel.releaseAt 0) ∧
      (channel.releaseAt 0).terminalPending = true ∧
      (channel.releaseAt 0).backlog = ⟨channel.id, 0, channel.emitted⟩ ∧
      channel.availableOutput = channel.emitted.length := by
  have hnumber : channel.nextFrameNumber = 0 := hsent.length_eq.symm
  have hdata : channel.output.flatten = channel.emitted := hsent.data
  have hclosed : channel.compressor = none := by simpa [isOpen] using hwritten.closed
  have hpend : channel.terminalPending = true := by
    by_contra hdone
    have hfull : channel.framingComplete = true := by
      simpa [framingComplete, hclosed] using hdone
    exact ne_of_gt (hsent.complete hfull).2 hnumber
  have howed : channel.emitted ≠ [] := by
    obtain ⟨state, output, -, hemitted⟩ := hwritten.stream
    rw [hemitted]
    simp
  refine ⟨⟨hclosed, hsent.available, hwritten.frameSize, ?_, ?_⟩, hpend, ?_, ?_⟩
  · exact Nat.min_le_right _ _
  · intro _
    rw [← hdata] at howed
    exact howed
  · simp [backlog, releaseAt, hnumber, hdata]
  · rw [hsent.available, hdata]

/-- The whole stream of a channel that nothing has been cut from. -/
def wholeStream (channel : BatcherChannel externals.brotli) : Backlog :=
  { id := channel.id, number := 0, data := channel.emitted }

variable {channels : List (BatcherChannel externals.brotli)}

theorem released_sealed (hwritten : Forall₂ (Written config) groups channels)
    (hsent : ∀ channel ∈ channels, Streamed [] channel) :
    (∀ channel ∈ channels.map (·.releaseAt 0), Sealed config.maxFrameSize 0 channel) ∧
      backlogs (channels.map (·.releaseAt 0)) = channels.map wholeStream ∧
      channels.map (·.availableOutput) = channels.map (·.emitted.length) := by
  induction hwritten with
  | nil => exact ⟨by simp, rfl, rfl⟩
  | @cons group channel groups channels hfirst _ ih =>
    obtain ⟨hstream, hrest⟩ := forall_mem_cons.mp hsent
    obtain ⟨hsealed, hpend, hback, hopen⟩ := hfirst.release hstream
    obtain ⟨hsealed', hback', havailable'⟩ := ih hrest
    refine ⟨?_, ?_, ?_⟩
    · exact forall_mem_cons.mpr ⟨hsealed, hsealed'⟩
    · rw [map_cons, backlogs_cons, backlogs_singleton hpend, hback, hback']
      rfl
    · rw [map_cons, map_cons, hopen, havailable']

variable {batch : SingleBatch}

theorem blockToSingleBatch_lt {block : L2Block}
    (hbatch : blockToSingleBatch externals block = .ok batch) :
    batch.epochNum < 2 ^ 64 ∧ batch.timestamp < 2 ^ 64 := by
  unfold blockToSingleBatch at hbatch
  split at hbatch
  · cases hbatch
  · cases hbatch
  split at hbatch
  · cases hbatch
  rename_i number hash _
  cases hbatch
  exact ⟨number.isLt, block.header.timestamp.isLt⟩

theorem channelEntry_length_le {batches : List SingleBatch} (hbatch : batch ∈ batches) :
    batch.channelEntry.length ≤ (entries batches).length := by
  obtain ⟨front, back, rfl⟩ := append_of_mem hbatch
  simp only [entries, flatMap_append, flatMap_cons, length_append]
  omega

variable (hinverts : externals.brotli.InvertedBy reader.brotli)

include hinverts in
/-- A channel that is handed on is read back as the batches it was given. -/
theorem Written.readChannel (hfjord : ∀ timestamp, rollupConfig.isFjordActive timestamp = true)
    (hwritten : Written config group channel) (hbound : ∀ batch ∈ group,
      batch.epochNum < 2 ^ 64 ∧ batch.timestamp < 2 ^ 64) (origin : BlockInfo) :
    readChannel reader rollupConfig origin channel.emitted = group.map .single := by
  obtain ⟨⟨state, output, hwrites, hemitted⟩, -, hnonempty, hlimit, -⟩ := hwritten
  have hmaximum : rollupConfig.maxRlpBytesPerChannel origin.timestamp =
      maxRlpBytesPerChannelFjord := if_pos (hfjord _)
  rw [hemitted]
  apply readChannel_eq hnonempty
  · intro batch hbatch
    have hentry := channelEntry_length_le hbatch
    have hlength := length_lt_channelEntry batch
    have hsmall : batch.length + 1 < 2 ^ 64 := by
      unfold maxRlpBytesPerChannelFjord at hlimit
      omega
    obtain ⟨hepoch, htimestamp⟩ := hbound batch hbatch
    exact ⟨⟨hepoch, htimestamp, by omega⟩, hsmall⟩
  · exact hfjord _
  · rw [hmaximum]
    exact hinverts _ _ _ _ _ hwrites hlimit
  · rw [hmaximum]
    exact hlimit

theorem budget_maxData (hvalid : config.Valid) : (config.budget hvalid).maxData ≤ maxLen := by
  have hsize := hvalid.frame_le
  have hmaximum : maxBlobFrameSize ≤ maxLen := by decide
  have hdata : (config.budget hvalid).maxData = config.maxFrameSize - Frame.encodedOverhead := by
    unfold budget DaType.budget
    split
    · rfl
    · rfl
  omega

theorem written_nonempty (hwritten : Forall₂ (Written config) groups channels) :
    ∀ group ∈ groups, group ≠ [] := by
  induction hwritten with
  | nil => simp
  | cons hfirst _ ih => exact forall_mem_cons.mpr ⟨hfirst.nonempty, ih⟩

include hinverts in
/-- The frames of every composed channel are read back as its batches. -/
theorem written_readChannel (hfjord : ∀ timestamp, rollupConfig.isFjordActive timestamp = true)
    (hwritten : Forall₂ (Written config) groups channels)
    (hbound : ∀ batch ∈ groups.flatten, batch.epochNum < 2 ^ 64 ∧ batch.timestamp < 2 ^ 64)
    (hframed : Forall₂ Framed (channels.map wholeStream) streams)
    (origins : List BlockInfo) :
    Forall₂ (fun group stream => ∀ origin ∈ origins, readChannel reader rollupConfig origin
        (stream.flatMap (·.data)) = group.map .single) groups streams := by
  induction hwritten generalizing streams with
  | nil =>
    cases hframed
    exact .nil
  | cons hfirst _ ih =>
    obtain ⟨hbound, hbounded'⟩ := forall_mem_append.mp hbound
    cases hframed with
    | cons hstream hframed =>
      refine .cons ?_ (ih hbounded' hframed)
      intro origin _
      rw [hstream.data]
      exact hfirst.readChannel hinverts hfjord hbound origin

/-- Framed streams, as finished streams for the assembler. -/
theorem framed_finished {budget : FrameBudget} {backlogs : List Backlog}
    (hframed : Forall₂ Framed backlogs streams)
    (hnumbers : ∀ backlog ∈ backlogs, backlog.number = 0)
    (hcounts : streams.map length = budget.frameCounts 0 (backlogs.map (·.data.length)))
    (hrange : budget.InRange 0 backlogs) :
    ∀ stream ∈ streams, ∃ id, FinishedStream id stream := by
  unfold FrameBudget.InRange at hrange
  rw [← hcounts] at hrange
  clear hcounts
  induction hframed with
  | nil => simp
  | @cons backlog stream backlogs streams hfirst _ ih =>
    obtain ⟨hnumber, hnumbers⟩ := forall_mem_cons.mp hnumbers
    rw [map_cons, forall₂_cons] at hrange
    have hlength : stream.length ≤ 65535 := by
      have hcount := hrange.1
      unfold maxFrames at hcount
      omega
    intro other hother
    rcases mem_cons.mp hother with rfl | hother
    · exact ⟨backlog.id, hfirst.finished hnumber hlength⟩
    · exact ih hnumbers hrange.2 other hother

/-- An encoder that has composed all its blocks and is about to be flushed and
drained. -/
structure Composed (config : EncoderConfig) (blocks : List L2Block) (idle : BatchEncoder externals)
    (channels : List (BatcherChannel externals.brotli))
    (groups : List (List SingleBatch)) : Prop where
  flush : idle.flushChannels = (.ok (), { idle with
    channels := channels.map (·.releaseAt 0) })
  configured : idle.config = config
  override : idle.blobOverride = false
  leased : idle.egress.AllLeased
  written : Forall₂ (Written config) groups channels
  batches : blocks.map (blockToSingleBatch externals) = groups.flatten.map .ok
  draining : Draining config.maxFrameSize idle.l1Head (channels.map (·.releaseAt 0))
  queue : backlogs (channels.map (·.releaseAt 0)) = channels.map wholeStream
  available : channels.map (·.availableOutput) = channels.map (·.emitted.length)

variable {encoder fresh idle : BatchEncoder externals}
  (hfjord : ∀ timestamp, rollupConfig.isFjordActive timestamp = true)
  (hnew : new rollupConfig config rng = .ok fresh) (hadd : fresh.addBlocks blocks = .ok encoder)
include hfjord hnew hadd

theorem Composed.of_idle (hidle : encoder.stepUntilIdle turns = some (.ok (), idle))
    (hdrawn : idle.drawn.Nodup) :
    ∃ channels groups, composeBlocks rollupConfig config rng 0 none
        (blocks.map (BufferedBlock.new externals)) = some channels ∧
      Composed config blocks idle channels groups := by
  obtain ⟨channels, hcomp, hflush, hsetting, hhead, hreach⟩ :=
    stepUntilIdle_composed hnew hadd hidle
  simp only [setting, Prod.mk.injEq] at hsetting
  obtain ⟨-, hconfig, -, hegress, hoverride⟩ := hsetting
  have hgiven : Given rollupConfig config []
      (none : Option (BatcherChannel externals.brotli)) := rfl
  obtain ⟨groups, batches, hwritten, hflatten, hblocks⟩ := composeBlocks_holds hfjord hgiven hcomp
  have hbatches : blocks.map (blockToSingleBatch externals) = groups.flatten.map .ok := by
    rw [nil_append] at hflatten
    rw [hflatten, ← hblocks, map_map]
    rfl
  -- the flushed encoder is reachable, so its channels are conserved
  have hreach' : Reachable { idle with
      channels := channels.map (·.releaseAt 0) } := hreach.next
    ⟨.flush, by rw [BatchEncoder.perform, BatchEncoder.flush, hflush]; rfl⟩
  have hkeep := hreach'.conserved hdrawn
  have hsent : ∀ channel ∈ channels, Streamed [] channel := by
    intro channel hchan
    have hreleased := hkeep.streamed (channel.releaseAt 0) (mem_map_of_mem hchan)
    rw [hegress] at hreleased
    exact hreleased.of_view rfl
  obtain ⟨hsealed, hqueue, hopen⟩ := released_sealed hwritten hsent
  refine ⟨channels, groups, hcomp, hflush, hconfig, hoverride, ?_, hwritten,
    hbatches, ?_, hqueue, hopen⟩
  · rw [hegress]
    intro artifact hitem
    cases hitem
  · rw [hhead]
    exact ⟨hsealed, hkeep.ids_nodup⟩

include hinverts in
/-- What derivation makes of the payloads of a drained encoder: the batches of
every composed channel that stays within the assembler's limit. -/
theorem deriveBatches_drained (hvalid : config.Valid) {drained : BatchEncoder externals}
    {submissions : List BatchSubmission}
    (hrun : encoder.encodeAndDrain turns = some (.ok submissions, drained))
    (hdistinct : drained.drawn.Nodup) {placed : List (BlockInfo × Bytes)}
    (hplaced : placed.map (·.2) = submissions.flatMap BatchSubmission.payloads)
    (htimeout : ∀ opened ∈ placed.map (·.1), ∀ origin ∈ placed.map (·.1),
      ¬ opened.number + rollupConfig.channelTimeout origin.timestamp < origin.number) :
    ∃ (channels : List (BatcherChannel externals.brotli))
        (groups : List (List SingleBatch)) (streams : List (List Frame)),
      composeBlocks rollupConfig config rng 0 none
        (blocks.map (BufferedBlock.new externals)) = some channels ∧
      groups.length = streams.length ∧ (∀ group ∈ groups, group ≠ []) ∧
      blocks.map (blockToSingleBatch externals) = groups.flatten.map .ok ∧
      streams.map chargedSize = assembledSizes (config.budget hvalid)
        (channels.map (·.availableOutput)) ∧
      deriveBatches reader rollupConfig placed =
        (keptBatches maxRlpBytesPerChannelFjord groups streams).map .single := by
  obtain ⟨idle, flushed, hidle, hflush, hdrain⟩ := encodeAndDrain_eq_ok hrun
  have hdrawn : idle.drawn.Nodup := by
    rw [flushChannels_drawn hflush, ← drainSubmissions_drawn hdrain]
    exact hdistinct
  obtain ⟨channels, groups, hcomp, hcomposed⟩ := Composed.of_idle hfjord hnew hadd hidle hdrawn
  obtain rfl : { idle with channels := channels.map (·.releaseAt 0) } =
      flushed := (Prod.mk.inj (hcomposed.flush.symm.trans hflush)).2
  rcases @drainSubmissions_drains _ _ { idle with channels := channels.map (·.releaseAt 0) } hvalid
    turns hcomposed.configured hcomposed.override hcomposed.draining hcomposed.leased with
    ⟨hnone, -⟩ | ⟨_, _, hsome, hframes, hpackets, hrange⟩
  · cases hdrain.symm.trans hnone
  cases hdrain.symm.trans hsome
  rw [hcomposed.queue] at hframes hrange
  obtain ⟨streams, hstreams, hframed, hcounts⟩ :=
    (config.budget hvalid).frameAll_eq 0 (channels.map wholeStream)
  have hnumbers : ∀ backlog ∈ channels.map wholeStream, backlog.number = 0 := by
    intro backlog hbacklog
    obtain ⟨channel, -, rfl⟩ := mem_map.mp hbacklog
    rfl
  have hids : ((channels.map wholeStream).map (·.id)).Nodup := by
    have hnodup := hcomposed.draining.ids
    rw [map_map] at hnodup ⊢
    exact hnodup
  have hlengths : groups.length = streams.length := by
    rw [hcomposed.written.length_eq, ← hframed.length_eq, length_map]
  refine ⟨channels, groups, streams, hcomp, hlengths,
    written_nonempty hcomposed.written, hcomposed.batches, ?_, ?_⟩
  · rw [chargedSizes_eq _ hframed hcounts, hcomposed.available, map_map]
    rfl
  · refine deriveBatches_eq ?_ hpackets (hframes.trans hstreams) ?_
      (linked_of_framed hframed hnumbers hids)
      (framed_finished hframed hnumbers hcounts hrange) ?_ htimeout ?_
    · rw [hplaced, map_flatMap]
      rfl
    · intro frame hframe
      rw [← hstreams] at hframe
      exact le_trans ((config.budget hvalid).frameAll_data_length _ _ _
        hframe) (budget_maxData hvalid)
    · exact fun origin _ => if_pos (hfjord _)
    · refine written_readChannel hinverts hfjord hcomposed.written ?_ hframed _
      intro batch hbatch
      have hmem : Except.ok batch ∈ blocks.map (blockToSingleBatch externals) := by
        rw [hcomposed.batches]
        exact mem_map_of_mem hbatch
      obtain ⟨block, -, hblock⟩ := mem_map.mp hmem
      exact blockToSingleBatch_lt hblock

/-- Encoding returns once the queue has been composed into channels whose
frames can all be numbered. -/
theorem encodeAndDrain_returns (hvalid : config.Valid) {enough : Nat} (hidle : ∀ turns,
      enough ≤ turns → encoder.stepUntilIdle turns = some (.ok (), idle))
    (hdrawn : idle.drawn.Nodup)
    (hrange : ∀ channels : List (BatcherChannel externals.brotli),
      composeBlocks rollupConfig config rng 0 none
        (blocks.map (BufferedBlock.new externals)) = some channels →
      Forall₂ (fun _ count => count ≤ maxFrames) channels
        ((config.budget hvalid).frameCounts 0 (channels.map (·.availableOutput)))) :
    ∃ turns submissions drained, encoder.encodeAndDrain turns = some (.ok submissions, drained) ∧
      drained.drawn = idle.drawn := by
  obtain ⟨channels, groups, hcomp, hcomposed⟩ :=
    Composed.of_idle hfjord hnew hadd (hidle enough (le_refl _)) hdrawn
  have hnum : (config.budget hvalid).InRange 0 (channels.map wholeStream) := by
    have hcounts := hrange channels hcomp
    rw [hcomposed.available] at hcounts
    rw [FrameBudget.InRange, forall₂_map_left_iff, map_map]
    simpa [wholeStream, comp_def] using hcounts
  rw [← hcomposed.queue] at hnum
  let turns := enough + ((config.budget hvalid).frameAll 0
    (backlogs (channels.map (·.releaseAt 0)))).length + 1
  rcases @drainSubmissions_drains _ _ { idle with channels := channels.map (·.releaseAt 0) } hvalid
    turns hcomposed.configured hcomposed.override hcomposed.draining hcomposed.leased with
    ⟨-, hturns⟩ | ⟨submissions, drained, hdrain, -⟩
  · have hfew := hturns hnum
    dsimp only at hfew
    omega
  have hsame := drainSubmissions_drawn hdrain
  refine ⟨turns, submissions, drained, ?_, hsame⟩
  rw [encodeAndDrain, hidle turns (by omega)]
  simp only [hcomposed.flush, hdrain, Option.map_some]

end RoundTrip

end BaseChain
