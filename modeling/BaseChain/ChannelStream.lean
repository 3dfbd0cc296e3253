/-
The byte stream of one channel: what frames have been cut from it, what is left
in the output FIFO, and that the operations of the channel lose nothing.
-/
import BaseChain.BatcherEgress

namespace BaseChain

open Function List BatcherChannel DaEgress Frame

theorem takeOutput_eq_some {count : Nat} {output rest : List Bytes}
    {data : Bytes} (htake : takeOutput count output = some (data, rest)) :
    data ++ rest.flatten = output.flatten ∧ data.length = count := by
  induction output generalizing count data with
  | nil =>
    cases count with
    | zero =>
      cases htake
      exact ⟨rfl, rfl⟩
    | succ => cases htake
  | cons chunk output ih =>
    cases count with
    | zero =>
      cases htake
      exact ⟨rfl, rfl⟩
    | succ =>
      rw [takeOutput] at htake
      split at htake
      · cases htake
        refine ⟨?_, ?_⟩
        · rw [flatten_cons, ← append_assoc, take_append_drop]
          rfl
        · rw [length_take]
          omega
      · obtain ⟨⟨data', rest'⟩, hrest, hpair⟩ := Option.map_eq_some_iff.mp htake
        cases hpair
        obtain ⟨hflatten, hlength⟩ := ih hrest
        refine ⟨?_, ?_⟩
        · rw [take_of_length_le (by omega), append_assoc, hflatten]
          rfl
        · rw [length_append, length_take]
          omega

/-- The frames of one channel, in order. -/
def framesOf (id : ChannelId) (frames : List Frame) : List Frame := frames.filter (·.id = id)

@[simp]
theorem framesOf_append (id : ChannelId) (front back : List Frame) :
    framesOf id (front ++ back) = framesOf id front ++ framesOf id back :=
  filter_append _ _

theorem framesOf_eq_nil {id : ChannelId} {frames : List Frame}
    (hother : ∀ frame ∈ frames, frame.id ≠ id) : framesOf id frames = [] :=
  filter_eq_nil_iff.mpr fun frame hframe => by simpa using hother frame hframe

variable {brotli : BrotliWriter}

/-- The frames cut from a channel carry its stream: they are numbered from
zero, only a last one closes the stream, and with the rest of the FIFO they
spell what the compressor has emitted. -/
structure Streamed (cut : List Frame) (channel : BatcherChannel brotli) : Prop where
  numbers : cut.map (·.number) = (List.range channel.nextFrameNumber).map UInt16.ofNat
  number_le : channel.nextFrameNumber ≤ maxFrames
  flags : cut.map (·.isLast) = (List.range channel.nextFrameNumber).map fun number =>
      channel.framingComplete && number + 1 = channel.nextFrameNumber
  data : cut.flatMap (·.data) ++ channel.output.flatten = channel.emitted
  available : channel.availableOutput = channel.output.flatten.length
  complete : channel.framingComplete = true →
    channel.availableOutput = 0 ∧ 0 < channel.nextFrameNumber
  room : encodedOverhead + 1 ≤ channel.maxFrameSize

namespace Streamed

variable {cut : List Frame} {channel channel' : BatcherChannel brotli}

/-- The fields of a channel that its stream depends on. -/
def view (channel : BatcherChannel brotli) : Nat × Bool × List Bytes × Nat × Bytes × Nat :=
  (channel.nextFrameNumber, channel.framingComplete, channel.output,
    channel.availableOutput, channel.emitted, channel.maxFrameSize)

section

variable (hsent : Streamed cut channel)
include hsent

theorem of_view (hview : view channel' = view channel) : Streamed cut channel' := by
  simp only [view, Prod.mk.injEq] at hview
  obtain ⟨hnumber, hfull, houtput, hopen, hemitted, hsize⟩ := hview
  obtain ⟨hnumbers, hle, hflags, hdata, hlength, hend, hroom⟩ := hsent
  refine ⟨?_, ?_, ?_, ?_, ?_, ?_, ?_⟩
  · rwa [hnumber]
  · rwa [hnumber]
  · rwa [hnumber, hfull]
  · rwa [houtput, hemitted]
  · rwa [hopen, houtput]
  · rwa [hfull, hopen, hnumber]
  · rwa [hsize]

/-- New output goes to both sides of the balance. -/
theorem pushOutput (hframing : channel.framingComplete = false) (output : Bytes) :
    Streamed cut (channel.pushOutput output) := by
  rw [pushOutput_eq]
  have hflatten : (channel.output ++ if output.isEmpty then [] else [output]).flatten =
        channel.output.flatten ++ output := by
    cases output with
    | nil | cons => simp
  refine ⟨hsent.numbers, hsent.number_le, hsent.flags, ?_, ?_, ?_, hsent.room⟩
  · rw [hflatten, ← append_assoc, hsent.data]
  · rw [hflatten, length_append, ← hsent.available]
  · intro hfull
    exact absurd (hframing.symm.trans hfull) (by decide)

/-- Opening or closing the compressor changes nothing while the stream is not
completely framed. -/
theorem reframe (hbefore : channel.framingComplete = false)
    (compressor : Option (CompressionStream brotli)) (terminalPending : Bool)
    (hafter : (compressor.isNone && !terminalPending) = false) :
    Streamed cut
      { channel with
        compressor := compressor, terminalPending := terminalPending } := by
  refine hsent.of_view ?_
  simp only [view, framingComplete] at hbefore ⊢
  rw [hbefore, hafter]

theorem addBatch {batch : SingleBatch}
    {daBacklogBytes : Nat} {outcome : Except ChannelError ChannelAddOutcome}
    (hadd : channel.addBatch batch daBacklogBytes = (outcome, channel'))
    (hadmits : Admits outcome) : Streamed cut channel' := by
  obtain ⟨stream, stream', output, hstream, -, -, rfl⟩ := addBatch_eq_of_admits hadd hadmits
  have hbefore : channel.framingComplete = false := by
    simp [framingComplete, hstream]
  have hopened := (hsent.reframe hbefore (some stream')
    channel.terminalPending rfl).pushOutput rfl output
  exact hopened.of_view rfl

theorem close (hopen : channel.isOpen = true) : Streamed cut channel.close.2 := by
  obtain ⟨stream, hstream⟩ := Option.isSome_iff_exists.mp hopen
  obtain ⟨output, hclose⟩ := close_eq_pushOutput hstream
  have hbefore : channel.framingComplete = false := by
    simp [framingComplete, hstream]
  rw [hclose]
  exact (hsent.reframe hbefore none true rfl).pushOutput rfl output

/-- A frame with data, or the terminal one, moves bytes from the FIFO to the
frames. -/
theorem takeFrame {dataLen : Nat}
    {isLast : Bool} (hplan : 0 < dataLen ∨ isLast = true) {frame : Frame}
    (htake : channel.takeFrame dataLen isLast = some (.ok (frame, channel'))) :
    Streamed (cut ++ [frame]) channel' := by
  obtain ⟨data, output, hlen, hnumber, hterminal, houtput, rfl, rfl⟩ := takeFrame_eq_ok htake
  obtain ⟨hflatten, hlength⟩ := takeOutput_eq_some houtput
  have hbefore : channel.framingComplete = false := by
    by_contra hfull
    rw [Bool.not_eq_false] at hfull
    have hempty := (hsent.complete hfull).1
    have hlast : isLast = true := hplan.resolve_left (by omega)
    have hpend := (hterminal hlast).2.2
    simp [framingComplete, hpend] at hfull
  have hafter : (channel.compressor.isNone &&
      !(if isLast then false else channel.terminalPending)) = isLast := by
    cases isLast with
    | true => simp [(hterminal rfl).1]
    | false => exact hbefore
  refine ⟨?_, hnumber, ?_, ?_, ?_, ?_, hsent.room⟩
  · rw [map_append, hsent.numbers, range_succ, map_append]
    rfl
  · have hflags : cut.map (·.isLast) = (range channel.nextFrameNumber).map fun _ => false := by
      simpa [hbefore] using hsent.flags
    rw [map_append, hflags, range_succ, map_append]
    unfold framingComplete
    rw [hafter]
    refine congrArg₂ (· ++ ·) (map_congr_left fun number hmem => ?_) ?_
    · have hlt := mem_range.mp hmem
      simp
      omega
    · simp
  · rw [flatMap_append, flatMap_singleton, append_assoc, hflatten, hsent.data]
  · have hsum := congrArg length hflatten
    rw [length_append] at hsum
    have hopen := hsent.available
    dsimp only
    omega
  · intro hfull
    unfold framingComplete at hfull
    rw [hafter] at hfull
    have hall := (hterminal hfull).2.1
    dsimp only
    omega

theorem length_eq : cut.length = channel.nextFrameNumber := by
  have hlengths := congrArg length hsent.numbers
  simpa using hlengths

theorem numbers_eq_range : cut.map (·.number.toNat) = range cut.length := by
  have hnumbers := congrArg (map UInt16.toNat) hsent.numbers
  rw [map_map, map_map] at hnumbers
  refine Eq.trans hnumbers ?_
  rw [hsent.length_eq]
  conv_rhs => rw [← map_id (range channel.nextFrameNumber)]
  apply map_congr_left
  intro number hnumber
  have hlt := mem_range.mp hnumber
  have hle := hsent.number_le
  unfold maxFrames at hle
  rw [comp_apply, UInt16.toNat_ofNat_of_lt' (by
    change number < 2 ^ 16
    omega)]
  rfl

/-- The flags of all frames but the last, and of the last. -/
theorem flags_split : (∀ frame ∈ cut.dropLast, frame.isLast = false) ∧
      cut.getLast?.any (·.isLast) = channel.framingComplete := by
  have hflags := hsent.flags
  rcases eq_nil_or_concat cut with rfl | ⟨front, last, rfl⟩
  · refine ⟨by simp, ?_⟩
    have hzero : channel.nextFrameNumber = 0 := hsent.length_eq.symm
    have hopen : channel.framingComplete ≠ true := fun hfull =>
      Nat.ne_of_gt (hsent.complete hfull).2 hzero
    simpa using hopen
  · have hlength := hsent.length_eq
    rw [concat_eq_append] at *
    rw [length_append, length_singleton] at hlength
    rw [← hlength, range_succ, map_append, map_append] at hflags
    obtain ⟨hfront, hlast⟩ := append_inj hflags (by simp)
    constructor
    · intro frame hframe
      rw [dropLast_concat] at hframe
      have hmem := mem_map_of_mem (f := isLast) hframe
      rw [hfront] at hmem
      obtain ⟨number, hnumber, hflag⟩ := mem_map.mp hmem
      have hlt := mem_range.mp hnumber
      rw [← hflag]
      simp
      omega
    · simpa using hlast

end

theorem of_new {id : ChannelId} {rollupConfig : RollupConfig}
    {config : EncoderConfig} {blockStart openedL1Block : Nat}
    (hnew : new id rollupConfig config blockStart openedL1Block = .ok channel) :
    channel.id = id ∧ Streamed [] channel := by
  unfold BatcherChannel.new at hnew
  split at hnew
  · cases hnew
  rename_i hvalidate
  have hvalid := (config.validate_ok_iff).mp hvalidate
  cases hnew
  exact ⟨rfl, rfl, Nat.zero_le _, rfl, rfl, rfl, fun hfull => by simp [framingComplete] at hfull,
    hvalid.frame_ge⟩

end Streamed

/-- A plan entry that moves data or ends a stream. -/
def PlannedFrame.Useful (plan : PlannedFrame) : Prop := 0 < plan.dataLen ∨ plan.isLast = true

namespace DaEgress

section Planning

variable {channel : BatcherChannel brotli} {channels : List (BatcherChannel brotli)}

theorem planDataFrames_useful (hroom : 0 < channel.maxFrameData) (turns : Nat) (cursor : PlanCursor)
    (hcursor : ∀ plan ∈ cursor.frames, plan.Useful) :
    ∀ plan ∈ (planDataFrames channel turns cursor).frames, plan.Useful := by
  induction turns generalizing cursor with
  | zero => exact hcursor
  | succ turns ih =>
    rw [planDataFrames]
    split
    · have hnext : ∀ plan ∈ (advance cursor
          (planDataFrame channel cursor)).frames, plan.Useful := by
        intro plan hplan
        rcases mem_append.mp hplan with hplan | hplan
        · exact hcursor plan hplan
        · rw [mem_singleton.mp hplan]
          refine .inl ?_
          simp only [planDataFrame]
          omega
      dsimp only
      split
      · exact hnext
      · exact ih _ hnext
    · exact hcursor

variable {frames : List PlannedFrame}

theorem planChannelFrames_useful (hroom : 0 < channel.maxFrameData) (remaining : Nat)
    (hframes : ∀ plan ∈ frames, plan.Useful) :
    ∀ plan ∈ (planChannelFrames channel remaining frames).2.2, plan.Useful := by
  have hdata := planDataFrames_useful hroom channel.availableOutput
    ⟨channel.availableOutput, channel.terminalPending, remaining, frames⟩ hframes
  unfold planChannelFrames
  dsimp only
  split
  · intro plan hplan
    rcases mem_append.mp hplan with hplan | hplan
    · exact hdata plan hplan
    · rw [mem_singleton.mp hplan]
      exact .inr rfl
  · exact hdata

theorem planWalk_useful (l1Head : Nat)
    (hroom : ∀ channel ∈ channels, 0 < channel.maxFrameData) (remaining : Nat)
    (releaseDue : Bool) (hframes : ∀ plan ∈ frames, plan.Useful) :
    ∀ plan ∈ (planWalk l1Head channels remaining releaseDue frames).2.2, plan.Useful := by
  induction channels generalizing remaining releaseDue frames with
  | nil => exact hframes
  | cons channel channels ih =>
    have hrest : ∀ other ∈ channels, 0 < other.maxFrameData :=
      fun other hother => hroom other (mem_cons_of_mem _ hother)
    have hplanned := planChannelFrames_useful (hroom channel mem_cons_self) remaining hframes
    rw [planWalk]
    split
    · exact ih hrest _ _ hframes
    · dsimp only
      split
      · exact ih hrest _ _ hplanned
      · exact hplanned

section

variable (hroom : ∀ channel ∈ channels, 0 < channel.maxFrameData)
include hroom

theorem planBlob_useful {l1Head : Nat} {plan : List PlannedFrame}
    (hplan : planBlob channels l1Head = some plan) :
    ∀ planned ∈ plan, planned.Useful := by
  have hnone : ∀ planned ∈ ([] : List PlannedFrame), planned.Useful := by simp
  have hwalk := planWalk_useful l1Head hroom blobCapacity false hnone
  unfold planBlob at hplan
  dsimp only at hplan
  split at hplan
  · cases hplan
  split at hplan
  · cases hplan
    exact hwalk
  · cases hplan

theorem planCalldata_useful {plan : PlannedFrame}
    (hplan : planCalldata channels = some plan) : plan.Useful := by
  induction channels with
  | nil => cases hplan
  | cons channel channels ih =>
    rw [planCalldata] at hplan
    split at hplan
    · exact ih (fun other hother => hroom other (mem_cons_of_mem _ hother)) hplan
    · dsimp only at hplan
      split at hplan
      · cases hplan
        exact .inl (hroom channel mem_cons_self)
      split at hplan
      · cases hplan
        exact .inr rfl
      · cases hplan

end

end Planning

/-- All channels agree with the frames cut so far. -/
def AllStreamed (frames : List Frame) (channels : List (BatcherChannel brotli)) : Prop :=
  ∀ channel ∈ channels, Streamed (framesOf channel.id frames) channel

variable {channels channels' : List (BatcherChannel brotli)} {frames : List Frame}

theorem AllStreamed.commitFrame {frame : Frame} {plan : PlannedFrame}
    (hids : (channels.map (·.id)).Nodup) (hsent : AllStreamed frames channels)
    (hplan : plan.Useful)
    (hcommit : commitFrame plan channels = some (frame, channels')) :
    frame.id = plan.channelId ∧ plan.channelId ∈ channels.map (·.id) ∧
      AllStreamed (frames ++ [frame]) channels' := by
  induction channels generalizing channels' with
  | nil => cases hcommit
  | cons channel channels ih =>
    obtain ⟨hfirst, hrest⟩ := nodup_cons.mp hids
    have hhead := hsent channel mem_cons_self
    have htail : AllStreamed frames channels := fun other hother =>
      hsent other (mem_cons_of_mem _ hother)
    have hskip : ∀ other : BatcherChannel brotli, ∀ cut : Frame,
        cut.id ≠ other.id → Streamed (framesOf other.id frames) other →
          Streamed (framesOf other.id (frames ++ [cut])) other := by
      intro other cut hne hother
      have hnone : framesOf other.id [cut] = [] := framesOf_eq_nil (by simpa using hne)
      rw [framesOf_append, hnone, append_nil]
      exact hother
    rw [commitFrame] at hcommit
    split at hcommit
    · rename_i hsame
      split at hcommit
      · rename_i cut channel' htake
        obtain ⟨rfl, rfl⟩ := Prod.mk.inj (Option.some.inj hcommit)
        have hnext := hhead.takeFrame hplan htake
        obtain ⟨data, output, -, -, -, -, hframe, hchannel'⟩ := takeFrame_eq_ok htake
        have hframeId : cut.id = channel.id := congrArg Frame.id hframe
        have hchannelId : channel'.id = channel.id := by rw [hchannel']
        refine ⟨hframeId.trans hsame, by simp [hsame], ?_⟩
        intro other hother
        rcases mem_cons.mp hother with rfl | hother
        · have hown : framesOf channel.id [cut] = [cut] := by simp [framesOf, hframeId]
          rw [hchannelId, framesOf_append, hown]
          exact hnext
        · refine hskip other cut ?_ (htail other hother)
          rw [hframeId]
          intro heq
          exact hfirst (mem_map.mpr ⟨other, hother, heq.symm⟩)
      · cases hcommit
    · rename_i hother
      obtain ⟨⟨cut, after⟩, hafter, hpair⟩ := Option.map_eq_some_iff.mp hcommit
      obtain ⟨rfl, rfl⟩ := Prod.mk.inj hpair
      obtain ⟨hframe, hmem, hall⟩ := ih hrest htail hafter
      refine ⟨hframe, mem_cons_of_mem _ hmem, ?_⟩
      intro other hmem'
      rcases mem_cons.mp hmem' with rfl | hmem'
      · exact hskip other cut (fun heq => hother (heq.symm.trans hframe)) hhead
      · exact hall other hmem'

theorem AllStreamed.commitFrames {cut : List Frame} {plans : List PlannedFrame}
    (hids : (channels.map (·.id)).Nodup) (hsent : AllStreamed frames channels)
    (hplans : ∀ plan ∈ plans, plan.Useful)
    (hcommit : commitFrames plans channels = some (cut, channels')) :
    cut.map (·.id) = plans.map (·.channelId) ∧ plans.map (·.channelId) ⊆ channels.map (·.id) ∧
      AllStreamed (frames ++ cut) channels' := by
  induction plans generalizing frames channels cut with
  | nil =>
    cases hcommit
    simpa using hsent
  | cons plan plans ih =>
    obtain ⟨⟨frame, middle⟩, hframe, hcommit⟩ := Option.bind_eq_some_iff.mp hcommit
    obtain ⟨⟨rest, last⟩, hrest, hpair⟩ := Option.bind_eq_some_iff.mp hcommit
    cases hpair
    have hmap : middle.map (·.id) = channels.map (·.id) := by
      refine commitFrame_map _ ?_ hframe
      intro channel channel' _ _ _ htake
      obtain ⟨_, _, -, -, -, -, -, rfl⟩ := takeFrame_eq_ok htake
      rfl
    obtain ⟨hid, hmem, hfirst⟩ := hsent.commitFrame hids (hplans plan mem_cons_self) hframe
    obtain ⟨hids', hsubset, hall⟩ := ih (hmap ▸ hids) hfirst
      (fun other hother => hplans other (mem_cons_of_mem _ hother)) hrest
    refine ⟨?_, ?_, ?_⟩
    · rw [map_cons, map_cons, hid, hids']
    · exact cons_subset.mpr ⟨hmem, hmap ▸ hsubset⟩
    · simpa using hall

end DaEgress

end BaseChain
