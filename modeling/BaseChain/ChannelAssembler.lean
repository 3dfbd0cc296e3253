/-
The channel of derivation and the stage that assembles it: frames are taken in
order, a channel that grows too large is dropped, and a complete one is handed
on.
-/
import BaseChain.Frame
import BaseChain.RollupConfig
import Mathlib.Data.List.Nodup

namespace BaseChain

open List

inductive AddFrameError where
  | frameIdMismatch
  | channelClosed
  | frameNumberExists (number : Nat)
  | frameBeyondEndFrame (number : Nat)
deriving Repr, DecidableEq

/-- A channel that derivation buffers.  The source's map from frame numbers to
frames is a list of frames with distinct numbers. -/
structure DerivationChannel where
  id : ChannelId
  openBlock : BlockInfo
  estimatedSize : Nat
  closed : Bool
  highestFrameNumber : UInt16
  lastFrameNumber : UInt16
  inputs : List Frame
  highestL1InclusionBlock : BlockInfo

namespace DerivationChannel

def new (id : ChannelId) (openBlock : BlockInfo) : DerivationChannel :=
  { id := id
    openBlock := openBlock
    estimatedSize := 0
    closed := false
    highestFrameNumber := 0
    lastFrameNumber := 0
    inputs := []
    highestL1InclusionBlock := default }

variable (channel : DerivationChannel)

def len : Nat := channel.inputs.length

def size : Nat := channel.estimatedSize

def get (number : UInt16) : Option Frame := channel.inputs.find? (·.number = number)

/-- The closing frame: frames behind it are dropped. -/
def closeAt (number : UInt16) : DerivationChannel :=
  let channel := { channel with lastFrameNumber := number, closed := true }
  if channel.lastFrameNumber < channel.highestFrameNumber then
    let dropped := channel.inputs.filter (¬ ·.number < number)
    { channel with
      inputs := channel.inputs.filter (·.number < number)
      estimatedSize := channel.estimatedSize - (dropped.map (·.size)).sum
      highestFrameNumber := number }
  else
    channel

/-- The update of the channel once a frame has passed all checks. -/
def ingest (frame : Frame) (l1InclusionBlock : BlockInfo) :
    DerivationChannel :=
  let channel := if frame.isLast then channel.closeAt frame.number else channel
  { channel with
    highestFrameNumber := if frame.number > channel.highestFrameNumber then frame.number
      else channel.highestFrameNumber
    highestL1InclusionBlock :=
      if channel.highestL1InclusionBlock.number < l1InclusionBlock.number then
        l1InclusionBlock
      else channel.highestL1InclusionBlock
    estimatedSize := channel.estimatedSize + frame.size
    inputs := channel.inputs ++ [frame] }

def addFrame (frame : Frame) (l1InclusionBlock : BlockInfo) :
    Except AddFrameError DerivationChannel :=
  if frame.id ≠ channel.id then
    .error .frameIdMismatch
  else if frame.isLast && channel.closed then
    .error .channelClosed
  else if (channel.get frame.number).isSome then
    .error (.frameNumberExists frame.number.toNat)
  else if channel.closed && frame.number ≥ channel.lastFrameNumber then
    .error (.frameBeyondEndFrame frame.number.toNat)
  else
    .ok (channel.ingest frame l1InclusionBlock)

/-- The numbers `0..=last_frame_number`. -/
def frameNumbers : List UInt16 := (List.range (channel.lastFrameNumber.toNat + 1)).map UInt16.ofNat

def isReady : Bool :=
  -- the sum is computed in sixteen bits
  channel.closed && channel.len = (channel.lastFrameNumber + 1).toNat &&
    channel.frameNumbers.all fun number => (channel.get number).isSome

def frameData : Option Bytes := if channel.inputs.isEmpty then
    none
  else
    (channel.frameNumbers.mapM fun number =>
      (channel.get number).map (·.data)).map List.flatten

end DerivationChannel

namespace ChannelAssembler

variable (cfg : RollupConfig) (origin : BlockInfo) (channel : DerivationChannel)

def isTimedOut : Bool :=
  channel.openBlock.number + cfg.channelTimeout origin.timestamp < origin.number

/-- Add a frame to the channel under assembly: what is handed on, and the
channel that stays. -/
def assembleFrame (frame : Frame) : Option Bytes × Option DerivationChannel :=
  if frame.number.toNat ≠ channel.len then
    (none, some channel)
  else
    match channel.addFrame frame origin with
    | .error _ => (none, some channel)
    | .ok channel =>
      if channel.size > cfg.maxRlpBytesPerChannel origin.timestamp then
        (none, none)
      else if channel.isReady then
        match channel.frameData with
        | none => (none, some channel)
        | some data => (some data, none)
      else
        (none, some channel)

variable (channel : Option DerivationChannel)

/-- `next_data` on the frame that the queue yields. -/
def nextData (frame : Frame) : Option Bytes × Option DerivationChannel :=
  let channel := channel.filter (!isTimedOut cfg origin ·)
  let channel :=
    if frame.number = 0 then some (DerivationChannel.new frame.id origin)
    else channel
  match channel with
  | none => (none, none)
  | some channel => assembleFrame cfg origin channel frame

/-- The channels handed on while a sequence of frames is read, each with the
origin of its last frame. -/
def assemble (cfg : RollupConfig) : Option DerivationChannel → List (BlockInfo × Frame) →
      List (BlockInfo × Bytes) × Option DerivationChannel
  | channel, [] => ([], channel)
  | channel, (origin, frame) :: frames =>
    let (data, channel) := nextData cfg origin channel frame
    let (rest, channel) := assemble cfg channel frames
    ((data.map (origin, ·)).toList ++ rest, channel)

theorem assemble_append (front back : List (BlockInfo × Frame)) :
    assemble cfg channel (front ++ back) = ((assemble cfg channel front).1 ++
        (assemble cfg (assemble cfg channel front).2 back).1,
        (assemble cfg (assemble cfg channel front).2 back).2) := by
  induction front generalizing channel with
  | nil => rfl
  | cons head _ ih =>
    simp [assemble, ih]

end ChannelAssembler

/-- Frames numbered from zero without a gap. -/
def Numbered (frames : List Frame) : Prop :=
  frames.map (·.number) = (List.range frames.length).map UInt16.ofNat

theorem nodup_numbers {count : Nat} (hcount : count ≤ 65536) :
    ((range count).map UInt16.ofNat).Nodup := by
  apply Nodup.map_on
  · intro first hfirst second hsecond heq
    have hlt := mem_range.mp hfirst
    have hlt' := mem_range.mp hsecond
    have hnat := congrArg UInt16.toNat heq
    simpa [Nat.mod_eq_of_lt (show first < 65536 by omega),
      Nat.mod_eq_of_lt (show second < 65536 by omega)] using hnat
  · exact nodup_range

variable {frames : List Frame} {frame : Frame}

namespace Numbered

theorem nodup (hnum : Numbered frames) (hlength : frames.length ≤ 65536) :
    (frames.map (·.number)).Nodup := by
  rw [hnum]
  exact nodup_numbers hlength

/-- Looking up a frame by its number finds it. -/
theorem find_number (hnodup : (frames.map (·.number)).Nodup) (hframe : frame ∈ frames) :
    frames.find? (·.number = frame.number) = some frame := by
  induction frames with
  | nil => cases hframe
  | cons _ _ ih =>
    obtain ⟨hhead, hrest⟩ := nodup_cons.mp hnodup
    rcases mem_cons.mp hframe with rfl | hframe
    · simp
    · rw [find?_cons_of_neg]
      · exact ih hrest hframe
      · simp only [decide_eq_true_eq]
        intro heq
        exact hhead (mem_map.mpr ⟨frame, hframe, heq.symm⟩)

theorem concat (hnum : Numbered frames) (hnumber : frame.number = UInt16.ofNat frames.length) :
    Numbered (frames ++ [frame]) := by
  unfold Numbered at hnum ⊢
  rw [map_append, hnum, length_append, length_singleton,
    range_succ, map_append, map_singleton, map_singleton, hnumber]

variable {back front : List Frame}

theorem number_middle (hnum : Numbered (front ++ frame :: back)) :
    frame.number = UInt16.ofNat front.length := by
  have hget := congrArg (fun numbers => numbers[front.length]?) hnum
  simpa using hget

theorem first_eq_zero (hnum : Numbered (frame :: back)) : frame.number = 0 := by
  have hfirst : Numbered ([] ++ frame :: back) := hnum
  exact hfirst.number_middle

theorem number_ne_zero (hnum : Numbered (front ++ frame :: back))
    (hfront : front ≠ []) (hlength : front.length ≤ 65535) : frame.number ≠ 0 := by
  have hpos := length_pos_iff.mpr hfront
  rw [hnum.number_middle]
  intro hzero
  have hnat := congrArg UInt16.toNat hzero
  rw [UInt16.toNat_ofNat', Nat.mod_eq_of_lt (by omega)] at hnat
  exact ne_of_gt hpos hnat

theorem later_ne_zero (hnum : Numbered (front ++ back)) (hfront : front ≠ [])
    (hlength : (front ++ back).length ≤ 65535) :
    ∀ frame ∈ back, frame.number ≠ 0 := by
  intro frame hframe
  obtain ⟨before, after, rfl⟩ := append_of_mem hframe
  rw [← append_assoc] at hnum hlength
  refine hnum.number_ne_zero (by simp [hfront]) ?_
  rw [length_append] at hlength
  omega

end Numbered

variable {channel : DerivationChannel}

namespace DerivationChannel

/-- The channel holds exactly these frames and waits for the next one. -/
structure Collected (channel : DerivationChannel) (frames : List Frame) : Prop where
  inputs : channel.inputs = frames
  numbered : Numbered frames
  length_le : frames.length ≤ 65535
  closed : channel.closed = false
  size : channel.estimatedSize = (frames.map (·.size)).sum
  highest : channel.highestFrameNumber.toNat ≤ frames.length

theorem new_collected (id : ChannelId) (openBlock : BlockInfo) : (new id openBlock).Collected [] :=
  ⟨rfl, rfl, by decide, rfl, rfl, le_refl 0⟩

/-- The data of a channel that finds these frames under its numbers. -/
theorem frameData_eq (hget : ∀ frame ∈ frames, channel.get frame.number = some frame)
    (hnumbers : channel.frameNumbers = frames.map (·.number)) (hinputs : channel.inputs ≠ []) :
    channel.frameData = some (frames.flatMap (·.data)) := by
  have hdata : (frames.map (·.number)).mapM (fun number => (channel.get number).map (·.data)) =
      some (frames.map (·.data)) := by
    clear hnumbers
    induction frames with
    | nil => rfl
    | cons _ _ ih =>
      obtain ⟨hhead, hrest⟩ := forall_mem_cons.mp hget
      rw [map_cons, mapM_cons, hhead, ih hrest]
      rfl
  rw [frameData, hnumbers, hdata]
  simp [hinputs, flatMap_def]

namespace Collected

theorem addFrame (hcollected : channel.Collected frames) (hid : frame.id = channel.id)
    (hnumber : frame.number = UInt16.ofNat frames.length)
    (hroom : frames.length < 65535) (origin : BlockInfo) :
    channel.addFrame frame origin = .ok (channel.ingest frame origin) := by
  have hnext := hcollected.numbered.concat hnumber
  have hnodup := hnext.nodup (by
    rw [length_append, length_singleton]
    omega)
  have hnone : channel.get frame.number = none := by
    rw [DerivationChannel.get, hcollected.inputs, List.find?_eq_none]
    intro other hother heq
    rw [map_append] at hnodup
    refine (nodup_append.mp hnodup).2.2 other.number
      (mem_map_of_mem hother) frame.number (mem_singleton_self _) ?_
    simpa using heq
  simp [DerivationChannel.addFrame, hid, hcollected.closed, hnone]

theorem number_toNat (hnumber : frame.number = UInt16.ofNat frames.length)
    (hroom : frames.length < 65535) :
    frame.number.toNat = frames.length := by
  rw [hnumber]
  exact Nat.mod_eq_of_lt (by omega)

section

variable (hcollected : channel.Collected frames)
  (hnumber : frame.number = UInt16.ofNat frames.length) (hroom : frames.length < 65535)
include hcollected hnumber hroom

/-- No frame lies behind the next one, so closing drops nothing. -/
theorem closeAt_eq : channel.closeAt frame.number =
      { channel with lastFrameNumber := frame.number, closed := true } := by
  have hhighest := hcollected.highest
  have htoNat := number_toNat hnumber hroom
  have hbehind : ¬ frame.number < channel.highestFrameNumber := by
    rw [UInt16.lt_iff_toNat_lt]
    omega
  simp [closeAt, hbehind]

/-- A frame that is not the last one is collected. -/
theorem ingest (hlast : frame.isLast = false) (origin : BlockInfo) :
    (channel.ingest frame origin).Collected (frames ++ [frame]) := by
  have htoNat := number_toNat hnumber hroom
  have hhighest := hcollected.highest
  simp only [DerivationChannel.ingest, hlast, Bool.false_eq_true, if_false]
  refine ⟨?_, hcollected.numbered.concat hnumber, ?_, hcollected.closed, ?_, ?_⟩
  · rw [hcollected.inputs]
  · rw [length_append, length_singleton]
    omega
  · rw [hcollected.size, map_append, sum_append]
    simp
  · rw [length_append, length_singleton]
    dsimp only
    split
    · omega
    · omega

theorem ingest_size (origin : BlockInfo) :
    (channel.ingest frame origin).size = ((frames ++ [frame]).map (·.size)).sum := by
  rw [map_append, sum_append, map_singleton, sum_singleton, ← hcollected.size]
  by_cases hlast : frame.isLast = true
  · simp [DerivationChannel.ingest, hlast, hcollected.closeAt_eq hnumber hroom,
      DerivationChannel.size]
  · simp only [DerivationChannel.ingest, hlast, DerivationChannel.size]
    rfl

/-- The last frame makes the channel ready, with the data of all frames. -/
theorem ready (hlast : frame.isLast = true) (origin : BlockInfo) :
    (channel.ingest frame origin).isReady = true ∧ (channel.ingest frame origin).frameData =
        some ((frames ++ [frame]).flatMap (·.data)) := by
  have hall := hcollected.numbered.concat hnumber
  have hnodup := hall.nodup (by
    rw [length_append, length_singleton]
    omega)
  have htoNat := number_toNat hnumber hroom
  obtain ⟨hinputs, hclosed, hend⟩ : (channel.ingest frame origin).inputs = frames ++ [frame] ∧
      (channel.ingest frame origin).closed = true ∧
      (channel.ingest frame origin).lastFrameNumber = frame.number := by
    simp [DerivationChannel.ingest, hlast, hcollected.closeAt_eq hnumber hroom, hcollected.inputs]
  have hnumbers : (channel.ingest frame origin).frameNumbers =
      (frames ++ [frame]).map (·.number) := by
    rw [frameNumbers, hend, htoNat, hall, length_append, length_singleton]
  have hget : ∀ other ∈ frames ++ [frame],
      (channel.ingest frame origin).get other.number = some other := by
    intro other hother
    rw [get, hinputs]
    exact Numbered.find_number hnodup hother
  constructor
  · have hlen : (channel.ingest frame origin).len = (frame.number + 1).toNat := by
      rw [len, hinputs, length_append, length_singleton, UInt16.toNat_add, htoNat]
      change frames.length + 1 = (frames.length + 1) % 65536
      omega
    have hevery : (channel.ingest frame origin).frameNumbers.all (fun number =>
          ((channel.ingest frame origin).get number).isSome) = true := by
      rw [hnumbers, all_eq_true]
      intro number hmem
      obtain ⟨other, hother, rfl⟩ := mem_map.mp hmem
      rw [hget other hother]
      rfl
    simp [isReady, hclosed, hlen, hend, hevery]
  · exact frameData_eq hget hnumbers (by simp [hinputs])

end

end Collected

end DerivationChannel

/-- All frames of a finished channel, in order. -/
structure FinishedStream (id : ChannelId) (frames : List Frame) : Prop where
  ids : ∀ frame ∈ frames, frame.id = id
  numbered : Numbered frames
  length_le : frames.length ≤ 65535
  flags : ∃ front last, frames = front ++ [last] ∧
    (∀ frame ∈ front, frame.isLast = false) ∧ last.isLast = true

/-- The size a channel is charged for its frames. -/
def chargedSize (frames : List Frame) : Nat := (frames.map (·.size)).sum

namespace ChannelAssembler

open DerivationChannel (Collected)

section Assembly

variable {cfg : RollupConfig} {limit : Nat} {done : List Frame} {origin : BlockInfo}

theorem assembleFrame_eq (hcollected : channel.Collected done)
    (hid : frame.id = channel.id) (hnumber : frame.number = UInt16.ofNat done.length)
    (hroom : done.length < 65535)
    (hlimit : cfg.maxRlpBytesPerChannel origin.timestamp = limit) :
    assembleFrame cfg origin channel frame =
      if limit < chargedSize (done ++ [frame]) then (none, none)
      else if frame.isLast then
        (some ((done ++ [frame]).flatMap (·.data)), none)
      else (none, some (channel.ingest frame origin)) := by
  have hsize := hcollected.ingest_size hnumber hroom origin
  have hlen : frame.number.toNat = channel.len := by
    rw [Collected.number_toNat hnumber hroom, DerivationChannel.len, hcollected.inputs]
  unfold assembleFrame
  rw [if_neg (not_not.mpr hlen), hcollected.addFrame hid hnumber hroom]
  dsimp only
  rw [hsize, hlimit]
  by_cases hlarge : limit < chargedSize (done ++ [frame])
  · rw [if_pos hlarge]
    exact if_pos hlarge
  · rw [if_neg hlarge]
    refine (if_neg hlarge).trans ?_
    by_cases hlast : frame.isLast = true
    · obtain ⟨hready, hdata⟩ := hcollected.ready hnumber hroom hlast origin
      rw [if_pos hready, if_pos hlast, hdata]
    · have hopen := (hcollected.ingest hnumber hroom (Bool.eq_false_iff.mpr hlast) origin).closed
      rw [if_neg hlast]
      simp [DerivationChannel.isReady, hopen]

theorem assemble_none {frames : List (BlockInfo × Frame)}
    (hnumbers : ∀ pair ∈ frames, pair.2.number ≠ 0) :
    assemble cfg none frames = ([], none) := by
  induction frames with
  | nil => rfl
  | cons pair _ ih =>
    obtain ⟨origin, frame⟩ := pair
    have hnumber : frame.number ≠ 0 := hnumbers _ mem_cons_self
    have hrest := ih fun other hother => hnumbers other (mem_cons_of_mem _ hother)
    simp [assemble, nextData, hnumber, hrest]

theorem chargedSize_append (front back : List Frame) :
    chargedSize (front ++ back) = chargedSize front + chargedSize back := by
  simp [chargedSize]

variable {back : List Frame}

theorem nextData_some (hopen : isTimedOut cfg origin channel = false) (hnumber : frame.number ≠ 0) :
    nextData cfg origin (some channel) frame = assembleFrame cfg origin channel frame := by
  simp [nextData, Option.filter_some, hopen, hnumber]

section

variable {origins : List BlockInfo}
  (hlimit : ∀ origin ∈ origins, cfg.maxRlpBytesPerChannel origin.timestamp = limit)
  (htimeout : ∀ opened ∈ origins, ∀ origin ∈ origins,
    ¬ opened.number + cfg.channelTimeout origin.timestamp < origin.number)
include hlimit htimeout

/-- The rest of the frames of a channel, read in a state in which the first of
them goes into the channel that is being collected. -/
theorem assemble_collected {state : Option DerivationChannel}
    {front : List (BlockInfo × Frame)} {final : BlockInfo × Frame}
    (hcollected : channel.Collected done)
    (hstart : ∀ pair, (front ++ [final]).head? = some pair →
      nextData cfg pair.1 state pair.2 = assembleFrame cfg pair.1 channel pair.2)
    (hopened : channel.openBlock ∈ origins)
    (horigins : ∀ pair ∈ front ++ [final], pair.1 ∈ origins)
    (hids : ∀ pair ∈ front ++ [final], pair.2.id = channel.id)
    (hnum : Numbered (done ++ (front ++ [final]).map (·.2)))
    (hlength : (done ++ (front ++ [final]).map (·.2)).length ≤ 65535)
    (hflags : ∀ pair ∈ front, pair.2.isLast = false) (hlast : final.2.isLast = true) :
    assemble cfg state (front ++ [final]) =
      (if limit < chargedSize (done ++ (front ++ [final]).map (·.2)) then []
      else
        [(final.1, (done ++ (front ++ [final]).map (·.2)).flatMap (·.data))],
        none) := by
  have hroom : done.length < 65535 := by
    simp at hlength
    omega
  induction front generalizing state channel done with
  | nil =>
    obtain ⟨origin, frame⟩ := final
    have hnext := (hstart (origin, frame) rfl).trans (assembleFrame_eq hcollected
      (hids (origin, frame) (by simp)) hnum.number_middle hroom
      (hlimit origin (horigins (origin, frame) (by simp))))
    simp only [nil_append, assemble, hnext, map_singleton]
    split
    · rfl
    · rfl
  | cons head front ih =>
    obtain ⟨origin, frame⟩ := head
    have hnumber := hnum.number_middle
    have hnext := (hstart (origin, frame) rfl).trans (assembleFrame_eq hcollected
      (hids (origin, frame) (by simp)) hnumber hroom
      (hlimit origin (horigins (origin, frame) (by simp))))
    have hlastFrame : frame.isLast = false := hflags (origin, frame) mem_cons_self
    have hlist : done ++ ((origin, frame) :: front ++ [final]).map (·.2) =
        (done ++ [frame]) ++ (front ++ [final]).map (·.2) := by
      simp
    rw [hlist] at hnum hlength ⊢
    have hnonzero : ∀ pair ∈ front ++ [final], pair.2.number ≠ 0 :=
      fun pair hpair => hnum.later_ne_zero (by simp) hlength pair.2 (mem_map_of_mem hpair)
    have hingest : (channel.ingest frame origin).openBlock = channel.openBlock := by
      simp [DerivationChannel.ingest, hlastFrame]
    have hingestId : (channel.ingest frame origin).id = channel.id := by
      simp [DerivationChannel.ingest, hlastFrame]
    simp only [hlastFrame] at hnext
    simp only [cons_append, assemble, hnext]
    by_cases hlarge : limit < chargedSize (done ++ [frame])
    · -- too large already: the rest of the channel is ignored
      rw [if_pos hlarge, if_pos, assemble_none hnonzero]
      · rfl
      · rw [chargedSize_append]
        omega
    · rw [if_neg hlarge]
      have horigins : ∀ pair ∈ front ++ [final], pair.1 ∈ origins :=
        fun pair hpair => horigins pair (mem_cons_of_mem _ hpair)
      have hrest := ih (hcollected.ingest hnumber hroom hlastFrame origin) (fun pair hhead => by
          have hpair := mem_of_mem_head? hhead
          apply nextData_some _ (hnonzero pair hpair)
          simpa [isTimedOut, hingest] using htimeout _ hopened _ (horigins pair hpair))
        (hingest ▸ hopened) horigins
        (fun pair hpair => hingestId ▸ hids pair (mem_cons_of_mem _ hpair))
        hnum hlength
        (fun pair hpair => hflags pair (mem_cons_of_mem _ hpair))
        (by simp at hlength ⊢; omega)
      simp [hrest]

variable {placed : List (BlockInfo × Frame)}

/-- Reading all frames of one finished channel, from any state: the channel is
handed on exactly when it is not charged too much. -/
theorem assemble_stream {id : ChannelId} (horigins : ∀ pair ∈ placed, pair.1 ∈ origins)
    (hstream : FinishedStream id (placed.map (·.2)))
    (channel : Option DerivationChannel) :
    ∃ origin ∈ origins, assemble cfg channel placed =
      (if limit < chargedSize (placed.map (·.2)) then []
      else [(origin, (placed.map (·.2)).flatMap (·.data))], none) := by
  obtain ⟨front, last, hsplit, hfront, hlast⟩ := hstream.flags
  obtain ⟨front, finalPlaced, rfl, rfl, hfinalMap⟩ := map_eq_append_iff.mp hsplit
  obtain ⟨final, rfl, rfl⟩ := map_eq_singleton_iff.mp hfinalMap
  refine ⟨final.1, horigins final (by simp), ?_⟩
  have hids : ∀ pair ∈ front ++ [final], pair.2.id = id :=
    fun pair hpair => hstream.ids pair.2 (mem_map_of_mem hpair)
  obtain ⟨⟨origin, frame⟩, hhead⟩ : ∃ pair, (front ++ [final]).head? = some pair := by
    cases front <;> exact ⟨_, rfl⟩
  have hmem := mem_of_mem_head? hhead
  have hzero : frame.number = 0 := by
    obtain ⟨rest, hrest⟩ := head?_eq_some_iff.mp hhead
    have hnum := hstream.numbered
    rw [hrest] at hnum
    exact hnum.first_eq_zero
  refine assemble_collected hlimit htimeout (DerivationChannel.new_collected frame.id origin) ?_
    (horigins _ hmem) horigins ?_ hstream.numbered hstream.length_le ?_ hlast
  · intro pair hpair
    cases hhead.symm.trans hpair
    simp [nextData, hzero]
  · exact fun pair hpair => (hids pair hpair).trans (hids _ hmem).symm
  · exact fun pair hpair => hfront pair.2 (mem_map_of_mem hpair)

/-- Reading finished channels one after the other. -/
theorem assemble_streams {streams : List (List Frame)}
    (hstreams : ∀ stream ∈ streams, ∃ id, FinishedStream id stream)
    (horigins : ∀ pair ∈ placed, pair.1 ∈ origins)
    (hplaced : placed.map (·.2) = streams.flatten) (channel : Option DerivationChannel) :
    (assemble cfg channel placed).1.map (·.2) = (streams.filter (chargedSize · ≤ limit)).map
          (·.flatMap (·.data)) ∧
      ∀ pair ∈ (assemble cfg channel placed).1, pair.1 ∈ origins := by
  induction streams generalizing placed channel with
  | nil =>
    obtain rfl := map_eq_nil_iff.mp hplaced
    simp [assemble]
  | cons stream _ ih =>
    obtain ⟨first, rest, rfl, hfirst, hrest⟩ := map_eq_append_iff.mp hplaced
    obtain ⟨id, hstream⟩ := hstreams stream mem_cons_self
    rw [← hfirst] at hstream
    obtain ⟨origin, horigin, hassemble⟩ := assemble_stream hlimit htimeout
      (fun pair hpair => horigins pair (mem_append_left _ hpair)) hstream channel
    obtain ⟨hemitted, horigins'⟩ := ih
      (fun other hother => hstreams other (mem_cons_of_mem _ hother))
      (fun pair hpair => horigins pair (mem_append_right _ hpair)) hrest none
    rw [assemble_append, hassemble]
    by_cases hlarge : limit < chargedSize (first.map (·.2))
    · rw [if_pos hlarge]
      have hskip : ¬ chargedSize stream ≤ limit := by
        rw [← hfirst]
        omega
      rw [filter_cons_of_neg (by simpa using hskip)]
      exact ⟨hemitted, horigins'⟩
    · rw [if_neg hlarge]
      have hkeep : chargedSize stream ≤ limit := by
        rw [← hfirst]
        omega
      rw [filter_cons_of_pos (by simpa using hkeep)]
      refine ⟨?_, ?_⟩
      · rw [map_append, hemitted, hfirst]
        rfl
      · intro pair hpair
        rcases mem_append.mp hpair with hpair | hpair
        · rw [mem_singleton.mp hpair]
          exact horigin
        · exact horigins' pair hpair

end

end Assembly

end ChannelAssembler

end BaseChain
