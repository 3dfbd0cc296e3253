/-
Draining closed channels.  Once every stream has ended, the egress plans and
commits exactly the frames that cutting the queue of streams gives.
-/
import BaseChain.ChannelStream
import BaseChain.FrameCutting

namespace BaseChain

open List Frame Backlog

variable {brotli : BrotliWriter}

/-- Bytes that are there can be taken. -/
theorem takeOutput_of_le {count : Nat} {output : List Bytes}
    (hcount : count ≤ output.flatten.length) :
    ∃ rest, takeOutput count output = some (output.flatten.take count, rest) ∧
      rest.flatten = output.flatten.drop count := by
  have hsome : ∃ data rest, takeOutput count output = some (data, rest) := by
    induction output generalizing count with
    | nil =>
      obtain rfl := Nat.le_zero.mp hcount
      exact ⟨_, _, rfl⟩
    | cons chunk output ih =>
      cases count with
      | zero => exact ⟨_, _, rfl⟩
      | succ count =>
        rw [takeOutput]
        split
        · exact ⟨_, _, rfl⟩
        · rw [flatten_cons, length_append] at hcount
          have hrest : count + 1 - min (count + 1) chunk.length ≤ output.flatten.length := by omega
          obtain ⟨data, rest, htake⟩ := ih hrest
          rw [htake]
          exact ⟨_, _, rfl⟩
  obtain ⟨data, rest, htake⟩ := hsome
  obtain ⟨hflatten, hlength⟩ := takeOutput_eq_some htake
  refine ⟨rest, ?_, ?_⟩
  · rw [htake, ← hflatten, ← hlength, take_left]
  · rw [← hflatten, ← hlength, drop_left]

/-- A channel whose stream has ended and is due: only frames are cut from it
from here on. -/
structure Sealed (maxFrameSize l1Head : Nat) (channel : BatcherChannel brotli) : Prop where
  closed : channel.compressor = none
  available : channel.availableOutput = channel.output.flatten.length
  frameSize : channel.maxFrameSize = maxFrameSize
  due : channel.deadlineL1Block ≤ l1Head
  owed : channel.terminalPending = true → channel.output.flatten ≠ []

variable (channel : BatcherChannel brotli)

/-- What is left to frame in a channel. -/
def BatcherChannel.backlog : Backlog :=
  { id := channel.id
    number := channel.nextFrameNumber
    data := channel.output.flatten }

variable (channels : List (BatcherChannel brotli))

/-- The queue of streams that are not completely framed. -/
def backlogs : List Backlog := (channels.filter (·.terminalPending)).map (·.backlog)

theorem backlogs_cons :
    backlogs (channel :: channels) = backlogs [channel] ++ backlogs channels := by
  cases hpend : channel.terminalPending with
  | false | true => simp [backlogs, hpend]

variable {channel : BatcherChannel brotli}

theorem backlogs_singleton (hpend : channel.terminalPending = true) :
    backlogs [channel] = [channel.backlog] := by
  simp [backlogs, hpend]

theorem backlogs_singleton_nil (hpend : channel.terminalPending = false) :
    backlogs [channel] = [] := by
  simp [backlogs, hpend]

/-- The plan that asks for a frame. -/
def Frame.planned (frame : Frame) : PlannedFrame :=
  { channelId := frame.id
    dataLen := frame.data.length
    isLast := frame.isLast }

variable {maxFrameSize l1Head : Nat}

namespace Sealed

theorem framingComplete (hsealed : Sealed maxFrameSize l1Head channel) :
    channel.framingComplete = !channel.terminalPending := by
  simp [BatcherChannel.framingComplete, hsealed.closed]

/-- The next frame of a queue is cut from the channel as planned. -/
theorem takeFrame (hsealed : Sealed maxFrameSize l1Head channel)
    (hpend : channel.terminalPending = true)
    (hnumber : channel.nextFrameNumber < BatcherChannel.maxFrames)
    (maxData remaining : Nat) :
    ∃ channel', channel.takeFrame (channel.backlog.frame maxData remaining).planned.dataLen
          (channel.backlog.frame maxData remaining).planned.isLast =
        some (.ok (channel.backlog.frame maxData remaining, channel')) ∧
      Sealed maxFrameSize l1Head channel' ∧ channel'.id = channel.id ∧
      backlogs [channel'] = channel.backlog.leave maxData remaining [] := by
  let dataLen := cutLength maxData remaining channel.output.flatten.length
  have hlen : dataLen ≤ channel.output.flatten.length := Nat.min_le_left _ _
  have hplanned : (channel.backlog.frame maxData remaining).planned.dataLen =
      dataLen := by
    change (channel.output.flatten.take dataLen).length = dataLen
    rw [length_take, min_eq_left hlen]
  obtain ⟨rest, htake, hrest⟩ := takeOutput_of_le hlen
  let isLast : Bool := dataLen = channel.output.flatten.length
  refine ⟨{ channel with
      output := rest
      availableOutput := channel.availableOutput - dataLen
      nextFrameNumber := channel.nextFrameNumber + 1
      terminalPending := if isLast then false else channel.terminalPending },
    ?_, ⟨hsealed.closed, ?_, hsealed.frameSize, hsealed.due, ?_⟩, rfl, ?_⟩
  · rw [hplanned]
    have hopen : ¬ dataLen > channel.availableOutput := by
      rw [hsealed.available]
      omega
    have hterminal : (isLast && (channel.compressor.isSome ||
        decide (dataLen ≠ channel.availableOutput) || !channel.terminalPending)) = false := by
      simp [isLast, hsealed.closed, hpend, hsealed.available]
    change channel.takeFrame dataLen isLast = _
    simp only [BatcherChannel.takeFrame, if_neg hopen,
      if_neg (not_le.mpr hnumber), hterminal, htake]
    rfl
  · simp [hrest, hsealed.available]
  · intro hstill
    have hpart : dataLen ≠ channel.output.flatten.length := by
      intro hall
      simp [isLast, hall] at hstill
    rw [hrest, ← length_pos_iff, length_drop]
    omega
  · by_cases hall : dataLen = channel.output.flatten.length
    · have hlast : isLast = true := by simpa [isLast] using hall
      simp only [hlast]
      exact (if_pos hall).symm
    · have hlast : isLast = false := by simpa [isLast] using hall
      refine Eq.trans ?_ (if_neg hall).symm
      simp [backlogs, hlast, hpend, BatcherChannel.backlog, hrest, dataLen]

end Sealed

variable {channels : List (BatcherChannel brotli)} {backlog : Backlog}

namespace DaEgress

section Planning

variable {maxData : Nat}

theorem planDataFrame_eq (hdata : channel.maxFrameData = maxData)
    (hid : backlog.id = channel.id) {remaining : Nat}
    {frames : List PlannedFrame} :
    planDataFrame channel ⟨backlog.data.length, true, remaining, frames⟩ =
      (backlog.frame maxData remaining).planned := by
  simp only [planDataFrame, hdata, Bool.and_true, planned, frame, hid, cutLength, length_take]
  rw [min_eq_left (Nat.min_le_left _ _)]
  rfl

/-- The data-frame loop cuts the channel's stream until it is finished or the
blob is full. -/
theorem planDataFrames_cuts (hdata : channel.maxFrameData = maxData)
    (hpos : 0 < maxData) (rest : List Backlog) (turns : Nat)
    (hid : backlog.id = channel.id)
    (hturns : backlog.data.length ≤ turns) (howed : 0 < backlog.data.length)
    (remaining : Nat) (frames : List PlannedFrame) :
    ∃ cut left, (planDataFrames channel turns ⟨backlog.data.length, true, remaining, frames⟩ =
        ⟨0, false, left, frames ++ cut.map planned⟩ ∧
        Cuts maxData (backlog :: rest) remaining cut rest left) ∨
      ∃ unfinished : Backlog, 0 < unfinished.data.length ∧ planDataFrames channel turns
            ⟨backlog.data.length, true, remaining, frames⟩ =
          ⟨unfinished.data.length, true, left, frames ++ cut.map planned⟩ ∧
        left ≤ encodedOverhead ∧
        Cuts maxData (backlog :: rest) remaining cut (unfinished :: rest)
          left := by
  induction turns generalizing backlog remaining frames with
  | zero => omega
  | succ turns ih =>
    rw [planDataFrames]
    by_cases hroom : remaining > encodedOverhead
    · rw [if_pos ⟨howed, hroom⟩, planDataFrame_eq hdata hid]
      by_cases hall : cutLength maxData remaining backlog.data.length = backlog.data.length
      · -- the last frame of the stream
        have hlast : (backlog.frame maxData remaining).planned.isLast =
            true := by
          simp [planned, frame, hall]
        refine ⟨[backlog.frame maxData remaining], backlog.room maxData remaining, .inl ⟨?_, ?_⟩⟩
        · rw [if_pos hlast, advance]
          simp [planned, frame, hall, room]
        · refine .cut hroom ?_
          rw [leave, if_pos hall]
          exact .done _ _
      · have hlast : (backlog.frame maxData remaining).planned.isLast =
            false := by
          simp [planned, frame, hall]
        have hlen : 0 < cutLength maxData remaining backlog.data.length ∧
            cutLength maxData remaining backlog.data.length < backlog.data.length := by
          unfold cutLength at hall ⊢
          omega
        let next : Backlog :=
          { backlog with
            number := backlog.number + 1
            data := backlog.data.drop (cutLength maxData remaining backlog.data.length) }
        have hnext : next.data.length = backlog.data.length -
            cutLength maxData remaining backlog.data.length := length_drop
        have hadvance : advance ⟨backlog.data.length, true, remaining, frames⟩
            (backlog.frame maxData remaining).planned =
            ⟨next.data.length, true, backlog.room maxData remaining,
              frames ++ [(backlog.frame maxData remaining).planned]⟩ := by
          rw [advance, hlast, hnext]
          simp [planned, frame, room, min_eq_left (le_of_lt hlen.2)]
        have hleave : backlog.leave maxData remaining rest = next :: rest := if_neg hall
        rw [if_neg (by simp [hlast]), hadvance]
        obtain ⟨cut, left, hcuts⟩ := ih (show next.id = channel.id from hid)
          (by omega) (by omega) (backlog.room maxData remaining)
          (frames ++ [(backlog.frame maxData remaining).planned])
        refine ⟨backlog.frame maxData remaining :: cut, left, ?_⟩
        rw [append_assoc] at hcuts
        rcases hcuts with ⟨hloop, hcuts⟩ | ⟨unfinished, hlong, hloop, hleft, hcuts⟩
        · exact .inl ⟨hloop, .cut hroom (hleave ▸ hcuts)⟩
        · exact .inr ⟨unfinished, hlong, hloop, hleft, .cut hroom (hleave ▸ hcuts)⟩
    · rw [if_neg (fun hguard => hroom hguard.2)]
      exact ⟨[], remaining, .inr ⟨backlog, howed, by simp, not_lt.mp hroom, .done _ _⟩⟩

/-- The frames planned for one channel: all it still needs, or as many as the
blob has room for. -/
theorem planChannelFrames_cuts (hsealed : Sealed maxFrameSize l1Head channel)
    (hpend : channel.terminalPending = true)
    (hsize : encodedOverhead + 1 ≤ maxFrameSize) (rest : List Backlog)
    (remaining : Nat) (frames : List PlannedFrame) :
    ∃ complete left cut last, planChannelFrames channel remaining frames =
        (complete, left, frames ++ cut.map planned) ∧
      Cuts (maxFrameSize - encodedOverhead) (channel.backlog :: rest) remaining cut last left ∧
      if complete then last = rest else left ≤ encodedOverhead := by
  have hdata : channel.maxFrameData = maxFrameSize - encodedOverhead := by
    rw [BatcherChannel.maxFrameData, hsealed.frameSize]
  have howed := length_pos_iff.mpr (hsealed.owed hpend)
  have hopen : channel.isOpen = false := by simp [BatcherChannel.isOpen, hsealed.closed]
  have havailable : channel.availableOutput = channel.backlog.data.length := hsealed.available
  unfold planChannelFrames
  rw [havailable, hpend]
  obtain ⟨cut, left, hcuts⟩ := planDataFrames_cuts hdata (by omega) rest
    channel.backlog.data.length (show channel.backlog.id = channel.id from rfl)
    (le_refl _) howed remaining frames
  rcases hcuts with ⟨hloop, hcuts⟩ | ⟨unfinished, hlong, hloop, hleft, hcuts⟩
  · refine ⟨true, left, cut, rest, ?_, hcuts, rfl⟩
    rw [hloop]
    simp [hopen]
  · refine ⟨false, left, cut, unfinished :: rest, ?_, hcuts, hleft⟩
    rw [hloop]
    simp [Nat.ne_of_gt hlong]

variable (hsealed : ∀ channel ∈ channels, Sealed maxFrameSize l1Head channel)
include hsealed

/-- In calldata the first stream that is left gives the next frame. -/
theorem planCalldata_eq : planCalldata channels = (backlogs channels).head?.map fun backlog =>
      (backlog.frame (maxFrameSize - encodedOverhead) maxFrameSize).planned := by
  induction channels with
  | nil => rfl
  | cons channel channels ih =>
    have hfirst := hsealed channel mem_cons_self
    have hrest := ih fun other hother => hsealed other (mem_cons_of_mem _ hother)
    rw [planCalldata, hfirst.framingComplete]
    cases hpend : channel.terminalPending with
    | false => simpa [backlogs, hpend] using hrest
    | true =>
      have hdata : channel.maxFrameData = maxFrameSize - encodedOverhead := by
        rw [BatcherChannel.maxFrameData, hfirst.frameSize]
      have hqueue : backlogs (channel :: channels) = channel.backlog :: backlogs channels := by
        simp [backlogs, hpend]
      have hopen : channel.availableOutput = channel.backlog.data.length := hfirst.available
      rw [hqueue, List.head?_cons, Option.map_some, ← planDataFrame_eq hdata rfl, ← hopen]
      · simp only [Bool.not_true, Bool.false_eq_true, if_false, if_true,
          hdata, planDataFrame, min_self, Bool.and_true]
        split
        · rename_i hfull
          rw [min_eq_right hfull]
        · rename_i hshort
          rw [min_eq_left (Nat.le_of_not_ge hshort), decide_eq_true rfl]
      · exact []

variable (hsize : encodedOverhead + 1 ≤ maxFrameSize)
include hsize

/-- The walk over the channels cuts frames until no stream is left or the blob
is full, and anything it cuts is due. -/
theorem planWalk_cuts (remaining : Nat) (releaseDue : Bool) (frames : List PlannedFrame) :
    ∃ cut rest left, planWalk l1Head channels remaining releaseDue frames =
        (left, releaseDue || !cut.isEmpty, frames ++ cut.map planned) ∧
      Cuts (maxFrameSize - encodedOverhead) (backlogs channels) remaining cut rest left ∧
      (rest = [] ∨ left ≤ encodedOverhead) := by
  induction channels generalizing remaining releaseDue frames with
  | nil => exact ⟨[], [], remaining, by simp [planWalk], .done _ _, .inl rfl⟩
  | cons channel channels ih =>
    have hfirst := hsealed channel mem_cons_self
    have hrest := ih fun other hother => hsealed other (mem_cons_of_mem _ hother)
    rw [planWalk, hfirst.framingComplete]
    cases hpend : channel.terminalPending with
    | false => simpa [backlogs, hpend] using hrest remaining releaseDue frames
    | true =>
      have hqueue : backlogs (channel :: channels) = channel.backlog :: backlogs channels := by
        simp [backlogs, hpend]
      have hdue : channel.deadlineDue l1Head = true := by
        simpa [BatcherChannel.deadlineDue] using hfirst.due
      have hopen : channel.isOpen = false := by simp [BatcherChannel.isOpen, hfirst.closed]
      obtain ⟨complete, middle, front, last, hplan, hcuts, hlast⟩ :=
        planChannelFrames_cuts hfirst hpend hsize (backlogs channels) remaining frames
      have hflag : (if (decide (frames.length <
          (frames ++ front.map planned).length) && !channel.isOpen) =
          true then releaseDue || channel.deadlineDue l1Head
          else releaseDue) = (releaseDue || !front.isEmpty) := by
        cases front with
        | nil => simp
        | cons => simp [hopen, hdue]
      simp only [hplan, hqueue, hflag]
      cases complete with
      | false => exact ⟨front, last, middle, rfl, hcuts, .inr hlast⟩
      | true =>
        obtain ⟨back, rest, left, hwalk, htail, hstop⟩ := hrest middle
          (releaseDue || !front.isEmpty) (frames ++ front.map planned)
        obtain rfl : last = backlogs channels := hlast
        refine ⟨front ++ back, rest, left, ?_, hcuts.trans htail, hstop⟩
        rw [hwalk]
        cases front with
        | nil | cons => simp

/-- A blob is planned whenever a stream is left. -/
theorem planBlob_cuts :
    (planBlob channels l1Head = none ∧ backlogs channels = []) ∨
    ∃ cut rest left, cut ≠ [] ∧ planBlob channels l1Head = some (cut.map planned) ∧
      Cuts (maxFrameSize - encodedOverhead) (backlogs channels) blobCapacity cut rest left ∧
      (rest = [] ∨ left ≤ encodedOverhead) := by
  obtain ⟨cut, rest, left, hwalk, hcuts, hstop⟩ := planWalk_cuts hsealed hsize blobCapacity false []
  cases cut with
  | nil =>
    left
    refine ⟨by simp [planBlob, hwalk], ?_⟩
    obtain ⟨rfl, rfl⟩ := hcuts.of_nil
    exact hstop.resolve_right (by decide)
  | cons frame cut =>
    right
    refine ⟨frame :: cut, rest, left, by simp, ?_, hcuts, hstop⟩
    simp [planBlob, hwalk]

end Planning

end DaEgress

/-- Blobs are filled one after the other; a blob without room for a data byte is
full. -/
def blobBudget (maxFrameSize : Nat) (hsize : encodedOverhead + 1 ≤ maxFrameSize) : FrameBudget where
  maxData := maxFrameSize - encodedOverhead
  refill remaining := if remaining ≤ encodedOverhead then DaEgress.blobCapacity
    else remaining
  maxData_pos := by omega
  refill_gt remaining := by
    split
    · decide
    · omega

/-- Every calldata frame has a transaction of its own. -/
def calldataBudget (maxFrameSize : Nat)
    (hsize : encodedOverhead + 1 ≤ maxFrameSize) : FrameBudget where
  maxData := maxFrameSize - encodedOverhead
  refill _ := maxFrameSize
  maxData_pos := by omega
  refill_gt _ := hsize

variable (budget : FrameBudget) (remaining : Nat)

/-- The frames of every stream can be numbered. -/
def FrameBudget.InRange (backlogs : List Backlog) : Prop :=
  List.Forall₂ (fun backlog count => backlog.number + count ≤ BatcherChannel.maxFrames)
    backlogs (budget.frameCounts remaining (backlogs.map (·.data.length)))

theorem FrameBudget.inRange_nil : budget.InRange remaining [] := .nil

/-- The frames can be numbered when the next one can and those behind it. -/
theorem FrameBudget.inRange_cons (backlog : Backlog) (backlogs : List Backlog) :
    budget.InRange remaining (backlog :: backlogs) ↔ backlog.number < BatcherChannel.maxFrames ∧
      budget.InRange (backlog.room budget.maxData (budget.refill remaining))
        (backlog.leave budget.maxData (budget.refill remaining) backlogs) := by
  unfold FrameBudget.InRange
  rw [map_cons]
  by_cases hall : cutLength budget.maxData (budget.refill remaining)
      backlog.data.length = backlog.data.length
  · rw [budget.frameCounts_last _ _ hall, leave, if_pos hall,
      room, hall, forall₂_cons, Nat.succ_le_iff]
  · rw [leave, if_neg hall, room, map_cons]
    cases htail : budget.frameCounts (budget.refill remaining -
        (encodedOverhead + cutLength budget.maxData (budget.refill remaining) backlog.data.length))
        ((backlog.data.length - cutLength budget.maxData
          (budget.refill remaining) backlog.data.length) :: backlogs.map (·.data.length)) with
    | nil => simp [FrameBudget.frameCounts] at htail
    | cons =>
      rw [budget.frameCounts_cons _ rfl hall htail, length_drop, htail, forall₂_cons, forall₂_cons]
      constructor
      · rintro ⟨hfirst, hrest⟩
        exact ⟨by omega, by dsimp only; omega, hrest⟩
      · rintro ⟨-, hfirst, hrest⟩
        exact ⟨by dsimp only at hfirst; omega, hrest⟩

/-- Channels that are only drained: all sealed, under distinct ids. -/
structure Draining (maxFrameSize l1Head : Nat)
    (channels : List (BatcherChannel brotli)) : Prop where
  isSealed : ∀ channel ∈ channels, Sealed maxFrameSize l1Head channel
  ids : (channels.map (·.id)).Nodup

namespace DaEgress

section Committing

variable {rest : List Backlog}

/-- Committing the next frame of the queue fails only when its number is out of
range. -/
theorem commitFrame_cut (hdraining : Draining maxFrameSize l1Head channels)
    (hqueue : backlogs channels = backlog :: rest)
    (maxData remaining : Nat) :
    (commitFrame (backlog.frame maxData remaining).planned channels = none ∧
      ¬ backlog.number < BatcherChannel.maxFrames) ∨
    ∃ channels', backlog.number < BatcherChannel.maxFrames ∧
      commitFrame (backlog.frame maxData remaining).planned channels =
        some (backlog.frame maxData remaining, channels') ∧
      Draining maxFrameSize l1Head channels' ∧
      channels'.map (·.id) = channels.map (·.id) ∧
      backlogs channels' = backlog.leave maxData remaining rest := by
  induction channels with
  | nil => cases hqueue
  | cons channel channels ih =>
    obtain ⟨hsealed, hids⟩ := hdraining
    obtain ⟨hfirst, hlater⟩ := forall_mem_cons.mp hsealed
    obtain ⟨hfresh, hids⟩ := nodup_cons.mp hids
    rw [commitFrame]
    cases hpend : channel.terminalPending with
    | true =>
      rw [backlogs_cons, backlogs_singleton hpend] at hqueue
      obtain ⟨rfl, rfl⟩ := List.cons.inj hqueue
      have hself : channel.id = (channel.backlog.frame maxData remaining).planned.channelId := rfl
      simp only [if_pos hself]
      by_cases hnumber : channel.nextFrameNumber < BatcherChannel.maxFrames
      · right
        obtain ⟨channel', htake, hsealed', hid, hback⟩ :=
          hfirst.takeFrame hpend hnumber maxData remaining
        have hmap : (channel' :: channels).map (·.id) = (channel :: channels).map (·.id) := by
          rw [map_cons, map_cons, hid]
        refine ⟨channel' :: channels, hnumber, by rw [htake], ⟨?_, ?_⟩, hmap, ?_⟩
        · exact forall_mem_cons.mpr ⟨hsealed', hlater⟩
        · rw [hmap]
          exact nodup_cons.mpr ⟨hfresh, hids⟩
        · rw [backlogs_cons, hback, ← leave_append]
          rfl
      · left
        refine ⟨?_, hnumber⟩
        split
        · rename_i htake
          obtain ⟨_, _, -, hlt, -⟩ := BatcherChannel.takeFrame_eq_ok htake
          exact absurd hlt hnumber
        · rfl
    | false =>
      rw [backlogs_cons, backlogs_singleton_nil hpend, nil_append] at hqueue
      have hother : channel.id ≠ (backlog.frame maxData remaining).planned.channelId := by
        have hmem : backlog ∈ backlogs channels := by simp [hqueue]
        obtain ⟨owner, howner, rfl⟩ := mem_map.mp hmem
        intro heq
        exact hfresh (mem_map.mpr ⟨owner, (mem_filter.mp howner).1, heq.symm⟩)
      simp only [if_neg hother]
      rcases ih ⟨hlater, hids⟩ hqueue with ⟨hnone, hnumber⟩ | ⟨channels',
        hnumber, hcommit, hdraining', hmap, hback⟩
      · exact .inl ⟨by rw [hnone]; rfl, hnumber⟩
      · have hmap' : (channel :: channels').map (·.id) = (channel :: channels).map (·.id) := by
          rw [map_cons, map_cons, hmap]
        refine .inr ⟨channel :: channels', hnumber, by rw [hcommit]; rfl, ⟨?_, ?_⟩, hmap', ?_⟩
        · exact forall_mem_cons.mpr ⟨hfirst, hdraining'.isSealed⟩
        · rw [hmap']
          exact nodup_cons.mpr ⟨hfresh, hids⟩
        · rw [backlogs_cons, backlogs_singleton_nil hpend, hback]
          rfl

/-- Committing the cuts of a plan fails only when a number is out of range. -/
theorem commitFrames_cuts (hsize : encodedOverhead + 1 ≤ maxFrameSize)
    {first : List Backlog} {remaining left : Nat} {cut : List Frame}
    (hcuts : Cuts (maxFrameSize - encodedOverhead) first remaining cut
      rest left) (hdraining : Draining maxFrameSize l1Head channels)
    (hqueue : backlogs channels = first) :
    (commitFrames (cut.map planned) channels = none ∧
      ¬ (blobBudget maxFrameSize hsize).InRange remaining first) ∨
    ∃ channels', commitFrames (cut.map planned) channels = some (cut, channels') ∧
      Draining maxFrameSize l1Head channels' ∧ backlogs channels' = rest ∧
      ((blobBudget maxFrameSize hsize).InRange remaining first ↔
        (blobBudget maxFrameSize hsize).InRange left rest) := by
  induction hcuts generalizing channels with
  | done => exact .inr ⟨channels, rfl, hdraining, hqueue, Iff.rfl⟩
  | @cut backlog behind rest remaining left frames hroom htail ih =>
    have hrefill : (blobBudget maxFrameSize hsize).refill remaining =
        remaining := if_neg (not_le.mpr hroom)
    have hrange := (blobBudget maxFrameSize hsize).inRange_cons remaining backlog behind
    rw [hrefill] at hrange
    rw [map_cons, commitFrames]
    rcases commitFrame_cut hdraining hqueue _ remaining with
      ⟨hnone, hnumber⟩ | ⟨middle, hnumber, hcommit, hmiddle, -, hback⟩
    · refine .inl ⟨by rw [hnone]; rfl, ?_⟩
      rw [hrange]
      exact fun hall => hnumber hall.1
    · rw [hrange, hcommit]
      rcases ih hmiddle hback with ⟨hnone, hout⟩ | ⟨channels', hrest, hdraining', hback', hiff⟩
      · exact .inl ⟨by simp [hnone], fun hall => hout hall.2⟩
      · refine .inr ⟨channels', by simp [hrest], hdraining', hback', ?_⟩
        rw [← hiff]
        exact and_iff_right hnumber

end Committing

end DaEgress

end BaseChain
