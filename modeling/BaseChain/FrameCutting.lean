/-
How a queue of finished streams is cut into frames: always the first stream,
always the largest frame that fits, against a byte budget that is renewed when
it is used up.  The sizes alone decide the cuts, so the number of frames can
also be computed from the lengths of the streams.
-/
import BaseChain.FrameQueue
import BaseChain.ChannelAssembler

namespace BaseChain

open List Frame

/-- The bytes of a stream that are still to be framed, from a frame number
on. -/
structure Backlog where
  id : ChannelId
  number : Nat
  data : Bytes

/-- The budget frames are cut against: no frame holds more than `maxData`
bytes, and `refill` is the room there is for the next frame. -/
structure FrameBudget where
  maxData : Nat
  refill : Nat → Nat
  maxData_pos : 0 < maxData
  refill_gt : ∀ remaining, encodedOverhead < refill remaining

/-- The data bytes of the next frame. -/
def cutLength (maxData remaining available : Nat) : Nat :=
  min available (min (remaining - encodedOverhead) maxData)

namespace Backlog

variable (backlog : Backlog) (maxData remaining : Nat)

def frame : Frame :=
  let dataLen := cutLength maxData remaining backlog.data.length
  { id := backlog.id
    number := UInt16.ofNat backlog.number
    data := backlog.data.take dataLen
    isLast := dataLen = backlog.data.length }

variable (backlogs : List Backlog)

/-- The queue behind the next frame. -/
def leave : List Backlog :=
  let dataLen := cutLength maxData remaining backlog.data.length
  if dataLen = backlog.data.length then
    backlogs
  else
    { backlog with
      number := backlog.number + 1
      data := backlog.data.drop dataLen } :: backlogs

/-- The room behind the next frame. -/
def room : Nat := remaining - (encodedOverhead + cutLength maxData remaining backlog.data.length)

theorem leave_append : backlog.leave maxData remaining backlogs =
      backlog.leave maxData remaining [] ++ backlogs := by
  unfold leave
  dsimp only
  split
  · rfl
  · rfl

end Backlog

/-- Frames cut one after the other without renewing the budget. -/
inductive Cuts (maxData : Nat) : List Backlog → Nat → List Frame → List Backlog → Nat → Prop where
  | done (backlogs : List Backlog) (remaining : Nat) :
      Cuts maxData backlogs remaining [] backlogs remaining
  | cut {backlog : Backlog} {backlogs rest : List Backlog}
      {remaining left : Nat} {frames : List Frame}
      (hroom : encodedOverhead < remaining)
      (htail : Cuts maxData (backlog.leave maxData remaining backlogs)
        (backlog.room maxData remaining) frames rest left) :
      Cuts maxData (backlog :: backlogs) remaining
        (backlog.frame maxData remaining :: frames) rest left

variable {maxData : Nat} {first : List Backlog}

theorem Cuts.trans {second third : List Backlog} {r₁ r₂ r₃ : Nat}
    {front back : List Frame} (hfront : Cuts maxData first r₁ front second r₂)
    (hback : Cuts maxData second r₂ back third r₃) :
    Cuts maxData first r₁ (front ++ back) third r₃ := by
  induction hfront with
  | done => exact hback
  | cut hroom _ ih => exact .cut hroom (ih hback)

variable {remaining : Nat}

theorem Cuts.of_nil {last : List Backlog} {left : Nat}
    (hcuts : Cuts maxData first remaining [] last left) :
    last = first ∧ left = remaining := by
  cases hcuts with
  | done => exact ⟨rfl, rfl⟩

namespace FrameBudget

variable (budget : FrameBudget)

/-- A frame that does not take everything takes something. -/
theorem cutLength_pos (remaining : Nat) {available : Nat}
    (hpart : cutLength budget.maxData (budget.refill remaining) available ≠ available) :
    0 < cutLength budget.maxData (budget.refill remaining) available ∧
      cutLength budget.maxData (budget.refill remaining) available <
        available := by
  have hdata := budget.maxData_pos
  have hroom := budget.refill_gt remaining
  unfold cutLength at hpart ⊢
  omega

/-- All frames of a queue of streams. -/
def frameAll : Nat → List Backlog → List Frame
  | _, [] => []
  | remaining, backlog :: backlogs =>
    let room := budget.refill remaining
    backlog.frame budget.maxData room :: frameAll (backlog.room budget.maxData room)
        (backlog.leave budget.maxData room backlogs)
termination_by _ backlogs =>
  (backlogs.map fun backlog => backlog.data.length + 1).sum
decreasing_by
  unfold Backlog.leave
  dsimp only
  split
  · simp
  · rename_i hpart
    have hcut := budget.cutLength_pos remaining hpart
    simp only [List.map_cons, List.sum_cons, List.length_drop]
    omega

/-- The number of frames of one stream, and the room behind them. -/
def frameCount (remaining available : Nat) : Nat × Nat :=
  let room := budget.refill remaining
  let dataLen := cutLength budget.maxData room available
  let left := room - (encodedOverhead + dataLen)
  if dataLen = available then
    (1, left)
  else
    let (count, last) := frameCount left (available - dataLen)
    (count + 1, last)
termination_by available
decreasing_by
  rename_i hpart
  have hcut := budget.cutLength_pos remaining hpart
  exact Nat.sub_lt (Nat.zero_lt_of_lt hcut.2) hcut.1

/-- The number of frames of every stream of a queue. -/
def frameCounts : Nat → List Nat → List Nat
  | _, [] => []
  | remaining, available :: lengths =>
    let (count, left) := budget.frameCount remaining available
    count :: frameCounts left lengths

theorem frameAll_nil (remaining : Nat) : budget.frameAll remaining [] = [] := by rw [frameAll]

theorem frameAll_cons (remaining : Nat) (backlog : Backlog) (backlogs : List Backlog) :
    budget.frameAll remaining (backlog :: backlogs) =
      backlog.frame budget.maxData (budget.refill remaining) :: budget.frameAll
          (backlog.room budget.maxData (budget.refill remaining))
          (backlog.leave budget.maxData (budget.refill remaining) backlogs) := by
  rw [frameAll]

end FrameBudget

/-- The frames of one backlog. -/
structure Framed (backlog : Backlog) (frames : List Frame) : Prop where
  ids : ∀ frame ∈ frames, frame.id = backlog.id
  numbers : frames.map (·.number) = (List.range' backlog.number frames.length).map UInt16.ofNat
  data : frames.flatMap (·.data) = backlog.data
  flags : ∃ front last, frames = front ++ [last] ∧
    (∀ frame ∈ front, frame.isLast = false) ∧ last.isLast = true

variable {backlog : Backlog}

/-- The last frame of a stream. -/
theorem Framed.last (hall : cutLength maxData remaining backlog.data.length = backlog.data.length) :
    Framed backlog [backlog.frame maxData remaining] := by
  refine ⟨?_, ?_, ?_, ⟨[], _, rfl, by simp, ?_⟩⟩
  · simp [Backlog.frame]
  · simp [Backlog.frame]
  · simp [Backlog.frame, hall]
  · simp [Backlog.frame, hall]

/-- A frame in front of the frames of the rest. -/
theorem Framed.cons {backlog : Backlog} {maxData remaining : Nat}
    (hpart : cutLength maxData remaining backlog.data.length ≠
      backlog.data.length) {frames : List Frame}
    (hframed : Framed
      { backlog with
        number := backlog.number + 1
        data := backlog.data.drop (cutLength maxData remaining backlog.data.length) } frames) :
    Framed backlog (backlog.frame maxData remaining :: frames) := by
  obtain ⟨hids, hnumbers, hdata, front, last, hsplit, hfront, hlast⟩ := hframed
  refine ⟨?_, ?_, ?_, backlog.frame maxData remaining :: front, last, ?_, ?_, hlast⟩
  · simpa [Backlog.frame] using hids
  · rw [map_cons, hnumbers, length_cons, range'_succ]
    rfl
  · rw [flatMap_cons, hdata]
    exact take_append_drop _ _
  · rw [hsplit, cons_append]
  · simpa [Backlog.frame, hpart] using hfront

variable {frames : List Frame}

section

variable (hframed : Framed backlog frames)
include hframed

theorem Framed.ne_nil : frames ≠ [] := by
  obtain ⟨front, last, rfl, -⟩ := hframed.flags
  simp

theorem Framed.finished (hnumber : backlog.number = 0)
    (hlength : frames.length ≤ 65535) : FinishedStream backlog.id frames := by
  refine ⟨hframed.ids, ?_, hlength, hframed.flags⟩
  rw [Numbered, hframed.numbers, hnumber, range_eq_range']

theorem Framed.number_eq {index : Nat} (hindex : index < frames.length) :
    frames[index].number = UInt16.ofNat (backlog.number + index) := by
  have hget := congrArg (fun numbers => numbers[index]?) hframed.numbers
  simpa [hindex] using hget

/-- Every frame of a stream continues the one before it. -/
theorem Framed.linked : frames.IsChain FrameQueue.Linked := by
  apply isChain_iff_getElem.mpr
  intro index hindex
  refine .inl ⟨?_, ?_, ?_⟩
  · rw [hframed.ids _ (getElem_mem _), hframed.ids _ (getElem_mem _)]
  · rw [hframed.number_eq, hframed.number_eq, ← add_assoc, UInt16.ofNat_add]
    rfl
  · obtain ⟨front, last, rfl, hfront, -⟩ := hframed.flags
    rw [length_append, length_singleton] at hindex
    rw [getElem_append_left (by omega)]
    exact hfront _ (getElem_mem _)

end

/-- The streams of distinct channels, one after the other, are linked. -/
theorem linked_of_framed {backlogs : List Backlog} {streams : List (List Frame)}
    (hframed : Forall₂ Framed backlogs streams)
    (hnumbers : ∀ backlog ∈ backlogs, backlog.number = 0)
    (hids : (backlogs.map (·.id)).Nodup) :
    streams.flatten.IsChain FrameQueue.Linked := by
  induction hframed with
  | nil => exact .nil
  | @cons backlog stream backlogs streams hfirst hrest ih =>
    obtain ⟨hfresh, hids⟩ := nodup_cons.mp hids
    rw [flatten_cons, isChain_append]
    refine ⟨hfirst.linked, ih (fun other hother =>
      hnumbers other (mem_cons_of_mem _ hother)) hids, ?_⟩
    intro prevFrame hprev nextFrame hnext
    cases hrest with
    | nil => cases hnext
    | @cons second following backlogs streams hsecond _ =>
      obtain ⟨front, last, rfl, -, hlast⟩ := hfirst.flags
      obtain rfl : last = prevFrame := by simpa using hprev
      cases following with
      | nil => exact absurd rfl hsecond.ne_nil
      | cons frame following =>
        obtain rfl : frame = nextFrame := by simpa using hnext
        refine .inr ⟨?_, ?_, hlast⟩
        · rw [hfirst.ids last (by simp), hsecond.ids frame (by simp)]
          intro heq
          exact hfresh (by simp [heq])
        · have hnumber := hsecond.number_eq (show 0 < (frame :: following).length by simp)
          simpa [hnumbers second (by simp)] using hnumber

namespace FrameBudget

variable (budget : FrameBudget) {available : Nat}

theorem frameCounts_last (remaining : Nat) (lengths : List Nat)
    (hall : cutLength budget.maxData (budget.refill remaining) available = available) :
    budget.frameCounts remaining (available :: lengths) =
      1 :: budget.frameCounts (budget.refill remaining -
        (encodedOverhead + available)) lengths := by
  rw [frameCounts, frameCount]
  simp [hall]

theorem frameCounts_cons (remaining : Nat) {lengths : List Nat} {dataLen count : Nat}
    {counts : List Nat}
    (hlen : cutLength budget.maxData (budget.refill remaining) available =
      dataLen) (hpart : dataLen ≠ available)
    (htail : budget.frameCounts (budget.refill remaining - (encodedOverhead + dataLen))
      ((available - dataLen) :: lengths) = count :: counts) :
    budget.frameCounts remaining (available :: lengths) = (count + 1) :: counts := by
  obtain ⟨rfl, rfl⟩ := cons.inj htail
  rw [frameCounts, frameCount]
  simp [hlen, if_neg hpart]

/-- The frames of a queue are the frames of its streams one after the other,
as many of each as computed from the lengths. -/
theorem frameAll_eq (remaining : Nat) (backlogs : List Backlog) :
    ∃ streams, budget.frameAll remaining backlogs = streams.flatten ∧
      Forall₂ Framed backlogs streams ∧
      streams.map length = budget.frameCounts remaining (backlogs.map (·.data.length)) := by
  fun_induction frameAll budget remaining backlogs with
  | case1 => exact ⟨[], rfl, .nil, rfl⟩
  | case2 _ backlog _ room ih =>
    obtain ⟨streams, hframes, hframed, hcounts⟩ := ih
    rw [hframes]
    by_cases hall : cutLength budget.maxData room backlog.data.length = backlog.data.length
    · rw [Backlog.leave, if_pos hall] at hframed hcounts
      refine ⟨[backlog.frame budget.maxData room] :: streams, rfl, .cons (.last hall) hframed, ?_⟩
      rw [map_cons, map_cons, budget.frameCounts_last _ _ hall, hcounts, Backlog.room, hall]
      rfl
    · rw [Backlog.leave, if_neg hall] at hframed hcounts
      cases hframed with
      | cons hfirst hrest =>
        rename_i first streams
        refine ⟨(backlog.frame budget.maxData room :: first) :: streams, rfl,
          .cons (.cons hall hfirst) hrest, ?_⟩
        rw [map_cons, map_cons, length_drop] at hcounts
        exact (budget.frameCounts_cons _ rfl hall hcounts.symm).symm

/-- Cuts without renewal are the beginning of all frames. -/
theorem frameAll_of_cuts {first last : List Backlog} {remaining left : Nat}
    (hrefill : ∀ remaining, encodedOverhead < remaining → budget.refill remaining = remaining)
    (hcuts : Cuts budget.maxData first remaining frames last left) :
    budget.frameAll remaining first = frames ++ budget.frameAll left last := by
  induction hcuts with
  | done => rfl
  | cut hroom _ ih => rw [frameAll_cons, hrefill _ hroom, ih, cons_append]

theorem frameAll_data_length (remaining : Nat) (backlogs : List Backlog) :
    ∀ frame ∈ budget.frameAll remaining backlogs, frame.data.length ≤ budget.maxData := by
  fun_induction frameAll budget remaining backlogs with
  | case1 => simp
  | case2 _ _ _ _ ih =>
    intro frame hframe
    rcases mem_cons.mp hframe with rfl | hframe
    · simp only [Backlog.frame, length_take, cutLength]
      omega
    · exact ih frame hframe

end FrameBudget

end BaseChain
