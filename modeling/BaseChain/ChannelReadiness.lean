/-
A channel of derivation under frames that arrive in any order: what it buffers
and when it is ready.
-/
import BaseChain.ChannelAssembler
import Mathlib.Data.List.Perm.Subperm

namespace BaseChain

open List

namespace DerivationChannel

/-- A call of `add_frame`; a refused frame leaves the channel as it is. -/
def offer (channel : DerivationChannel) (call : Frame × BlockInfo) : DerivationChannel :=
  match channel.addFrame call.1 call.2 with
  | .ok after => after
  | .error _ => channel

/-- What `add_frame` asks of a frame. -/
structure Accepts (channel : DerivationChannel) (frame : Frame) : Prop where
  id : frame.id = channel.id
  fresh : ∀ other ∈ channel.inputs, other.number ≠ frame.number
  inside : channel.closed = true → frame.isLast = false ∧ frame.number < channel.lastFrameNumber

/-- What holds of a channel whatever was offered to it. -/
structure Sound (channel : DerivationChannel) : Prop where
  nodup : (channel.inputs.map (·.number)).Nodup
  size : channel.estimatedSize = (channel.inputs.map (·.size)).sum
  highest : ∀ frame ∈ channel.inputs, frame.number ≤ channel.highestFrameNumber
  ending : channel.closed = true → channel.highestFrameNumber = channel.lastFrameNumber ∧
    ∃ frame ∈ channel.inputs, frame.number = channel.lastFrameNumber ∧ frame.isLast = true

/-- The channel has exactly the frames up to the closing one. -/
def Complete (channel : DerivationChannel) : Prop :=
  ∀ number, (∃ frame ∈ channel.inputs, frame.number = number) ↔ number ≤ channel.lastFrameNumber

variable {channel : DerivationChannel} {frame : Frame} {number : UInt16}

theorem get_eq_none :
    channel.get number = none ↔ ∀ frame ∈ channel.inputs, frame.number ≠ number := by
  simp [get]

theorem offer_cases (channel : DerivationChannel) (frame : Frame) (origin : BlockInfo) :
    (channel.Accepts frame ∧ channel.offer (frame, origin) = channel.ingest frame origin) ∨
      (¬ channel.Accepts frame ∧ channel.offer (frame, origin) = channel) := by
  unfold offer addFrame
  split_ifs with hid hclosed hexists hbeyond
  · exact .inr ⟨fun haccepts => hid haccepts.id, rfl⟩
  · refine .inr ⟨fun haccepts => ?_, rfl⟩
    rw [Bool.and_eq_true] at hclosed
    simp [(haccepts.inside hclosed.2).1] at hclosed
  · refine .inr ⟨fun haccepts => ?_, rfl⟩
    simp [get_eq_none.mpr haccepts.fresh] at hexists
  · refine .inr ⟨fun haccepts => ?_, rfl⟩
    simp only [Bool.and_eq_true, decide_eq_true_eq] at hbeyond
    exact UInt16.not_lt.mpr hbeyond.2 (haccepts.inside hbeyond.1).2
  · refine .inl ⟨⟨not_not.mp hid, get_eq_none.mp (by simpa using hexists), fun hopen => ?_⟩, rfl⟩
    simp only [hopen, Bool.and_true, Bool.true_and, decide_eq_true_eq, Bool.not_eq_true,
      UInt16.not_le] at hclosed hbeyond
    exact ⟨hclosed, hbeyond⟩

theorem mem_frameNumbers : number ∈ channel.frameNumbers ↔ number ≤ channel.lastFrameNumber := by
  rw [frameNumbers, mem_map, UInt16.le_iff_toNat_le]
  constructor
  · rintro ⟨value, hvalue, rfl⟩
    have hlt := mem_range.mp hvalue
    have hbound := channel.lastFrameNumber.toNat_lt
    rw [UInt16.toNat_ofNat_of_lt' (show value < 65536 by omega)]
    omega
  · intro hle
    exact ⟨number.toNat, mem_range.mpr (by omega), UInt16.ofNat_toNat⟩

namespace Sound

theorem new (id : ChannelId) (openBlock : BlockInfo) : (new id openBlock).Sound :=
  ⟨nodup_nil, rfl, nofun, nofun⟩

variable (hsound : channel.Sound)
include hsound

/-- The closing frame leaves the frames before it. -/
theorem ingest_last (haccepts : channel.Accepts frame) (hlast : frame.isLast = true)
    (origin : BlockInfo) :
    let after := channel.ingest frame origin
    after.inputs = channel.inputs.filter (·.number < frame.number) ++ [frame] ∧
      after.estimatedSize = (after.inputs.map (·.size)).sum ∧ after.closed = true ∧
      after.lastFrameNumber = frame.number ∧ after.highestFrameNumber = frame.number := by
  intro after
  by_cases hbehind : frame.number < channel.highestFrameNumber
  · have hsplit := ((filter_append_perm (fun other : Frame => decide (other.number < frame.number))
      channel.inputs).map (·.size)).sum_nat
    rw [map_append, sum_append, ← hsound.size] at hsplit
    simp only [← decide_not, UInt16.not_lt] at hsplit
    simp [after, ingest, closeAt, hlast, hbehind]
    omega
  · have hkeep : channel.inputs.filter (·.number < frame.number) = channel.inputs := by
      apply filter_eq_self.mpr
      intro other hother
      have hle := UInt16.le_trans (hsound.highest other hother) (UInt16.not_lt.mp hbehind)
      exact decide_eq_true (UInt16.lt_of_le_of_ne hle (haccepts.fresh other hother))
    simpa [after, ingest, closeAt, hlast, hbehind, hkeep, hsound.size] using
      UInt16.le_antisymm (UInt16.not_lt.mp hbehind)

theorem nodup_concat (haccepts : channel.Accepts frame) {kept : List Frame}
    (hkept : kept <+ channel.inputs) : ((kept ++ [frame]).map (·.number)).Nodup := by
  rw [map_append, nodup_append]
  refine ⟨hsound.nodup.sublist (hkept.map _), nodup_singleton _, ?_⟩
  intro number hnumber _ hframe
  obtain ⟨other, hother, rfl⟩ := mem_map.mp hnumber
  rw [mem_singleton.mp hframe]
  exact haccepts.fresh other (hkept.subset hother)

theorem offer (call : Frame × BlockInfo) : (channel.offer call).Sound := by
  obtain ⟨frame, origin⟩ := call
  obtain ⟨haccepts, heq⟩ | ⟨-, heq⟩ := channel.offer_cases frame origin
  · rw [heq]
    cases hlast : frame.isLast with
    | true =>
      obtain ⟨hinputs, hsize, -, hend, hhighest⟩ := hsound.ingest_last haccepts hlast origin
      refine ⟨?_, hsize, ?_, fun _ => ⟨hhighest.trans hend.symm, frame, ?_, hend.symm, hlast⟩⟩
      · rw [hinputs]
        exact hsound.nodup_concat haccepts filter_sublist
      · rw [hinputs, hhighest, forall_mem_append]
        refine ⟨fun other hother => UInt16.le_of_lt ?_, by simp⟩
        exact of_decide_eq_true (mem_filter.mp hother).2
      · simp [hinputs]
    | false =>
      simp only [ingest, hlast, Bool.false_eq_true, if_false]
      refine ⟨hsound.nodup_concat haccepts (Sublist.refl _), by simp [hsound.size], ?_, ?_⟩
      · rw [forall_mem_append, forall_mem_singleton]
        split
        · rename_i hhigher
          refine ⟨fun other hother => ?_, UInt16.le_refl _⟩
          exact UInt16.le_trans (hsound.highest other hother) (UInt16.le_of_lt hhigher)
        · rename_i hhigher
          exact ⟨hsound.highest, UInt16.not_lt.mp hhigher⟩
      · intro hclosed
        obtain ⟨hhighest, closing, hclosing, hend⟩ := hsound.ending hclosed
        have hinside := UInt16.lt_asymm (haccepts.inside hclosed).2
        refine ⟨?_, closing, mem_append_left _ hclosing, hend⟩
        rw [hhighest]
        exact if_neg hinside
  · rwa [heq]

theorem run (calls : List (Frame × BlockInfo)) :
    (calls.foldl DerivationChannel.offer channel).Sound := by
  induction calls generalizing channel with
  | nil => exact hsound
  | cons call calls ih => exact ih (hsound.offer call)

theorem get_eq_some :
    channel.get number = some frame ↔ frame ∈ channel.inputs ∧ frame.number = number := by
  constructor
  · intro hget
    exact ⟨mem_of_find?_eq_some hget, by simpa using find?_some hget⟩
  · rintro ⟨hframe, rfl⟩
    exact Numbered.find_number hsound.nodup hframe

section

variable (hall : channel.Complete)
include hall

theorem numbers_perm : channel.inputs.map (·.number) ~ channel.frameNumbers := by
  have hnodup := nodup_numbers channel.lastFrameNumber.toNat_lt
  refine (perm_ext_iff_of_nodup hsound.nodup hnodup).mpr fun number => ?_
  exact mem_map.trans ((hall number).trans mem_frameNumbers.symm)

theorem exists_frames : ∃ frames, frames ~ channel.inputs ∧
    frames.map (·.number) = channel.frameNumbers ∧
    channel.frameData = some (frames.flatMap (·.data)) := by
  have hsome : ∀ numbers ⊆ channel.frameNumbers, ∃ frames ⊆ channel.inputs,
      frames.map (·.number) = numbers := by
    intro numbers hnumbers
    induction numbers with
    | nil => exact ⟨[], nil_subset _, rfl⟩
    | cons number numbers ih =>
      obtain ⟨hnumber, hrest⟩ := cons_subset.mp hnumbers
      obtain ⟨frames, hframes, rfl⟩ := ih hrest
      obtain ⟨frame, hframe, rfl⟩ := (hall number).mpr (mem_frameNumbers.mp hnumber)
      exact ⟨frame :: frames, cons_subset.mpr ⟨hframe, hframes⟩, rfl⟩
  obtain ⟨frames, hframes, hnumbers⟩ := hsome _ (Subset.refl _)
  have hperm := hsound.numbers_perm hall
  have hnodup : frames.Nodup := Nodup.of_map (·.number) (hnumbers ▸ hperm.nodup hsound.nodup)
  have hlength := hperm.length_eq
  rw [← hnumbers, length_map, length_map] at hlength
  refine ⟨frames, (hnodup.subperm hframes).perm_of_length_le (by omega), hnumbers, ?_⟩
  refine frameData_eq (fun frame hframe => ?_) hnumbers.symm ?_
  · exact hsound.get_eq_some.mpr ⟨hframes hframe, rfl⟩
  · rintro hempty
    rw [hempty] at hperm
    simp [frameNumbers] at hperm

end

/-- A closed channel is ready when it is complete; the check counts in sixteen
bits, which has no room for the highest number. -/
theorem isReady_iff (hroom : channel.lastFrameNumber ≠ 65535) :
    channel.isReady = true ↔ channel.closed = true ∧ channel.Complete := by
  simp only [isReady, Bool.and_eq_true, decide_eq_true_eq, all_eq_true]
  constructor
  · rintro ⟨⟨hclosed, -⟩, hall⟩
    refine ⟨hclosed, fun number => ⟨?_, fun hle => ?_⟩⟩
    · rintro ⟨frame, hframe, rfl⟩
      rw [← (hsound.ending hclosed).1]
      exact hsound.highest frame hframe
    · obtain ⟨frame, hget⟩ := Option.isSome_iff_exists.mp (hall number (mem_frameNumbers.mpr hle))
      exact ⟨frame, hsound.get_eq_some.mp hget⟩
  · rintro ⟨hclosed, hall⟩
    have hlength := (hsound.numbers_perm hall).length_eq
    have hbound := channel.lastFrameNumber.toNat_lt
    have hne : channel.lastFrameNumber.toNat ≠ 65535 := fun heq => hroom (UInt16.toNat_inj.mp heq)
    rw [length_map, frameNumbers, length_map, length_range] at hlength
    refine ⟨⟨hclosed, ?_⟩, fun number hnumber => ?_⟩
    · rw [len, hlength, UInt16.toNat_add, UInt16.toNat_one, Nat.mod_eq_of_lt (by omega)]
    · obtain ⟨frame, hframe⟩ := (hall number).mpr (mem_frameNumbers.mp hnumber)
      rw [hsound.get_eq_some.mpr hframe]
      rfl

end Sound

def sampleId : ChannelId := ⟨replicate 16 0, rfl⟩

def sampleFrame (number : Nat) (isLast : Bool) : Frame :=
  ⟨sampleId, UInt16.ofNat number, [], isLast⟩

theorem ofNat_lt {first second : Nat} (hfirst : first < second) (hsecond : second ≤ 65535) :
    UInt16.ofNat first < UInt16.ofNat second := by
  rw [UInt16.lt_iff_toNat_lt, UInt16.toNat_ofNat_of_lt' (show first < 65536 by omega),
    UInt16.toNat_ofNat_of_lt' (show second < 65536 by omega)]
  exact hfirst

/-- With all the frames that it can have, a channel is not ready. -/
theorem not_ready_of_full (hend : channel.lastFrameNumber = 65535)
    (hall : ∀ number, ∃ frame ∈ channel.inputs, frame.number = number) :
    channel.Complete ∧ channel.isReady = false := by
  refine ⟨fun number => ⟨fun _ => ?_, fun _ => hall number⟩, Bool.eq_false_iff.mpr fun hready => ?_⟩
  · have hlt := number.toNat_lt
    rw [hend]
    exact Nat.le_of_lt_succ hlt
  simp only [isReady, Bool.and_eq_true, decide_eq_true_eq] at hready
  have hlen : channel.inputs.length = _ := hready.1.2
  rw [hend, show ((65535 : UInt16) + 1).toNat = 0 by decide, length_eq_zero_iff] at hlen
  obtain ⟨frame, hframe, -⟩ := hall 0
  rw [hlen] at hframe
  cases hframe

/-- The closing frame and then these numbers. -/
def fullCalls (count : Nat) : List (Frame × BlockInfo) := (sampleFrame 65535 true, default) ::
    (range count).map fun number => (sampleFrame number false, default)

theorem fullCalls_offers {count : Nat} (hcount : count ≤ 65535) :
    ∃ channel, (fullCalls count).foldl offer (new sampleId default) = channel ∧
      channel.id = sampleId ∧ channel.closed = true ∧ channel.lastFrameNumber = 65535 ∧
      channel.inputs = sampleFrame 65535 true :: (range count).map (sampleFrame · false) := by
  induction count with
  | zero => exact ⟨_, rfl, rfl, rfl, rfl, rfl⟩
  | succ count ih =>
    obtain ⟨channel, hrun, hid, hclosed, hend, hinputs⟩ := ih (by omega)
    have hcalls : fullCalls (count + 1) =
        fullCalls count ++ [(sampleFrame count false, default)] := by
      simp [fullCalls, range_succ]
    rw [hcalls, foldl_append, hrun]
    obtain ⟨-, heq⟩ | ⟨hrefused, -⟩ := channel.offer_cases (sampleFrame count false) default
    · refine ⟨_, heq, hid, hclosed, hend, ?_⟩
      rw [range_succ, map_append, ← cons_append, ← hinputs]
      rfl
    · refine absurd ⟨hid.symm, ?_, fun _ => ⟨rfl, ?_⟩⟩ hrefused
      · rw [hinputs, forall_mem_cons, forall_mem_map]
        refine ⟨(UInt16.ne_of_lt (ofNat_lt hcount (le_refl _))).symm, fun value hvalue => ?_⟩
        exact UInt16.ne_of_lt (ofNat_lt (mem_range.mp hvalue) (by omega))
      · rw [hend]
        exact ofNat_lt hcount (le_refl _)

end DerivationChannel

end BaseChain
