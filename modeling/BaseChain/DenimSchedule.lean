/-
The Denim schedule against exact time, that is the schedule without saturation.
While the exact time of a block fits into 64 bits its timestamp is exact, and
the fork checks by timestamp and by block number agree.
-/
import BaseChain.RollupConfig

namespace BaseChain

open RollupConfig

namespace DenimTimestampSchedule

variable (schedule : DenimTimestampSchedule) (blockNumber : Nat)

def isDenimActiveAtBlock : Bool :=
  schedule.denimActivationBlockNumber ≤ blockNumber - schedule.genesisBlockNumber

/-- The absolute number of the activation block. -/
def activationBlock : Nat := schedule.genesisBlockNumber + schedule.denimActivationBlockNumber

/-- The legacy time in seconds of a number of blocks after genesis. -/
def legacySeconds (blocks : Nat) : Nat :=
  schedule.genesisTimestamp + blocks * schedule.legacyBlockInterval

/-- The time of a block without saturation. -/
def exactMillis : Nat :=
  let blocks := blockNumber - schedule.genesisBlockNumber
  let activation := schedule.denimActivationBlockNumber
  if blocks < activation then schedule.legacySeconds blocks * 1000
  else schedule.legacySeconds activation * 1000 + (blocks - activation) * denimBlockIntervalMillis

/-- Nothing saturates on the way to the time of a block. -/
def Fits : Prop := schedule.exactMillis blockNumber ≤ u64Max

variable {schedule blockNumber}

theorem blockTimestampMillis_eq (hfits : schedule.Fits blockNumber) :
    schedule.blockTimestampMillis blockNumber = schedule.exactMillis blockNumber := by
  unfold Fits exactMillis legacySeconds at hfits
  unfold exactMillis legacySeconds blockTimestampMillis saturatingMul saturatingAdd
  dsimp only at hfits ⊢
  split
  · rename_i hlegacy
    rw [if_pos hlegacy] at hfits
    omega
  · rename_i hactive
    rw [if_neg hactive] at hfits
    omega

theorem exactMillis_of_active (hactive : schedule.activationBlock ≤ blockNumber) :
    schedule.exactMillis blockNumber =
      schedule.legacySeconds schedule.denimActivationBlockNumber * 1000 +
        (blockNumber - schedule.activationBlock) * 200 := by
  unfold activationBlock at hactive ⊢
  rw [exactMillis, if_neg (by omega), denimBlockIntervalMillis, Nat.sub_sub]

section Interval

variable (hinterval : 0 < schedule.legacyBlockInterval)
include hinterval

theorem legacySeconds_lt {few many : Nat} (hlt : few < many) :
    schedule.legacySeconds few < schedule.legacySeconds many :=
  Nat.add_lt_add_left (Nat.mul_lt_mul_of_pos_right hlt hinterval) _

/-- The activation block is the first legacy slot at or after the activation
time. -/
theorem lt_denimActivationBlockNumber {blocks : Nat} :
    blocks < schedule.denimActivationBlockNumber ↔
      schedule.legacySeconds blocks < schedule.denimActivationTimestamp := by
  rw [denimActivationBlockNumber, divCeil, legacySeconds, Nat.lt_iff_add_one_le,
    Nat.le_div_iff_mul_le hinterval, Nat.add_mul]
  omega

theorem exactMillis_lt {low high : Nat} (hgenesis : schedule.genesisBlockNumber ≤ low)
    (hlt : low < high) : schedule.exactMillis low < schedule.exactMillis high := by
  unfold exactMillis denimBlockIntervalMillis
  dsimp only
  split
  · rename_i hlow
    split
    · have hseconds := legacySeconds_lt hinterval (Nat.sub_lt_sub_right hgenesis hlt)
      omega
    · have hseconds := legacySeconds_lt hinterval hlow
      omega
  · rw [if_neg (by omega)]
    omega

theorem isDenimActiveAtBlock_iff : schedule.isDenimActiveAtBlock blockNumber = true ↔
      schedule.denimActivationTimestamp ≤ schedule.exactMillis blockNumber / 1000 := by
  have hfirst := (lt_denimActivationBlockNumber hinterval).not.mp (lt_irrefl _)
  rw [isDenimActiveAtBlock, decide_eq_true_iff, exactMillis]
  split
  · rename_i hlegacy
    have hbefore := (lt_denimActivationBlockNumber hinterval).mp hlegacy
    omega
  · omega

/-- From its activation on, Denim has five blocks in every second. -/
theorem exactMillis_second {second : Nat}
    (hsecond : schedule.legacySeconds schedule.denimActivationBlockNumber ≤ second) :
    ∃ first, schedule.activationBlock ≤ first ∧
      schedule.exactMillis (first + 4) = second * 1000 + 800 ∧
      ∀ number, schedule.genesisBlockNumber ≤ number →
        (schedule.exactMillis number / 1000 = second ↔ first ≤ number ∧ number < first + 5) := by
  refine ⟨schedule.activationBlock +
    5 * (second - schedule.legacySeconds schedule.denimActivationBlockNumber),
    Nat.le_add_right _ _, ?_, ?_⟩
  · rw [exactMillis_of_active (by omega)]
    omega
  · intro number hgenesis
    unfold activationBlock
    rw [exactMillis, denimBlockIntervalMillis]
    split
    · rename_i hlegacy
      have hbefore := legacySeconds_lt hinterval hlegacy
      omega
    · omega

end Interval

/-- The schedule of a chain, for blocks whose time fits into 64 bits: legacy
slots up to the activation block, five blocks a second from it on, and one
answer to the question if Denim is active. -/
theorem denim_schedule (schedule : DenimTimestampSchedule)
    (hinterval : 0 < schedule.legacyBlockInterval) :
    (∀ low high, schedule.genesisBlockNumber ≤ low → low < high → schedule.Fits high →
      schedule.blockTimestampMillis low < schedule.blockTimestampMillis high) ∧
    (∀ number, schedule.genesisBlockNumber ≤ number → number < schedule.activationBlock →
      schedule.Fits number → schedule.blockTimestampMillis number = (schedule.genesisTimestamp +
        (number - schedule.genesisBlockNumber) * schedule.legacyBlockInterval) * 1000) ∧
    (schedule.Fits schedule.activationBlock →
      schedule.blockTimestampMillis schedule.activationBlock % 1000 = 0) ∧
    (∀ number, schedule.activationBlock ≤ number → schedule.Fits (number + 1) →
      schedule.blockTimestampMillis (number + 1) = schedule.blockTimestampMillis number + 200) ∧
    (∀ number, schedule.Fits number →
      (schedule.isDenimActiveAtBlock number = true ↔
        schedule.denimActivationTimestamp ≤ schedule.blockTimestampMillis number / 1000) ∧
      ∀ cfg : RollupConfig, cfg.denimTimestampSchedule = some schedule →
        cfg.isDenimActive (cfg.l2BlockTimestamp number) = schedule.isDenimActiveAtBlock number) ∧
    ∀ second, schedule.exactMillis schedule.activationBlock / 1000 ≤ second →
      second * 1000 + 800 ≤ u64Max →
      ∃ first, schedule.activationBlock ≤ first ∧ schedule.Fits (first + 4) ∧
        ∀ number, schedule.genesisBlockNumber ≤ number → schedule.Fits number →
          (schedule.blockTimestampMillis number / 1000 = second ↔
            first ≤ number ∧ number < first + 5) := by
  refine ⟨?_, ?_, ?_, ?_, ?_, ?_⟩
  · intro low high hgenesis hlt hfits
    have hexact := exactMillis_lt hinterval hgenesis hlt
    rw [blockTimestampMillis_eq (hexact.le.trans hfits), blockTimestampMillis_eq hfits]
    exact hexact
  · intro number hgenesis hlegacy hfits
    unfold activationBlock at hlegacy
    rw [blockTimestampMillis_eq hfits, exactMillis, if_pos (by omega)]
    rfl
  · intro hfits
    rw [blockTimestampMillis_eq hfits, exactMillis_of_active (le_refl _)]
    omega
  · intro number hactive hfits
    have hnext := exactMillis_of_active (Nat.le_add_right_of_le hactive : _ ≤ number + 1)
    have hexact := exactMillis_of_active hactive
    have hbefore : schedule.Fits number := by
      unfold Fits at hfits ⊢
      omega
    rw [blockTimestampMillis_eq hfits, blockTimestampMillis_eq hbefore]
    omega
  · intro number hfits
    have hiff := @isDenimActiveAtBlock_iff schedule number hinterval
    rw [← blockTimestampMillis_eq hfits] at hiff
    refine ⟨hiff, ?_⟩
    intro cfg hcfg
    have hactivation : cfg.activation .denim = some schedule.denimActivationTimestamp := by
      unfold denimTimestampSchedule at hcfg
      split at hcfg
      · cases hcfg
      · obtain ⟨timestamp, htimestamp, rfl⟩ := Option.map_eq_some_iff.mp hcfg
        exact htimestamp
    rw [Bool.eq_iff_iff, hiff, l2BlockTimestamp, l2BlockTimestampMillis, hcfg, isDenimActive,
      activated, hactivation]
    simp
  · intro second hsecond hroom
    rw [exactMillis_of_active (le_refl _)] at hsecond
    obtain ⟨first, hfirst, hlast, hblocks⟩ := @exactMillis_second schedule hinterval second
      (by omega)
    refine ⟨first, hfirst, hlast.le.trans hroom, ?_⟩
    intro number hgenesis hfits
    rw [blockTimestampMillis_eq hfits]
    exact hblocks number hgenesis

theorem denim_schedule_odd_activation :
    let schedule : DenimTimestampSchedule := ⟨10, 1000, 2, 1003⟩
    schedule.blockTimestampMillis 11 < schedule.blockTimestampMillis 13 ∧
      schedule.blockTimestampMillis 13 = schedule.blockTimestampMillis 12 + 200 :=
  have hschedule := denim_schedule ⟨10, 1000, 2, 1003⟩ (by decide)
  ⟨hschedule.1 11 13 (by decide) (by decide) (by decide : _ ≤ _),
    hschedule.2.2.2.1 12 (by decide) (by decide : _ ≤ _)⟩

end DenimTimestampSchedule

end BaseChain
