/-
The rollup configuration: upgrade activations, protocol limits that depend on
them, and the L2 block timestamp schedule.  Unsigned 64-bit quantities are
natural numbers; where the source saturates, so does the model.
-/
import BaseChain.ByteString

namespace BaseChain

def u64Max : Nat := 2 ^ 64 - 1

def saturatingAdd (left right : Nat) : Nat := min (left + right) u64Max

def saturatingMul (left right : Nat) : Nat := min (left * right) u64Max

def divCeil (value divisor : Nat) : Nat := (value + divisor - 1) / divisor

abbrev B256 := FixedBytes 32

abbrev Address := FixedBytes 20

structure BlockNumHash where
  number : Nat
  hash : B256
deriving DecidableEq

/-- The header fields of a block that derivation looks at. -/
structure BlockInfo where
  hash : B256
  number : Nat
  parentHash : B256
  timestamp : Nat
deriving DecidableEq, Inhabited

def BlockInfo.id (block : BlockInfo) : BlockNumHash :=
  { number := block.number, hash := block.hash }

/-- An L2 block together with the L1 block its epoch starts at. -/
structure L2BlockInfo where
  blockInfo : BlockInfo
  l1Origin : BlockNumHash
  seqNum : Nat
deriving DecidableEq

inductive BaseUpgrade where
  | regolith | canyon | delta | ecotone | fjord | granite | holocene
  | pectraBlobSchedule | isthmus | jovian | azul | beryl | cobalt | denim
  | everest | zenith
deriving Repr, DecidableEq

structure ChainGenesis where
  l1 : BlockNumHash
  l2 : BlockNumHash
  l2Time : Nat

/-- The configuration fields the modelled components read.  `activation` is
the activation timestamp of an upgrade after runtime overrides. -/
structure RollupConfig where
  genesis : ChainGenesis
  blockTime : Nat
  maxSequencerDriftSeconds : Nat
  seqWindowSize : Nat
  channelTimeoutBlocks : Nat
  graniteChannelTimeout : Nat
  l2ChainId : Nat
  activation : BaseUpgrade → Option Nat

namespace RollupConfig

variable (cfg : RollupConfig)

def maxRlpBytesPerChannelBedrock : Nat := 10000000

def maxRlpBytesPerChannelFjord : Nat := 100000000

def fjordMaxSequencerDrift : Nat := 1800

def denimMaxSequencerDrift : Nat := 6 * 60 * 60

/-- The upgrade's own activation time has been reached. -/
def activated (upgrade : BaseUpgrade) (timestamp : Nat) : Bool :=
  (cfg.activation upgrade).any (· ≤ timestamp)

variable (timestamp : Nat)

def isJovianActive : Bool := cfg.activated .jovian timestamp

def isIsthmusActive : Bool := cfg.activated .isthmus timestamp || cfg.isJovianActive timestamp

def isHoloceneActive : Bool := cfg.activated .holocene timestamp || cfg.isIsthmusActive timestamp

def isGraniteActive : Bool := cfg.activated .granite timestamp || cfg.isHoloceneActive timestamp

def isFjordActive : Bool := cfg.activated .fjord timestamp || cfg.isGraniteActive timestamp

def isEcotoneActive : Bool := cfg.activated .ecotone timestamp || cfg.isFjordActive timestamp

def isDeltaActive : Bool := cfg.activated .delta timestamp || cfg.isEcotoneActive timestamp

def isDenimActive : Bool := cfg.activated .denim timestamp

def maxSequencerDrift : Nat := if cfg.isDenimActive timestamp then denimMaxSequencerDrift
  else if cfg.isFjordActive timestamp then fjordMaxSequencerDrift
  else cfg.maxSequencerDriftSeconds

def maxRlpBytesPerChannel : Nat := if cfg.isFjordActive timestamp then maxRlpBytesPerChannelFjord
  else maxRlpBytesPerChannelBedrock

def channelTimeout : Nat := if cfg.isGraniteActive timestamp then cfg.graniteChannelTimeout
  else cfg.channelTimeoutBlocks

end RollupConfig

/-- The Denim schedule: whole-second legacy blocks up to the activation block,
then five blocks a second. -/
structure DenimTimestampSchedule where
  genesisBlockNumber : Nat
  genesisTimestamp : Nat
  legacyBlockInterval : Nat
  denimActivationTimestamp : Nat

namespace DenimTimestampSchedule

def denimBlockIntervalMillis : Nat := 200

variable (schedule : DenimTimestampSchedule)

def denimActivationBlockNumber : Nat :=
  divCeil (schedule.denimActivationTimestamp - schedule.genesisTimestamp)
    schedule.legacyBlockInterval

def blockTimestampMillis (blockNumber : Nat) : Nat :=
  let blocksSinceGenesis := blockNumber - schedule.genesisBlockNumber
  let legacySeconds := saturatingAdd schedule.genesisTimestamp
    (saturatingMul blocksSinceGenesis schedule.legacyBlockInterval)
  let legacyMillis := saturatingMul legacySeconds 1000
  let activationBlock := schedule.denimActivationBlockNumber
  if blocksSinceGenesis < activationBlock then
    legacyMillis
  else
    let activationMillis := saturatingMul
      (saturatingAdd schedule.genesisTimestamp
        (saturatingMul activationBlock schedule.legacyBlockInterval)) 1000
    saturatingAdd activationMillis (saturatingMul (blocksSinceGenesis - activationBlock)
        denimBlockIntervalMillis)

end DenimTimestampSchedule

namespace RollupConfig

variable (cfg : RollupConfig)

def denimTimestampSchedule : Option DenimTimestampSchedule := if cfg.blockTime = 0 then
    none
  else
    (cfg.activation .denim).map fun timestamp =>
      { genesisBlockNumber := cfg.genesis.l2.number
        genesisTimestamp := cfg.genesis.l2Time
        legacyBlockInterval := cfg.blockTime
        denimActivationTimestamp := timestamp }

def l2BlockTimestampMillis (blockNumber : Nat) : Nat := match cfg.denimTimestampSchedule with
  | some schedule => schedule.blockTimestampMillis blockNumber
  | none =>
    saturatingMul (saturatingAdd cfg.genesis.l2Time
        (saturatingMul (blockNumber - cfg.genesis.l2.number) cfg.blockTime))
      1000

def l2BlockTimestamp (blockNumber : Nat) : Nat := cfg.l2BlockTimestampMillis blockNumber / 1000

end RollupConfig

variable {a b : Nat}

theorem saturatingAdd_mono {c d : Nat} (hleft : a ≤ b) (hright : c ≤ d) :
    saturatingAdd a c ≤ saturatingAdd b d := by
  unfold saturatingAdd
  omega

theorem saturatingMul_mono (hleft : a ≤ b) (c : Nat) : saturatingMul a c ≤ saturatingMul b c := by
  have hmul := Nat.mul_le_mul_right c hleft
  unfold saturatingMul
  omega

variable {high low : Nat}

theorem DenimTimestampSchedule.blockTimestampMillis_mono
    (schedule : DenimTimestampSchedule) (hle : low ≤ high) :
    schedule.blockTimestampMillis low ≤ schedule.blockTimestampMillis high := by
  have hlegacy : ∀ {few many : Nat}, few ≤ many →
      saturatingMul (saturatingAdd schedule.genesisTimestamp
        (saturatingMul few schedule.legacyBlockInterval)) 1000 ≤
      saturatingMul (saturatingAdd schedule.genesisTimestamp
        (saturatingMul many schedule.legacyBlockInterval)) 1000 := by
    intro few many hcount
    apply saturatingMul_mono
    apply saturatingAdd_mono (le_refl _)
    exact saturatingMul_mono hcount _
  have hblocks : low - schedule.genesisBlockNumber ≤ high - schedule.genesisBlockNumber := by omega
  unfold blockTimestampMillis
  dsimp only
  by_cases hhigh : high - schedule.genesisBlockNumber < schedule.denimActivationBlockNumber
  · rw [if_pos hhigh, if_pos (lt_of_le_of_lt hblocks hhigh)]
    exact hlegacy hblocks
  · rw [if_neg hhigh]
    by_cases hlow : low - schedule.genesisBlockNumber < schedule.denimActivationBlockNumber
    · rw [if_pos hlow]
      refine (hlegacy (le_of_lt hlow)).trans ?_
      unfold saturatingAdd saturatingMul
      omega
    · rw [if_neg hlow]
      apply saturatingAdd_mono (le_refl _)
      apply saturatingMul_mono
      omega

/-- Later blocks have no earlier timestamps. -/
theorem RollupConfig.l2BlockTimestamp_mono (cfg : RollupConfig) (hle : low ≤ high) :
    cfg.l2BlockTimestamp low ≤ cfg.l2BlockTimestamp high := by
  unfold l2BlockTimestamp l2BlockTimestampMillis
  apply Nat.div_le_div_right
  cases cfg.denimTimestampSchedule with
  | some schedule => exact schedule.blockTimestampMillis_mono hle
  | none =>
    apply saturatingMul_mono
    apply saturatingAdd_mono (le_refl _)
    apply saturatingMul_mono
    omega

end BaseChain
