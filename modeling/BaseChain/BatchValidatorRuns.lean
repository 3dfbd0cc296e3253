/-
Runs of the batch stage over consecutive L1 origins.  The window always holds
the blocks from the parent's origin, or from the block after it, to the
pipeline's origin; the second happens only after an epoch was closed early.
-/
import BaseChain.L1Window

namespace BaseChain

open Checked List Check PipelineError RollupConfig

variable {cfg : RollupConfig} {batch : SingleBatch}

namespace SingleBatch

section Check

variable {epoch : BlockInfo} {rest : List BlockInfo} {safeHead : L2BlockInfo}
  {inclusionBlock : BlockInfo}

/-- The timestamp of the block after the safe head. -/
def nextTimestamp (cfg : RollupConfig) (safeHead : L2BlockInfo) : Nat :=
  cfg.l2BlockTimestamp (saturatingAdd safeHead.blockInfo.number 1)

theorem nextTimestamp_eq (hnumber : safeHead.blockInfo.number + 1 ≤ u64Max) :
    nextTimestamp cfg safeHead = cfg.l2BlockTimestamp (safeHead.blockInfo.number + 1) := by
  rw [nextTimestamp, saturatingAdd, min_eq_left hnumber]

variable {value : Unit}

theorem checkBatchTimestamp_eq_ok
    (hcheck : batch.checkBatchTimestamp cfg safeHead inclusionBlock = .ok value) :
    batch.timestamp = nextTimestamp cfg safeHead := by
  unfold checkBatchTimestamp at hcheck
  dsimp only at hcheck
  split at hcheck
  · cases hcheck
  split at hcheck
  · cases hcheck
  · unfold nextTimestamp
    omega

/-- The batch names a block of the window. -/
def Names (batch : SingleBatch) (epoch : BlockInfo) (rest : List BlockInfo)
    (origin : BlockInfo) : Prop :=
  batch.epochNum = epoch.number ∧ origin = epoch ∨
    batch.epochNum = epoch.number + 1 ∧ rest.head? = some origin

theorem batchOrigin_eq_ok {origin : BlockInfo}
    (horigin : batch.batchOrigin epoch rest = .ok origin) :
    batch.Names epoch rest origin := by
  unfold batchOrigin at horigin
  split at horigin
  · cases horigin
  split at horigin
  · rename_i hsame
    cases horigin
    exact .inl ⟨hsame, rfl⟩
  · obtain ⟨-, horigin⟩ := add_bind_eq_ok.mp horigin
    split at horigin
    · rename_i hnext
      cases rest with
      | nil => cases horigin
      | cons =>
        cases horigin
        exact .inr ⟨hnext, rfl⟩
    · cases horigin

/-- What an accepted batch satisfies. -/
structure Accepted (cfg : RollupConfig) (batch : SingleBatch)
    (epoch : BlockInfo) (rest : List BlockInfo) (safeHead : L2BlockInfo) :
    Prop where
  timestamp : batch.timestamp = nextTimestamp cfg safeHead
  parentHash : batch.parentHash = safeHead.blockInfo.hash
  sameSecond : batch.sameSecond cfg safeHead = true → batch.epoch = safeHead.l1Origin
  origin : ∃ origin, batch.Names epoch rest origin ∧
    batch.epochHash = origin.hash ∧ origin.timestamp ≤ batch.timestamp

theorem check_accepted (hcheck : batch.check cfg (epoch :: rest) safeHead inclusionBlock =
      .ok value) : Accepted cfg batch epoch rest safeHead := by
  obtain ⟨_, htimestamp, hcheck⟩ := bind_eq_ok.mp hcheck
  obtain ⟨hparent, hcheck⟩ := require_bind_eq_ok.mp hcheck
  obtain ⟨hsecond, hcheck⟩ := require_bind_eq_ok.mp hcheck
  obtain ⟨-, hcheck⟩ := add_bind_eq_ok.mp hcheck
  obtain ⟨-, hcheck⟩ := require_bind_eq_ok.mp hcheck
  obtain ⟨origin, horigin, hcheck⟩ := bind_eq_ok.mp hcheck
  obtain ⟨hhash, hcheck⟩ := require_bind_eq_ok.mp hcheck
  obtain ⟨htime, -⟩ := require_bind_eq_ok.mp hcheck
  exact
    { timestamp := checkBatchTimestamp_eq_ok htimestamp
      parentHash := hparent
      sameSecond := fun hsame => not_not.mp fun hother => hsecond ⟨hsame, hother⟩
      origin := ⟨origin, batchOrigin_eq_ok horigin, hhash, htime⟩ }

variable {validity : BatchValidity}

section

variable (hdrop : ∀ reason, validity ≠ .drop reason)
include hdrop

theorem batchOrigin_avoids (hrest : rest ≠ []) :
    Avoids validity (batch.batchOrigin epoch rest) := by
  unfold batchOrigin
  split
  · exact .stop (hdrop _).symm
  · split
    · exact .ok _
    · apply Avoids.bind (.add _ _)
      intro nextEpoch
      split
      · cases rest with
        | nil => exact absurd rfl hrest
        | cons => exact .ok _
      · exact .stop (hdrop _).symm

theorem checkDrift_avoids {origin : BlockInfo} (hrest : rest ≠ []) :
    Avoids validity (batch.checkDrift cfg safeHead epoch origin rest) := by
  unfold checkDrift
  dsimp only
  split
  · exact .stop (hdrop _).symm
  · split
    · exact .ok _
    · split
      · exact .stop (hdrop _).symm
      · split
        · cases rest with
          | nil => exact absurd rfl hrest
          | cons => exact .require (hdrop _).symm
        · exact .ok _

/-- With two blocks in the window and Holocene active, a batch is accepted,
dropped or old. -/
theorem check_avoids (hpast : validity ≠ .past) (hrest : rest ≠ [])
    (hholocene : cfg.isHoloceneActive inclusionBlock.timestamp = true) :
    Avoids validity (batch.check cfg (epoch :: rest) safeHead inclusionBlock) := by
  apply Avoids.bind
  · unfold checkBatchTimestamp
    dsimp only
    split
    · exact .stop (hdrop _).symm
    · split
      · exact .stop hpast.symm
      · exact .ok _
  intro _
  apply Avoids.bind (.require (hdrop _).symm)
  intro _
  apply Avoids.bind (.require (hdrop _).symm)
  intro _
  apply Avoids.bind (.add _ _)
  intro windowEnd
  apply Avoids.bind (.require (hdrop _).symm)
  intro _
  apply Avoids.bind (batchOrigin_avoids hdrop hrest)
  intro origin
  apply Avoids.bind (.require (hdrop _).symm)
  intro _
  apply Avoids.bind (.require (hdrop _).symm)
  intro _
  apply Avoids.bind (checkDrift_avoids hdrop hrest)
  intro _
  apply Avoids.bind (.require (hdrop _).symm)
  intro _
  split
  · exact .stop (hdrop _).symm
  · exact .ok _

end

end Check

end SingleBatch

namespace BatchValidator

section Definitions

variable (cfg : RollupConfig) (chain : Nat → BlockInfo)

/-- The block after the parent shares its whole second. -/
def sameSecond (parent : L2BlockInfo) : Bool :=
  cfg.isDenimActive (SingleBatch.nextTimestamp cfg parent) &&
    SingleBatch.nextTimestamp cfg parent == parent.blockInfo.timestamp

/-- The epoch of the parent was closed although no block of the next epoch is
there yet. -/
structure Ahead (parent : L2BlockInfo) : Prop where
  time : (chain (parent.l1Origin.number + 1)).timestamp ≤ SingleBatch.nextTimestamp cfg parent
  second : sameSecond cfg parent = false
  origin : parent.l1Origin = (chain parent.l1Origin.number).id

/-- The window from a number on, when the pipeline is at another. -/
structure WindowFrom (parent : L2BlockInfo) (low high : Nat) : Prop where
  low_le : low ≤ high + 1
  reached : parent.l1Origin.number ≤ high → low ≤ high ∧ low ≤ parent.l1Origin.number + 1
  ahead : parent.l1Origin.number ≤ high → low = parent.l1Origin.number + 1 → Ahead cfg chain parent

structure Invariant (stage : BatchValidator) (parent : L2BlockInfo) : Prop where
  parentTime : parent.blockInfo.timestamp = cfg.l2BlockTimestamp parent.blockInfo.number
  originTime : (chain parent.l1Origin.number).timestamp ≤ parent.blockInfo.timestamp
  pending : ∀ batch block, stage.pendingBatch = some (batch, block) →
    cfg.isHoloceneActive block.timestamp = true
  fresh : stage.origin = none → stage.l1Blocks = []
  window : ∀ origin, stage.origin = some origin → origin = chain origin.number ∧
      ∃ low, stage.l1Blocks = l1Window chain low origin.number ∧
        WindowFrom cfg chain parent low origin.number

/-- A call of the stage after Holocene; the pipeline's origin is the one of the
last call or the block after it, and the first call is made no later than at the
parent's origin. -/
structure Call (stage : BatchValidator) (parent : L2BlockInfo)
    (around : Surroundings) (number : Nat) : Prop where
  origin : around.origin = some (chain number)
  holocene : cfg.isHoloceneActive (chain number).timestamp = true
  first : stage.origin = none → number ≤ parent.l1Origin.number
  consecutive : ∀ origin, stage.origin = some origin →
    number = origin.number ∨ number = origin.number + 1

variable (stage : BatchValidator)

/-- The batch that is looked at: the one that waits, or the one supplied. -/
def candidate (around : Surroundings) : Option SingleBatch :=
  match stage.pendingBatch, around.supplied with
  | some (batch, _), _ => some batch
  | none, .ok (.single batch) => some batch
  | none, _ => none

/-- The window starts one block after the parent's origin, and the batch names
the block after that. -/
def Skips (parent : L2BlockInfo) (around : Surroundings) : Prop :=
  (stage.l1Blocks.head?.map (·.number)) = some (parent.l1Origin.number + 1) ∧
    ((candidate stage around).map (·.epochNum)) = some (parent.l1Origin.number + 2)

/-- The L2 block built from a batch. -/
structure Built (batch : SingleBatch) (parent next : L2BlockInfo) : Prop where
  number : next.blockInfo.number = parent.blockInfo.number + 1
  number_le : next.blockInfo.number ≤ u64Max
  timestamp : next.blockInfo.timestamp = batch.timestamp
  parentHash : next.blockInfo.parentHash = batch.parentHash
  l1Origin : next.l1Origin = batch.epoch

/-- What derivation promises of a returned batch. -/
structure Sound (parent : L2BlockInfo) (batch : SingleBatch) : Prop where
  timestamp : batch.timestamp = SingleBatch.nextTimestamp cfg parent
  parentHash : batch.parentHash = parent.blockInfo.hash
  epoch : batch.epoch = parent.l1Origin ∨ batch.epoch = (chain (parent.l1Origin.number + 1)).id
  time : (chain batch.epochNum).timestamp ≤ batch.timestamp
  second : sameSecond cfg parent = true → batch.epoch = parent.l1Origin

/-- The parent a run starts with is a block of its chain. -/
structure Start (parent : L2BlockInfo) : Prop where
  parentTime : parent.blockInfo.timestamp = cfg.l2BlockTimestamp parent.blockInfo.number
  originTime : (chain parent.l1Origin.number).timestamp ≤ parent.blockInfo.timestamp

/-- Runs in which no batch skips an epoch that was closed early.  After a batch
was returned, the parent is the block built from it. -/
inductive Run : BatchValidator → L2BlockInfo → Prop where
  | new {parent : L2BlockInfo} (hstart : Start cfg chain parent) :
      Run BatchValidator.new parent
  | reset {parent : L2BlockInfo} {number : Nat}
      (hstart : Start cfg chain parent)
      (hnumber : number ≤ parent.l1Origin.number) :
      Run (BatchValidator.reset (some (chain number))) parent
  | refused {stage : BatchValidator} {parent : L2BlockInfo}
      {around : Surroundings} {number : Nat} {outcome : Outcome}
      {kind : PipelineErrorKind} (hrun : Run stage parent)
      (hcall : Call cfg chain stage parent around number)
      (hskip : ¬ Skips stage parent around)
      (houtcome : nextBatch cfg around parent stage = some outcome)
      (hresult : outcome.result = .error kind) : Run outcome.stage parent
  | returned {stage : BatchValidator} {parent next : L2BlockInfo}
      {around : Surroundings} {number : Nat} {outcome : Outcome}
      {batch : SingleBatch} (hrun : Run stage parent)
      (hcall : Call cfg chain stage parent around number)
      (hskip : ¬ Skips stage parent around)
      (houtcome : nextBatch cfg around parent stage = some outcome)
      (hresult : outcome.result = .ok batch)
      (hbuilt : Built batch parent next) : Run outcome.stage next

end Definitions

section Steps

variable {chain : Nat → BlockInfo} {stage updated : BatchValidator} {parent : L2BlockInfo}
  {around : Surroundings} {number : Nat}

/-- The window after the origins were updated. -/
structure Updated (cfg : RollupConfig) (chain : Nat → BlockInfo)
    (stage updated : BatchValidator) (parent : L2BlockInfo) (number : Nat) :
    Prop where
  origin : updated.origin = some (chain number)
  pending : updated.pendingBatch = stage.pendingBatch
  behind : number < parent.l1Origin.number →
    ∃ low, updated.l1Blocks = l1Window chain low number ∧ low ≤ number + 1
  reached : parent.l1Origin.number ≤ number →
    updated.l1Blocks = l1Window chain parent.l1Origin.number number ∨
      updated.l1Blocks = l1Window chain (parent.l1Origin.number + 1) number ∧
        parent.l1Origin.number + 1 ≤ number ∧ Ahead cfg chain parent ∧
        (stage.l1Blocks.head?.map (·.number)) = some (parent.l1Origin.number + 1)

variable {low : Nat}

theorem updateOrigins_of_same (hsame : stage.origin = around.origin) :
    stage.updateOrigins around parent =
      .ok { stage with l1Blocks := advanceEpoch parent stage.l1Blocks } := by
  unfold updateOrigins takeOrigin
  rw [if_pos hsame]
  rfl

/-- What a call leaves: a returned batch is sound and the stage fits the block
built from it, and otherwise the stage fits the parent as before. -/
structure Kept (cfg : RollupConfig) (chain : Nat → BlockInfo)
    (parent : L2BlockInfo) (outcome : Outcome) : Prop where
  sound : ∀ batch, outcome.result = .ok batch → Sound cfg chain parent batch
  keeps : ∀ kind, outcome.result = .error kind → Invariant cfg chain outcome.stage parent
  advances : ∀ batch next, outcome.result = .ok batch →
    Built batch parent next → Invariant cfg chain outcome.stage next
  verdict : outcome.verdict ≠ some .undecided ∧ outcome.verdict ≠ some .future

theorem Kept.of_error {kind : PipelineErrorKind}
    {verdict : Option BatchValidity} (hinv : Invariant cfg chain stage parent)
    (hundecided : verdict ≠ some .undecided := by simp)
    (hfuture : verdict ≠ some .future := by simp) :
    Kept cfg chain parent ⟨.error kind, stage, verdict⟩ := by
  refine ⟨?_, ?_, ?_, hundecided, hfuture⟩
  · intro batch habsurd
    cases habsurd
  · intro other _
    exact hinv
  · intro batch next habsurd
    cases habsurd

/-- The window when the stage looks at a batch. -/
structure Ready (cfg : RollupConfig) (chain : Nat → BlockInfo)
    (stage : BatchValidator) (parent : L2BlockInfo) (low number : Nat) :
    Prop where
  invariant : Invariant cfg chain stage parent
  origin : stage.origin = some (chain number)
  blocks : stage.l1Blocks = l1Window chain low number
  two : low + 1 ≤ number
  epoch : low = parent.l1Origin.number ∧ parent.l1Origin = (chain parent.l1Origin.number).id ∨
    low = parent.l1Origin.number + 1 ∧ Ahead cfg chain parent

theorem Ready.blocks_eq (hready : Ready cfg chain stage parent low number) : stage.l1Blocks =
      chain low :: chain (low + 1) :: l1Window chain (low + 2) number := by
  have htwo := hready.two
  rw [hready.blocks, l1Window_cons (by omega), l1Window_cons htwo]

/-- An epoch of the window that is not skipped to is the parent's or the next. -/
theorem Ready.epoch_cases {epochNum : Nat} (hready : Ready cfg chain stage parent low number)
    (hepoch : epochNum = low ∨ epochNum = low + 1)
    (hskip : ¬ (low = parent.l1Origin.number + 1 ∧ epochNum = parent.l1Origin.number + 2)) :
    (chain epochNum).id = parent.l1Origin ∨ epochNum = parent.l1Origin.number + 1 := by
  rcases hready.epoch with ⟨hlow, horigin⟩ | ⟨hlow, -⟩
  · rcases hepoch with hsame | hnext
    · refine .inl ?_
      rw [hsame, hlow, ← horigin]
    · exact .inr (by omega)
  · rcases hepoch with hsame | hnext
    · exact .inr (by omega)
    · exact absurd ⟨hlow, by omega⟩ hskip

/-- The next block is no earlier than its parent. -/
theorem Invariant.parent_le (hinv : Invariant cfg chain stage parent)
    (hnumber : parent.blockInfo.number + 1 ≤ u64Max) :
    parent.blockInfo.timestamp ≤ SingleBatch.nextTimestamp cfg parent := by
  rw [hinv.parentTime, SingleBatch.nextTimestamp_eq hnumber]
  exact cfg.l2BlockTimestamp_mono (Nat.le_add_right _ _)

theorem Invariant.start (hstart : Start cfg chain parent) : Invariant cfg chain new parent := by
  refine ⟨hstart.parentTime, hstart.originTime, ?_, fun _ => rfl, ?_⟩
  · intro batch block habsurd
    cases habsurd
  · intro origin habsurd
    cases habsurd

section

variable (hchain : ∀ number, (chain number).number = number)
include hchain

section

variable (horigin : around.origin = some (chain number))
include horigin

theorem originBehind_iff :
    around.originBehind parent = true ↔ number < parent.l1Origin.number := by
  rw [Surroundings.originBehind, horigin]
  simp [hchain]

theorem updateOrigins_of_reached (hnew : stage.origin ≠ around.origin)
    (hreached : parent.l1Origin.number ≤ number) :
    stage.updateOrigins around parent = .ok
      { stage with
        origin := some (chain number)
        l1Blocks := advanceEpoch parent (stage.l1Blocks ++ [chain number]) } := by
  have hbehind : ¬ around.originBehind parent = true := by
    rw [originBehind_iff hchain horigin]
    omega
  unfold updateOrigins takeOrigin
  rw [if_neg hnew, if_pos hbehind]
  simp only [horigin]
  rfl

theorem updateOrigins_of_behind (hnew : stage.origin ≠ around.origin)
    (hbehind : number < parent.l1Origin.number) :
    stage.updateOrigins around parent = .ok
      { stage with origin := some (chain number), l1Blocks := [] } := by
  have hbehind := (originBehind_iff hchain horigin).mpr hbehind
  unfold updateOrigins takeOrigin
  rw [if_neg hnew, if_neg (not_not.mpr hbehind), horigin]
  rfl

end

theorem updateOrigins_updated (hinv : Invariant cfg chain stage parent)
    (hcall : Call cfg chain stage parent around number) :
    ∃ updated, stage.updateOrigins around parent = .ok updated ∧
      Updated cfg chain stage updated parent number := by
  have hcleared : stage.origin ≠ around.origin → number < parent.l1Origin.number →
      ∃ updated, stage.updateOrigins around parent = .ok updated ∧
        Updated cfg chain stage updated parent number := by
    intro hnew hbehind
    refine ⟨_, updateOrigins_of_behind hchain hcall.origin hnew hbehind, rfl, rfl, ?_, ?_⟩
    · intro _
      exact ⟨number + 1, (l1Window_empty (Nat.lt_succ_self _)).symm, le_refl _⟩
    · intro hreached
      omega
  cases hstage : stage.origin with
  | none =>
    have hnew : stage.origin ≠ around.origin := by
      rw [hstage, hcall.origin]
      simp
    by_cases hbehind : number < parent.l1Origin.number
    · exact hcleared hnew hbehind
    · have hsame : number = parent.l1Origin.number :=
        le_antisymm (hcall.first hstage) (le_of_not_gt hbehind)
      refine ⟨_, updateOrigins_of_reached hchain hcall.origin hnew
        (le_of_eq hsame.symm), rfl, rfl, fun habsurd => by omega, ?_⟩
      intro _
      refine .inl ?_
      rw [hinv.fresh hstage, ← l1Window_self, hsame]
      exact advanceEpoch_of_le hchain (le_refl _)
  | some origin =>
    obtain ⟨hchainOrigin, low, hblocks, hwindow⟩ := hinv.window origin hstage
    have hlowest := hwindow.low_le
    have hnumber := hcall.consecutive origin hstage
    have hreaches : parent.l1Origin.number ≤ number →
        advanceEpoch parent (l1Window chain low number) =
            l1Window chain parent.l1Origin.number number ∨
          advanceEpoch parent (l1Window chain low number) =
              l1Window chain (parent.l1Origin.number + 1) number ∧
            parent.l1Origin.number + 1 ≤ number ∧ Ahead cfg chain parent ∧
            (stage.l1Blocks.head?.map (·.number)) = some (parent.l1Origin.number + 1) := by
      intro hreached
      have hlow : low ≤ parent.l1Origin.number + 1 := by
        by_cases hold : parent.l1Origin.number ≤ origin.number
        · exact (hwindow.reached hold).2
        · omega
      -- the window starts at the epoch or one block after it
      rcases Nat.le_succ_iff.mp hlow with hlow | hlow
      · exact .inl (advanceEpoch_l1Window hchain hlow hreached)
      have hold : parent.l1Origin.number ≤ origin.number := by omega
      have hhigh := (hwindow.reached hold).1
      refine .inr ⟨?_, by omega, hwindow.ahead hold hlow, ?_⟩
      · rw [hlow]
        exact advanceEpoch_of_le hchain (Nat.le_succ _)
      · rw [hblocks, l1Window_cons hhigh]
        simp [hchain, hlow]
    rcases hnumber with hsame | hnext
    · have horigin : stage.origin = around.origin := by
        rw [hstage, hcall.origin, hsame, ← hchainOrigin]
      rw [← hsame] at hblocks hlowest
      refine ⟨_, updateOrigins_of_same horigin, horigin.trans hcall.origin, rfl, ?_, ?_⟩
      · intro hbehind
        refine ⟨low, ?_, hlowest⟩
        rw [hblocks]
        exact advanceEpoch_behind hchain hbehind
      · rw [hblocks] at hreaches ⊢
        exact hreaches
    · have hnew : stage.origin ≠ around.origin := by
        rw [hstage, hcall.origin]
        intro hequal
        have hnumber := congrArg BlockInfo.number (Option.some.inj hequal)
        rw [hchain] at hnumber
        omega
      by_cases hbehind : number < parent.l1Origin.number
      · exact hcleared hnew hbehind
      · have hreached := le_of_not_gt hbehind
        refine ⟨_, updateOrigins_of_reached hchain hcall.origin hnew hreached,
          rfl, rfl, fun habsurd => absurd habsurd hbehind, ?_⟩
        have hpushed : stage.l1Blocks ++ [chain number] = l1Window chain low number := by
          rw [hblocks, hnext, l1Window_push hlowest]
        rw [hpushed]
        exact hreaches

/-- The stage fits the parent when the pipeline is at a block and the window reaches it. -/
theorem Invariant.of_start (hstart : Start cfg chain parent)
    (hpending : ∀ batch block, stage.pendingBatch = some (batch, block) →
      cfg.isHoloceneActive block.timestamp = true) (horigin : stage.origin = some (chain number))
    (hblocks : stage.l1Blocks = l1Window chain low number)
    (hwindow : WindowFrom cfg chain parent low number) : Invariant cfg chain stage parent := by
  refine ⟨hstart.parentTime, hstart.originTime, hpending, ?_, ?_⟩
  · intro hnone
    rw [horigin] at hnone
    cases hnone
  · intro origin hsome
    obtain rfl : chain number = origin := Option.some.inj (horigin.symm.trans hsome)
    rw [hchain]
    exact ⟨rfl, low, hblocks, hwindow⟩

theorem Updated.invariant (hinv : Invariant cfg chain stage parent)
    (hupdated : Updated cfg chain stage updated parent number) :
    Invariant cfg chain updated parent := by
  have hfits := fun {low} (hblocks : updated.l1Blocks = l1Window chain low number) =>
    Invariant.of_start hchain ⟨hinv.parentTime, hinv.originTime⟩
      (hupdated.pending ▸ hinv.pending) hupdated.origin hblocks
  by_cases hbehind : number < parent.l1Origin.number
  · obtain ⟨low, hblocks, hlow⟩ := hupdated.behind hbehind
    exact hfits hblocks ⟨hlow, fun habsurd => by omega, fun habsurd => by omega⟩
  · have hreached := le_of_not_gt hbehind
    rcases hupdated.reached hreached with hblocks | ⟨hblocks, hhigh, hahead, -⟩
    · exact hfits hblocks ⟨by omega, fun _ => ⟨hreached, by omega⟩, fun _ habsurd => by omega⟩
    · exact hfits hblocks ⟨by omega, fun _ => ⟨hhigh, le_refl _⟩, fun _ _ => hahead⟩

section

variable (hready : Ready cfg chain stage parent low number)
include hready

/-- The stage fits the block built from a sound batch. -/
theorem Ready.advance {next : L2BlockInfo} (hlow : low ≤ batch.epochNum)
    (hsound : Sound cfg chain parent batch) (hbuilt : Built batch parent next) :
    Invariant cfg chain stage next := by
  have hnumber := hbuilt.number_le
  rw [hbuilt.number] at hnumber
  have hepoch : next.l1Origin.number = batch.epochNum := by
    rw [hbuilt.l1Origin]
    rfl
  have htwo := hready.two
  refine .of_start hchain ⟨?_, ?_⟩ hready.invariant.pending hready.origin hready.blocks
    ⟨by omega, fun _ => ⟨by omega, by omega⟩, fun _ habsurd => by omega⟩
  · rw [hbuilt.timestamp, hsound.timestamp, SingleBatch.nextTimestamp_eq hnumber, hbuilt.number]
  · rw [hepoch, hbuilt.timestamp]
    exact hsound.time

theorem Ready.returned {verdict : Option BatchValidity}
    (hverdict : verdict ≠ some .undecided ∧ verdict ≠ some .future) (hlow : low ≤ batch.epochNum)
    (hsound : Sound cfg chain parent batch) :
    Kept cfg chain parent ⟨.ok batch, stage, verdict⟩ := by
  refine ⟨?_, nofun, ?_, hverdict⟩
  · intro other hother
    cases hother
    exact hsound
  · intro other next hother hbuilt
    cases hother
    exact hready.advance hchain hlow hsound hbuilt

theorem Ready.accepted_sound
    (hskip : ¬ (low = parent.l1Origin.number + 1 ∧ batch.epochNum = parent.l1Origin.number + 2))
    (hacc : SingleBatch.Accepted cfg batch (chain low)
      (chain (low + 1) :: l1Window chain (low + 2) number) parent) :
    Sound cfg chain parent batch ∧ low ≤ batch.epochNum := by
  obtain ⟨origin, hnames, hhash, htime⟩ := hacc.origin
  obtain ⟨hepoch, rfl⟩ : (batch.epochNum = low ∨ batch.epochNum = low + 1) ∧
      origin = chain batch.epochNum := by
    rcases hnames with ⟨hnumber, rfl⟩ | ⟨hnumber, hhead⟩
    · rw [hchain] at hnumber
      exact ⟨.inl hnumber, by rw [hnumber]⟩
    · rw [hchain] at hnumber
      cases hhead
      exact ⟨.inr hnumber, by rw [hnumber]⟩
  have hid : batch.epoch = (chain batch.epochNum).id := by
    rw [SingleBatch.epoch, BlockInfo.id, hchain, hhash]
  refine ⟨⟨hacc.timestamp, hacc.parentHash, ?_, htime, ?_⟩, by omega⟩
  · rcases hready.epoch_cases hepoch hskip with hsame | hnext
    · exact .inl (hid.trans hsame)
    · exact .inr (by rw [hid, hnext])
  · intro hsecond
    apply hacc.sameSecond
    rw [SingleBatch.sameSecond, hacc.timestamp]
    exact hsecond

end

section

variable (hready : Ready cfg chain stage parent low number)
include hready

/-- The empty batch for the window's first epoch is sound. -/
theorem Ready.empty_sound (hnumber : parent.blockInfo.number + 1 ≤ u64Max) :
    Sound cfg chain parent (emptyBatch parent (chain low)
      (SingleBatch.nextTimestamp cfg parent)) := by
  have hlow : (emptyBatch parent (chain low)
      (SingleBatch.nextTimestamp cfg parent)).epochNum = low := hchain low
  refine ⟨rfl, rfl, ?_, ?_, ?_⟩
  · rcases hready.epoch with ⟨rfl, horigin⟩ | ⟨rfl, -⟩
    · exact .inl horigin.symm
    · exact .inr rfl
  · rw [hlow]
    rcases hready.epoch with ⟨rfl, -⟩ | ⟨rfl, hahead⟩
    · exact hready.invariant.originTime.trans (hready.invariant.parent_le hnumber)
    · exact hahead.time
  · intro hsecond
    rcases hready.epoch with ⟨rfl, horigin⟩ | ⟨-, hahead⟩
    · exact horigin.symm
    · rw [hahead.second] at hsecond
      cases hsecond

/-- Closing the epoch leaves the window one block ahead. -/
theorem Ready.close (htime : (chain (low + 1)).timestamp ≤ SingleBatch.nextTimestamp cfg parent)
    (hfirst : low ≠ parent.l1Origin.number + 1)
    (hsecond : sameSecond cfg parent = false) :
    Invariant cfg chain
      { stage with
        l1Blocks := chain (low + 1) :: l1Window chain (low + 2) number }
      parent := by
  obtain ⟨rfl, horigin⟩ : low = parent.l1Origin.number ∧
      parent.l1Origin = (chain parent.l1Origin.number).id :=
    hready.epoch.resolve_right fun habsurd => hfirst habsurd.1
  have htwo := hready.two
  exact .of_start hchain ⟨hready.invariant.parentTime, hready.invariant.originTime⟩
    hready.invariant.pending hready.origin (l1Window_cons htwo).symm
    ⟨by omega, fun _ => ⟨htwo, le_refl _⟩, fun _ _ => ⟨htime, hsecond, horigin⟩⟩

theorem tryDeriveEmptyBatch_kept {result : PipelineResult SingleBatch} {after : BatchValidator}
    (hderive : tryDeriveEmptyBatch cfg parent stage = some (result, after)) :
    Kept cfg chain parent ⟨result, after, none⟩ := by
  have hblocks := hready.blocks_eq
  unfold tryDeriveEmptyBatch at hderive
  simp only [hblocks, hready.origin] at hderive
  split at hderive
  · cases hderive
  have hnumber : parent.blockInfo.number + 1 ≤ u64Max := by omega
  rw [← SingleBatch.nextTimestamp_eq hnumber] at hderive
  split at hderive
  · cases hderive
    exact .of_error hready.invariant
  · split at hderive
    · cases hderive
      exact hready.returned hchain (by simp) (hchain low).ge (hready.empty_sound hchain hnumber)
    · rename_i hclose
      cases hderive
      rw [hchain, not_or, not_or, not_lt, Bool.not_eq_true] at hclose
      have hclosed := hready.close hchain hclose.1 hclose.2.1 hclose.2.2
      rw [hready.origin] at hclosed
      exact .of_error hclosed

end

variable {outcome : Outcome}

theorem judge_kept (hready : Ready cfg chain stage parent low number) {inclusionBlock : BlockInfo}
    (hholocene : cfg.isHoloceneActive inclusionBlock.timestamp = true)
    (hskip : ¬ (low = parent.l1Origin.number + 1 ∧ batch.epochNum = parent.l1Origin.number + 2))
    (hjudge : judge cfg around parent stage batch inclusionBlock =
      some outcome) : Kept cfg chain parent outcome := by
  have havoids : ∀ validity, (∀ reason, validity ≠ .drop reason) →
      validity ≠ .past → Avoids validity
        (batch.check cfg stage.l1Blocks parent inclusionBlock) := by
    intro validity hdrop hpast
    rw [hready.blocks_eq]
    exact SingleBatch.check_avoids hdrop hpast (by simp) hholocene
  unfold judge at hjudge
  split at hjudge
  · cases hjudge
    exact .of_error hready.invariant
  · cases hjudge
    refine .of_error ?_
    refine ⟨hready.invariant.parentTime, hready.invariant.originTime, ?_,
      hready.invariant.fresh, hready.invariant.window⟩
    intro other block hpend
    cases hpend
    exact hholocene
  · cases hjudge
    exact .of_error hready.invariant
  · split at hjudge
    · cases hjudge
    · rename_i hverdict
      cases hjudge
      have hcheck := verdict_eq_accept (havoids .accept (by simp) (by simp)) hverdict
      rw [hready.blocks_eq] at hcheck
      obtain ⟨hsound, hlow⟩ := hready.accepted_sound hchain hskip
        (SingleBatch.check_accepted hcheck)
      exact hready.returned hchain (by simp) hlow hsound
    · rename_i hverdict
      exact absurd hverdict (verdict_ne (havoids .future (by simp) (by simp)) (by simp))
    · rename_i validity haccept hfuture hverdict
      cases hjudge
      refine .of_error hready.invariant ?_ ?_
      · intro habsurd
        rw [Option.some.inj habsurd] at hverdict
        exact absurd hverdict (verdict_ne (havoids .undecided (by simp) (by simp)) (by simp))
      · intro habsurd
        exact hfuture (Option.some.inj habsurd)

theorem takeBatch_kept (hready : Ready cfg chain stage parent low number)
    (hholocene : cfg.isHoloceneActive (chain number).timestamp = true)
    (hskip : ¬ (low = parent.l1Origin.number + 1 ∧ ((candidate stage around).map (·.epochNum)) =
        some (parent.l1Origin.number + 2)))
    (htake : takeBatch cfg around parent stage (chain number) = some outcome) :
    Kept cfg chain parent outcome := by
  unfold takeBatch at htake
  unfold candidate at hskip
  cases hpend : stage.pendingBatch with
  | some pair =>
    simp only [hpend] at htake hskip
    have hcleared : Ready cfg chain { stage with pendingBatch := none } parent low number :=
      { invariant := ⟨hready.invariant.parentTime,
          hready.invariant.originTime, (fun _ _ habsurd => nomatch habsurd),
          hready.invariant.fresh, hready.invariant.window⟩
        origin := hready.origin, blocks := hready.blocks, two := hready.two
        epoch := hready.epoch }
    refine judge_kept hchain hcleared (hready.invariant.pending pair.1 pair.2 hpend) ?_ htake
    rintro ⟨hlow, hepoch⟩
    exact hskip ⟨hlow, by simp [hepoch]⟩
  | none =>
    simp only [hpend] at htake hskip
    split at htake
    · split at htake
      · cases htake
      rename_i hderive
      cases htake
      exact tryDeriveEmptyBatch_kept hchain hready hderive
    · cases htake
      exact .of_error hready.invariant
    · cases htake
      exact .of_error hready.invariant
    · rename_i batch hsupplied
      refine judge_kept hchain hready hholocene ?_ htake
      rintro ⟨hlow, hepoch⟩
      exact hskip ⟨hlow, by simp [hsupplied, hepoch]⟩

section

variable (hinv : Invariant cfg chain stage parent)
include hinv

/-- With the parent's origin behind it and the epoch in order, the stage is
ready to look at a batch. -/
theorem Updated.ready (hupdated : Updated cfg chain stage updated parent number)
    (hreached : parent.l1Origin.number < number)
    {epoch second : BlockInfo} {rest : List BlockInfo}
    (hblocks : updated.l1Blocks = epoch :: second :: rest)
    (hmatches : epochMatches parent epoch = true) :
    ∃ low, Ready cfg chain updated parent low number ∧ (low = parent.l1Origin.number + 1 →
        (stage.l1Blocks.head?.map (·.number)) = some (parent.l1Origin.number + 1)) := by
  have hkept := hupdated.invariant hchain hinv
  rcases hupdated.reached (le_of_lt hreached) with hwindow | ⟨hwindow, hhigh, hahead, hhead⟩
  · refine ⟨parent.l1Origin.number, ⟨hkept, hupdated.origin, hwindow, hreached,
      .inl ⟨rfl, ?_⟩⟩, fun habsurd => absurd habsurd (by omega)⟩
    rw [hwindow, l1Window_cons (le_of_lt hreached)] at hblocks
    obtain ⟨rfl, -⟩ := cons.inj hblocks
    simp only [epochMatches, Bool.or_eq_true, beq_iff_eq, hchain] at hmatches
    exact hmatches.resolve_right (by omega)
  · have htwo : parent.l1Origin.number + 1 ≠ number := by
      intro hsame
      rw [hwindow, hsame, l1Window_self] at hblocks
      cases hblocks
    exact ⟨parent.l1Origin.number + 1, ⟨hkept, hupdated.origin, hwindow,
      by omega, .inr ⟨rfl, hahead⟩⟩, fun _ => hhead⟩

theorem afterUpdate_kept (hcall : Call cfg chain stage parent around number)
    (hskip : ¬ Skips stage parent around)
    (hupdated : Updated cfg chain stage updated parent number)
    (hafter : afterUpdate cfg around parent updated (chain number) =
      some outcome) : Kept cfg chain parent outcome := by
  have hkept := hupdated.invariant hchain hinv
  have hcandidate : candidate updated around = candidate stage around := by
    rw [candidate, candidate, hupdated.pending]
  unfold afterUpdate at hafter
  split at hafter
  · split at hafter
    · cases hafter
      exact .of_error hkept
    · cases hafter
      exact .of_error hkept
  · rename_i hreached
    rw [originBehind_iff hchain hcall.origin, hchain] at hreached
    split at hafter
    · cases hafter
      exact .of_error hkept
    · cases hafter
      exact .of_error hkept
    · rename_i epoch second rest hblocks
      split at hafter
      · cases hafter
      split at hafter
      · rename_i hmatches
        obtain ⟨low, hready, hhead⟩ := hupdated.ready hchain hinv (by omega) hblocks hmatches
        refine takeBatch_kept hchain hready hcall.holocene ?_ hafter
        rintro ⟨hlow, hepoch⟩
        exact hskip ⟨hhead hlow, hcandidate ▸ hepoch⟩
      · cases hafter
        exact .of_error hkept

theorem nextBatch_kept (hcall : Call cfg chain stage parent around number)
    (hskip : ¬ Skips stage parent around)
    (hnext : nextBatch cfg around parent stage = some outcome) :
    Kept cfg chain parent outcome := by
  obtain ⟨updated, hupdate, hupdated⟩ := updateOrigins_updated hchain hinv hcall
  unfold nextBatch at hnext
  simp only [hupdate, hupdated.origin] at hnext
  exact afterUpdate_kept hchain hinv hcall hskip hupdated hnext

end

theorem Invariant.reset (hstart : Start cfg chain parent)
    (hnumber : number ≤ parent.l1Origin.number) :
    Invariant cfg chain (reset (some (chain number))) parent :=
  .of_start hchain hstart nofun rfl (l1Window_self _).symm
    ⟨by omega, fun _ => ⟨le_refl _, by omega⟩, fun _ habsurd => by omega⟩

/-- The window fits the parent in every state of a run. -/
theorem Run.invariant (hrun : Run cfg chain stage parent) : Invariant cfg chain stage parent := by
  induction hrun with
  | new hstart => exact .start hstart
  | reset hstart hnumber => exact .reset hchain hstart hnumber
  | refused hrun hcall hskip houtcome hresult ih =>
    exact (nextBatch_kept hchain ih hcall hskip houtcome).keeps _ hresult
  | returned hrun hcall hskip houtcome hresult hbuilt ih =>
    exact (nextBatch_kept hchain ih hcall hskip houtcome).advances _ _ hresult hbuilt

end

/-- A batch that the stage returns in a run is sound, and the check of a batch
never ends without a decision. -/
theorem Run.nextBatch_sound (hchain : ∀ number, (chain number).number = number)
    (hrun : Run cfg chain stage parent)
    (hcall : Call cfg chain stage parent around number)
    (hskip : ¬ Skips stage parent around) {outcome : Outcome}
    (hnext : nextBatch cfg around parent stage = some outcome) :
    (∀ batch, outcome.result = .ok batch → Sound cfg chain parent batch) ∧
      outcome.verdict ≠ some .undecided ∧ outcome.verdict ≠ some .future := by
  have hkept := nextBatch_kept hchain (hrun.invariant hchain) hcall hskip hnext
  exact ⟨hkept.sound, hkept.verdict⟩

end Steps

section Sample

def sampleHash (byte : Nat) : B256 := ⟨List.replicate 32 (UInt8.ofNat byte), rfl⟩

/-- L1 blocks twelve seconds apart. -/
def sampleChain (number : Nat) : BlockInfo :=
  { hash := sampleHash number, number, parentHash := sampleHash (number - 1)
    timestamp := 880 + 12 * number }

/-- Two-second blocks after Holocene, and a sequence window of two blocks. -/
def sampleConfig : RollupConfig where
  genesis := { l1 := ⟨0, sampleHash 0⟩, l2 := ⟨0, sampleHash 0⟩, l2Time := 1000 }
  blockTime := 2
  maxSequencerDriftSeconds := 600
  seqWindowSize := 2
  channelTimeoutBlocks := 300
  graniteChannelTimeout := 50
  l2ChainId := 1
  activation upgrade := if upgrade = .holocene then some 0 else none

def sampleParent : L2BlockInfo where
  blockInfo :=
    { hash := sampleHash 50, number := 50, parentHash := sampleHash 49
      timestamp := 1100 }
  l1Origin := (sampleChain 10).id
  seqNum := 50

def sampleBatch (epochNum : Nat) : SingleBatch :=
  emptyBatch sampleParent (sampleChain epochNum) 1102

/-- A call at an L1 block. -/
def sampleCall (number : Nat) (supplied : PipelineResult (Batch SpanBatch)) : Surroundings where
  origin := some (sampleChain number)
  supplied
  blockByHash _ := eof.temp
  fetcher := { l2BlockInfoByNumber := fun _ => none, blockByNumber := fun _ => none }

theorem sample_reset : Run sampleConfig sampleChain (reset (some (sampleChain 10)))
      sampleParent :=
  .reset ⟨by decide, by decide⟩ (by decide)

variable {number origin : Nat}

theorem sample_call {stage : BatchValidator} {supplied : PipelineResult (Batch SpanBatch)}
    (hstage : stage.origin = some (sampleChain origin))
    (hnumber : number = origin ∨ number = origin + 1) :
    Call sampleConfig sampleChain stage sampleParent (sampleCall number supplied)
      number := by
  refine ⟨rfl, by simp [isHoloceneActive, activated, sampleConfig], ?_, ?_⟩
  · intro habsurd
    rw [hstage] at habsurd
    cases habsurd
  · intro other hother
    obtain rfl := Option.some.inj (hstage.symm.trans hother)
    exact hnumber

theorem nextBatch_sound_sample :
    nextBatch sampleConfig (sampleCall 11 (.ok (.single (sampleBatch 10))))
        sampleParent (BatchValidator.reset (some (sampleChain 10))) =
      some ⟨.ok (sampleBatch 10),
        ⟨none, some (sampleChain 11), [sampleChain 10, sampleChain 11]⟩,
        some .accept⟩ ∧
      Sound sampleConfig sampleChain sampleParent (sampleBatch 10) := by
  have hnext : nextBatch sampleConfig (sampleCall 11 (.ok (.single (sampleBatch 10)))) sampleParent
        (BatchValidator.reset (some (sampleChain 10))) = some ⟨.ok (sampleBatch 10),
        ⟨none, some (sampleChain 11), [sampleChain 10, sampleChain 11]⟩, some .accept⟩ := by
    decide +kernel
  refine ⟨hnext, (Run.nextBatch_sound (fun _ => rfl) sample_reset
    (sample_call rfl (Or.inr rfl)) ?_ hnext).1 _ rfl⟩
  rintro ⟨hhead, -⟩
  revert hhead
  decide +kernel

/-- A call without a batch. -/
theorem sample_waits {blocks : List BlockInfo} {after : BatchValidator}
    (hrun : Run sampleConfig sampleChain ⟨none, some (sampleChain origin), blocks⟩ sampleParent)
    (hnumber : number = origin ∨ number = origin + 1)
    (hnext : nextBatch sampleConfig (sampleCall number eof.temp)
      sampleParent ⟨none, some (sampleChain origin), blocks⟩ = some ⟨eof.temp, after, none⟩) :
    Run sampleConfig sampleChain after sampleParent := by
  refine .refused hrun (sample_call rfl hnumber) ?_ hnext rfl
  rintro ⟨-, habsurd⟩
  cases habsurd

/-- The stage after the epoch of the parent was closed early. -/
def closedEarly : BatchValidator := ⟨none, some (sampleChain 12), [sampleChain 11, sampleChain 12]⟩

theorem closedEarly_run : Run sampleConfig sampleChain closedEarly sampleParent := by
  have hopen : Run sampleConfig sampleChain
      ⟨none, some (sampleChain 11), [sampleChain 10, sampleChain 11]⟩
      sampleParent :=
    sample_waits sample_reset (.inr rfl) (by decide +kernel)
  exact sample_waits hopen (.inr rfl) (by decide +kernel)

/-- After the epoch was closed early a batch may skip the next one. -/
theorem closedEarly_skips :
    Run sampleConfig sampleChain closedEarly sampleParent ∧
      Call sampleConfig sampleChain closedEarly sampleParent
        (sampleCall 13 (.ok (.single (sampleBatch 12)))) 13 ∧
      nextBatch sampleConfig (sampleCall 13 (.ok (.single (sampleBatch 12))))
        sampleParent closedEarly =
          some ⟨.ok (sampleBatch 12),
            ⟨none, some (sampleChain 13),
              [sampleChain 11, sampleChain 12, sampleChain 13]⟩,
            some .accept⟩ ∧
      ¬ Sound sampleConfig sampleChain sampleParent (sampleBatch 12) := by
  refine ⟨closedEarly_run, sample_call rfl (Or.inr rfl), by decide +kernel, ?_⟩
  intro hsound
  have hepoch := hsound.epoch
  revert hepoch
  decide +kernel

end Sample

end BatchValidator

end BaseChain
