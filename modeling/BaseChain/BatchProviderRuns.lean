/-
Runs of the multiplexer.  The window of L1 blocks is consecutive as long as the
active stage takes over every origin once.
-/
import BaseChain.BatchProvider
import BaseChain.BatchValidatorRuns
import Mathlib.Data.List.Chain

namespace BaseChain

open List BatchQueue BatchValidator

/-- One block comes directly after another. -/
def Follows (block next : BlockInfo) : Prop := next.number = block.number + 1

/-- A window of a stage that saw `origin` last, while the pipeline is at
`current`: it is consecutive, and it ends at the pipeline's origin or one block
before it. -/
structure Tracks (current origin : Option BlockInfo) (blocks : List BlockInfo) : Prop where
  consecutive : blocks.IsChain Follows
  last : ∀ last, blocks.getLast? = some last → ∃ block, current = some block ∧
      (block.number = last.number ∧ (origin = none ∨ origin = current) ∨ Follows last block)

variable {blocks : List BlockInfo}

namespace Tracks

variable {current origin : Option BlockInfo} {block : BlockInfo}

theorem nil : Tracks current origin [] := by
  refine ⟨.nil, ?_⟩
  intro last habsurd
  cases habsurd

theorem single : Tracks (some block) (some block) [block] := by
  refine ⟨.singleton _, ?_⟩
  rintro last ⟨⟩
  exact ⟨block, rfl, .inl ⟨rfl, .inr rfl⟩⟩

theorem suffix {rest : List BlockInfo} (htracks : Tracks current origin blocks)
    (hsuffix : rest <:+ blocks) : Tracks current origin rest := by
  refine ⟨htracks.consecutive.suffix hsuffix, ?_⟩
  intro last hlast
  apply htracks.last
  obtain ⟨front, rfl⟩ := hsuffix
  rw [getLast?_append, hlast]
  rfl

/-- A stage without a cached origin keeps the window. -/
theorem forget (htracks : Tracks current origin blocks) : Tracks current none blocks := by
  refine ⟨htracks.consecutive, ?_⟩
  intro last hlast
  obtain ⟨block, hcurrent, ⟨hnumber, -⟩ | hnext⟩ := htracks.last last hlast
  · exact ⟨block, hcurrent, .inl ⟨hnumber, .inl rfl⟩⟩
  · exact ⟨block, hcurrent, .inr hnext⟩

theorem push (htracks : Tracks (some block) origin blocks) (hnew : origin ≠ some block)
    (hrepeat : origin = none → ∀ last, blocks.getLast? = some last → last.number ≠ block.number) :
    Tracks (some block) (some block) (blocks ++ [block]) := by
  constructor
  · refine htracks.consecutive.append (.singleton _) ?_
    intro last hlast next hnext
    cases hnext
    obtain ⟨other, hother, ⟨hnumber, hcached⟩ | hnext⟩ := htracks.last last hlast
    · cases hother
      rcases hcached with hnone | hsame
      · exact absurd hnumber.symm (hrepeat hnone last hlast)
      · exact absurd hsame hnew
    · cases hother
      exact hnext
  · intro last hlast
    rw [getLast?_append] at hlast
    cases hlast
    exact ⟨block, rfl, .inl ⟨rfl, .inr rfl⟩⟩

/-- The pipeline goes on by one block after the stage took over the last. -/
theorem advance {next : BlockInfo} (htracks : Tracks current origin blocks)
    (hended : ∀ last, blocks.getLast? = some last → Follows last next) :
    Tracks (some next) origin blocks :=
  ⟨htracks.consecutive, fun last hlast => ⟨next, rfl, .inr (hended last hlast)⟩⟩

end Tracks

variable (parent : L2BlockInfo)

theorem advanceEpoch_suffix (blocks : List BlockInfo) : advanceEpoch parent blocks <:+ blocks := by
  unfold advanceEpoch
  split
  · exact suffix_rfl
  · split
    · unfold drainTo
      split
      · exact dropWhile_suffix _
      · exact suffix_rfl
    · exact suffix_rfl

theorem getLast?_advanceEpoch (blocks : List BlockInfo) {last : BlockInfo}
    (hlast : (advanceEpoch parent blocks).getLast? = some last) :
    blocks.getLast? = some last := by
  obtain ⟨front, hfront⟩ := advanceEpoch_suffix parent blocks
  rw [← hfront, getLast?_append, hlast]
  rfl

/-- How a stage takes over the pipeline's origin. -/
inductive Takes (around : Surroundings) (parent : L2BlockInfo)
    (origin : Option BlockInfo) (blocks : List BlockInfo) :
    Option BlockInfo → List BlockInfo → Prop where
  | same (hsame : origin = around.origin) :
      Takes around parent origin blocks origin blocks
  | push {block : BlockInfo} (hnew : origin ≠ around.origin)
      (hblock : around.origin = some block)
      (hreached : parent.l1Origin.number ≤ block.number) :
      Takes around parent origin blocks around.origin (blocks ++ [block])
  | clear : Takes around parent origin blocks around.origin []

variable {cfg : RollupConfig} {around : Surroundings} {parent : L2BlockInfo}
  {result : PipelineResult SingleBatch}

section Stages

/-- The window repeats the pipeline's origin: it ends there, and the stage does
not know that it took it over. -/
def Repeats (around : Surroundings) (parent : L2BlockInfo)
    (origin : Option BlockInfo) (blocks : List BlockInfo) : Prop :=
  origin = none ∧ ∃ block last, around.origin = some block ∧
    parent.l1Origin.number ≤ block.number ∧ blocks.getLast? = some last ∧
    last.number = block.number

variable {origin : Option BlockInfo}

theorem Tracks.takes {after : Option BlockInfo} {afterBlocks : List BlockInfo}
    (htracks : Tracks around.origin origin blocks)
    (hrepeats : ¬ Repeats around parent origin blocks)
    (htakes : Takes around parent origin blocks after afterBlocks) :
    Tracks around.origin after afterBlocks := by
  cases htakes with
  | same => exact htracks
  | @push block hnew hblock hreached =>
    rw [hblock] at htracks hnew ⊢
    apply htracks.push hnew
    intro hnone last hlast hnumber
    exact hrepeats ⟨hnone, block, last, hblock, hreached, hlast, hnumber⟩
  | clear => exact Tracks.nil

theorem Repeats.of_advanceEpoch
    (hrepeats : Repeats around parent origin (advanceEpoch parent blocks)) :
    Repeats around parent origin blocks := by
  obtain ⟨hnone, block, last, hblock, hreached, hlast, hnumber⟩ := hrepeats
  exact ⟨hnone, block, last, hblock, hreached, getLast?_advanceEpoch parent blocks hlast, hnumber⟩

theorem originBehind_eq_false (hbehind : ¬ around.originBehind parent = true) :
    ∃ block, around.origin = some block ∧ parent.l1Origin.number ≤ block.number := by
  unfold Surroundings.originBehind at hbehind
  cases horigin : around.origin with
  | none =>
    rw [horigin] at hbehind
    exact absurd rfl hbehind
  | some block =>
    rw [horigin] at hbehind
    exact ⟨block, rfl, by simpa using hbehind⟩

theorem BatchQueue.takeOrigin_takes (stage : BatchQueue) :
    ∃ taken, takeOrigin around parent stage = .ok taken ∧
      Takes around parent stage.origin stage.l1Blocks taken.origin taken.l1Blocks := by
  unfold takeOrigin
  split
  · rename_i hsame
    exact ⟨_, rfl, .same hsame⟩
  · rename_i hnew
    split
    · rename_i hbehind
      obtain ⟨block, hblock, hreached⟩ := originBehind_eq_false hbehind
      refine ⟨{ stage with
        origin := around.origin, l1Blocks := stage.l1Blocks ++ [block] }, ?_,
        .push hnew hblock hreached⟩
      rw [hblock]
    · exact ⟨_, rfl, .clear⟩

theorem BatchValidator.takeOrigin_takes (stage : BatchValidator) :
    ∃ taken, takeOrigin around parent stage = .ok taken ∧
      Takes around parent stage.origin stage.l1Blocks taken.origin taken.l1Blocks := by
  unfold takeOrigin
  split
  · rename_i hsame
    exact ⟨_, rfl, .same hsame⟩
  · rename_i hnew
    split
    · rename_i hbehind
      obtain ⟨block, hblock, hreached⟩ := originBehind_eq_false hbehind
      refine ⟨{ stage with
        origin := around.origin, l1Blocks := stage.l1Blocks ++ [block] }, ?_,
        .push hnew hblock hreached⟩
      rw [hblock]
    · exact ⟨_, rfl, .clear⟩

namespace BatchQueue

variable {stage after : BatchQueue}

/-- A stage with the same cached origin and a later part of the window. -/
structure Narrows (stage after : BatchQueue) : Prop where
  origin : after.origin = stage.origin
  blocks : after.l1Blocks <:+ stage.l1Blocks

theorem Narrows.refl (stage : BatchQueue) : Narrows stage stage := ⟨rfl, suffix_rfl⟩

theorem Narrows.trans {middle : BatchQueue} (hfirst : Narrows stage middle)
    (hsecond : Narrows middle after) : Narrows stage after :=
  ⟨hsecond.origin.trans hfirst.origin, hsecond.blocks.trans hfirst.blocks⟩

theorem Narrows.tracks (hnarrows : Narrows stage after) {current : Option BlockInfo}
    (htracks : Tracks current stage.origin stage.l1Blocks) :
    Tracks current after.origin after.l1Blocks := by
  rw [hnarrows.origin]
  exact htracks.suffix hnarrows.blocks

theorem popNextBatch_narrows (hpop : popNextBatch parent stage = some (result, after)) :
    Narrows stage after := by
  unfold popNextBatch at hpop
  split at hpop
  · cases hpop
  · cases hpop
    exact ⟨rfl, suffix_rfl⟩

variable {empty : Bool}

theorem closeEpoch_narrows {epoch origin : BlockInfo} {rest : List BlockInfo}
    {result : PipelineResult (Batch SpanBatch)}
    (hclose : closeEpoch cfg parent empty epoch rest origin stage =
      some (result, after)) (hblocks : stage.l1Blocks = epoch :: rest) :
    Narrows stage after := by
  unfold closeEpoch at hclose
  dsimp only at hclose
  split at hclose
  · cases hclose
  split at hclose
  · cases hclose
    exact .refl stage
  · split at hclose
    · cases hclose
      exact .refl stage
    · split at hclose
      · cases hclose
        exact .refl stage
      · cases hclose
        refine ⟨rfl, ?_⟩
        rw [hblocks]
        exact suffix_cons _ _

theorem deriveNextBatch_narrows {result : PipelineResult (Batch SpanBatch)}
    (hderive : deriveNextBatch cfg around parent empty stage =
      some (result, after)) : Narrows stage after := by
  unfold deriveNextBatch at hderive
  split at hderive
  · cases hderive
    exact .refl stage
  · rename_i epoch rest hblocks
    split at hderive
    · cases hderive
      exact .refl stage
    · split at hderive
      · cases hderive
        exact .refl stage
      · split at hderive
        · cases hderive
        · cases hderive
          exact ⟨rfl, suffix_rfl⟩
        · cases hderive
          exact ⟨rfl, suffix_rfl⟩
        · cases hderive
          exact .refl stage
        · have hclose := closeEpoch_narrows hderive hblocks
          exact ⟨hclose.origin, hclose.blocks⟩

theorem addBatch_narrows {batch : Batch SpanBatch}
    (hadd : addBatch cfg around parent batch stage = some after) :
    Narrows stage after := by
  unfold addBatch at hadd
  split at hadd
  · cases hadd
  · cases hadd
    exact .refl stage
  · split at hadd
    · cases hadd
    · cases hadd
      exact .refl stage
    · cases hadd
      exact .refl stage
    · split at hadd
      · cases hadd
        exact .refl stage
      · cases hadd
        exact ⟨rfl, suffix_rfl⟩
    · cases hadd
      exact ⟨rfl, suffix_rfl⟩

theorem load_narrows {result : PipelineResult Bool}
    (hload : load cfg around parent stage = some (result, after)) :
    Narrows stage after := by
  unfold load at hload
  split at hload
  · split at hload
    · cases hload
      exact .refl stage
    · obtain ⟨added, hadd, hpair⟩ := Option.map_eq_some_iff.mp hload
      cases hpair
      exact addBatch_narrows hadd
  · cases hload
    exact .refl stage
  · cases hload
    exact .refl stage

variable {outOfData : Bool}

theorem handOut_narrows {derived : PipelineResult (Batch SpanBatch)}
    (hhand : handOut parent outOfData stage derived = some (result, after)) :
    Narrows stage after := by
  unfold handOut at hhand
  split at hhand
  · cases hhand
    exact .refl stage
  · cases hhand
    exact .refl stage
  · cases hhand
    exact .refl stage
  · split at hhand
    · cases hhand
      exact .refl stage
    · have hpop := popNextBatch_narrows hhand
      exact ⟨hpop.origin, hpop.blocks⟩

theorem derive_narrows (hderive : derive cfg around parent outOfData stage = some (result, after)) :
    Narrows stage after := by
  unfold derive at hderive
  split at hderive
  · cases hderive
    exact .refl stage
  · split at hderive
    · cases hderive
    · rename_i hnext
      exact (deriveNextBatch_narrows hnext).trans (handOut_narrows hderive)

theorem fetchBatch_tracks (hfetch : fetchBatch cfg around parent stage = some (result, after))
    (htracks : Tracks around.origin stage.origin stage.l1Blocks)
    (hrepeats : ¬ Repeats around parent stage.origin stage.l1Blocks) :
    Tracks around.origin after.origin after.l1Blocks := by
  obtain ⟨taken, htake, htakes⟩ := @takeOrigin_takes around parent
    { stage with l1Blocks := advanceEpoch parent stage.l1Blocks }
  have htaken := (htracks.suffix (advanceEpoch_suffix parent _)).takes
    (fun habsurd => hrepeats habsurd.of_advanceEpoch) htakes
  unfold fetchBatch at hfetch
  rw [htake] at hfetch
  dsimp only at hfetch
  split at hfetch
  · cases hfetch
  · rename_i hload
    cases hfetch
    exact (load_narrows hload).tracks htaken
  · rename_i hload
    exact ((load_narrows hload).trans (derive_narrows hfetch)).tracks htaken

theorem nextBatch_tracks (hnext : nextBatch cfg around parent stage = some (result, after))
    (htracks : Tracks around.origin stage.origin stage.l1Blocks)
    (hrepeats : ¬ Repeats around parent stage.origin stage.l1Blocks) :
    Tracks around.origin after.origin after.l1Blocks := by
  unfold nextBatch at hnext
  dsimp only at hnext
  split at hnext
  · cases hnext
  split at hnext
  · exact fetchBatch_tracks hnext htracks hrepeats
  · split at hnext
    · exact fetchBatch_tracks hnext htracks hrepeats
    · split at hnext
      · exact (popNextBatch_narrows hnext).tracks htracks
      · exact fetchBatch_tracks hnext htracks hrepeats

end BatchQueue

namespace BatchValidator

variable {stage after : BatchValidator}

theorem tryDeriveEmptyBatch_narrows {result : PipelineResult SingleBatch}
    (hderive : tryDeriveEmptyBatch cfg parent stage = some (result, after)) :
    after.origin = stage.origin ∧ after.l1Blocks <:+ stage.l1Blocks := by
  unfold tryDeriveEmptyBatch at hderive
  dsimp only at hderive
  split at hderive
  · cases hderive
  · cases hderive
    exact ⟨rfl, suffix_rfl⟩
  · rename_i epoch rest origin hblocks horigin
    split at hderive
    · cases hderive
    split at hderive
    · cases hderive
      exact ⟨rfl, suffix_rfl⟩
    · split at hderive
      · cases hderive
        exact ⟨rfl, suffix_rfl⟩
      · split at hderive
        · cases hderive
          exact ⟨rfl, suffix_rfl⟩
        · cases hderive
          refine ⟨rfl, ?_⟩
          rw [hblocks]
          exact suffix_cons _ _

variable {outcome : Outcome}

theorem judge_window {batch : SingleBatch} {inclusionBlock : BlockInfo}
    (hjudge : judge cfg around parent stage batch inclusionBlock = some outcome) :
    outcome.stage.origin = stage.origin ∧ outcome.stage.l1Blocks = stage.l1Blocks := by
  unfold judge at hjudge
  split at hjudge
  · cases hjudge
    exact ⟨rfl, rfl⟩
  · cases hjudge
    exact ⟨rfl, rfl⟩
  · cases hjudge
    exact ⟨rfl, rfl⟩
  · split at hjudge
    · cases hjudge
    · cases hjudge
      exact ⟨rfl, rfl⟩
    · cases hjudge
      exact ⟨rfl, rfl⟩
    · cases hjudge
      exact ⟨rfl, rfl⟩

variable {origin : BlockInfo}

theorem takeBatch_narrows (htake : takeBatch cfg around parent stage origin = some outcome) :
    outcome.stage.origin = stage.origin ∧ outcome.stage.l1Blocks <:+ stage.l1Blocks := by
  unfold takeBatch at htake
  split at htake
  · obtain ⟨horigin, hblocks⟩ := judge_window htake
    exact ⟨horigin, hblocks ▸ suffix_rfl⟩
  · split at htake
    · split at htake
      · cases htake
      rename_i hderive
      cases htake
      exact tryDeriveEmptyBatch_narrows hderive
    · cases htake
      exact ⟨rfl, suffix_rfl⟩
    · cases htake
      exact ⟨rfl, suffix_rfl⟩
    · obtain ⟨horigin, hblocks⟩ := judge_window htake
      exact ⟨horigin, hblocks ▸ suffix_rfl⟩

theorem afterUpdate_narrows (hafter : afterUpdate cfg around parent stage origin = some outcome) :
    outcome.stage.origin = stage.origin ∧ outcome.stage.l1Blocks <:+ stage.l1Blocks := by
  unfold afterUpdate at hafter
  split at hafter
  · split at hafter
    · cases hafter
      exact ⟨rfl, suffix_rfl⟩
    · cases hafter
      exact ⟨rfl, suffix_rfl⟩
  · split at hafter
    · cases hafter
      exact ⟨rfl, suffix_rfl⟩
    · cases hafter
      exact ⟨rfl, suffix_rfl⟩
    · split at hafter
      · cases hafter
      split at hafter
      · exact takeBatch_narrows hafter
      · cases hafter
        exact ⟨rfl, suffix_rfl⟩

theorem nextBatch_tracks (hnext : nextBatch cfg around parent stage = some outcome)
    (htracks : Tracks around.origin stage.origin stage.l1Blocks)
    (hrepeats : ¬ Repeats around parent stage.origin stage.l1Blocks) :
    Tracks around.origin outcome.stage.origin outcome.stage.l1Blocks := by
  obtain ⟨taken, htake, htakes⟩ := @takeOrigin_takes around parent stage
  have hupdate : stage.updateOrigins around parent =
      .ok { taken with l1Blocks := advanceEpoch parent taken.l1Blocks } := by
    unfold updateOrigins
    rw [htake]
    rfl
  have htaken := (htracks.takes hrepeats htakes).suffix (advanceEpoch_suffix parent _)
  unfold nextBatch at hnext
  rw [hupdate] at hnext
  dsimp only at hnext
  split at hnext
  · cases hnext
    exact htaken
  · obtain ⟨horigin, hblocks⟩ := afterUpdate_narrows hnext
    rw [horigin]
    exact htaken.suffix hblocks

end BatchValidator

end Stages

namespace BatchProvider

variable {provider after : BatchProvider}

/-- The window of the active stage and the origin that it saw last. -/
def Tracked (provider : BatchProvider) : Prop := ∀ stage, provider.stage = some stage →
    Tracks provider.origin stage.origin stage.l1Blocks

/-- The stage that the next call uses does not know the pipeline's origin. -/
def Uncached (cfg : RollupConfig) (block : BlockInfo) : BatchStage → Prop
  | .queue stage => stage.origin = none
  | .validator stage =>
    stage.origin = none ∨ cfg.isHoloceneActive block.timestamp = false

/-- The previous stages go on by one block or not at all. -/
def Valid (provider : BatchProvider) : Action → Prop
  | .advanceOrigin (some next) _ =>
    ∃ block, provider.origin = some block ∧ Follows block next
  | _ => True

/-- Each origin is taken over once: the pipeline only goes on when the window,
if there is one, ends at its origin, and no batch is asked for when the window
ends there and the active stage does not know it, unless the parent's origin is
still ahead. -/
def InOrder (cfg : RollupConfig) (provider : BatchProvider) : Action → Prop
  | .advanceOrigin (some _) _ =>
    ∀ block last, provider.origin = some block →
      provider.l1Blocks.getLast? = some last → last.number = block.number
  | .nextBatch parent _ =>
    ∀ block last stage, provider.origin = some block →
      provider.stage = some stage → Uncached cfg block stage →
      stage.l1Blocks.getLast? = some last → last.number = block.number →
      block.number < parent.l1Origin.number
  | _ => True

/-- The states that allowed calls lead to. -/
inductive Run (cfg : RollupConfig) (Allowed : BatchProvider → Action → Prop) :
    BatchProvider → Prop where
  | new (origin : Option BlockInfo) : Run cfg Allowed ⟨origin, none⟩
  | step {provider after : BatchProvider} {action : Action}
      (hrun : Run cfg Allowed provider) (hallowed : Allowed provider action)
      (hstep : provider.step cfg action = some after) : Run cfg Allowed after

variable (htracked : Tracked provider)

include htracked in
theorem Tracked.activeStage (block : BlockInfo) :
    Tracks provider.origin (activeStage cfg block provider.stage).origin
      (activeStage cfg block provider.stage).l1Blocks := by
  unfold BatchProvider.activeStage
  split
  · split
    · exact Tracks.nil
    · exact Tracks.nil
  · rename_i stage hstage
    have htracks := htracked _ hstage
    split
    · exact htracks
    · exact htracks
  · rename_i stage hstage
    have htracks := htracked _ hstage
    split
    · exact htracks
    · exact htracks.forget

variable {stage : BatchStage}

theorem attemptUpdate_eq_ok (hupdate : provider.attemptUpdate cfg = .ok stage) :
    ∃ block, provider.origin = some block ∧ stage = activeStage cfg block provider.stage := by
  unfold attemptUpdate at hupdate
  split at hupdate
  · cases hupdate
  rename_i block horigin
  cases hupdate
  exact ⟨block, horigin, rfl⟩

include htracked in
theorem Tracked.attemptUpdate (hupdate : provider.attemptUpdate cfg = .ok stage) :
    Tracks provider.origin stage.origin stage.l1Blocks := by
  obtain ⟨block, -, rfl⟩ := attemptUpdate_eq_ok hupdate
  exact htracked.activeStage block

theorem l1Blocks_activeStage (block : BlockInfo) :
    (activeStage cfg block provider.stage).l1Blocks = provider.l1Blocks := by
  unfold activeStage l1Blocks
  split
  · rename_i hstage
    rw [hstage]
    split
    · rfl
    · rfl
  · rename_i hstage
    rw [hstage]
    split
    · rfl
    · rfl
  · rename_i hstage
    rw [hstage]
    split
    · rfl
    · rfl

/-- A stage with a window has no cached origin after the update only if it does
not know the pipeline's origin. -/
theorem activeStage_uncached {block last : BlockInfo}
    (hnone : (activeStage cfg block provider.stage).origin = none)
    (hlast : provider.l1Blocks.getLast? = some last) :
    ∃ stage, provider.stage = some stage ∧ Uncached cfg block stage ∧
      stage.l1Blocks.getLast? = some last := by
  unfold activeStage at hnone
  unfold l1Blocks at hlast
  cases hstage : provider.stage with
  | none =>
    rw [hstage] at hlast
    cases hlast
  | some stage =>
    rw [hstage] at hlast hnone
    refine ⟨stage, rfl, ?_, hlast⟩
    cases stage with
    | queue =>
      dsimp only at hnone
      split at hnone
      · exact hnone
      · exact hnone
    | validator =>
      dsimp only at hnone
      split at hnone
      · exact .inl hnone
      · rename_i hholocene
        exact .inr (by simpa using hholocene)

theorem Tracked.of_stage {origin : Option BlockInfo}
    (htracks : Tracks origin stage.origin stage.l1Blocks) :
    Tracked ⟨origin, some stage⟩ := by
  intro other hother
  cases hother
  exact htracks

include htracked in
theorem Tracked.reset (answer : PipelineResult BlockInfo) :
    Tracked (provider.reset cfg answer).2 := by
  unfold BatchProvider.reset
  split
  · exact htracked
  · rename_i hupdate
    exact .of_stage (htracked.attemptUpdate hupdate)
  · rename_i stage origin hupdate
    apply Tracked.of_stage
    cases stage with
    | queue stage | validator stage => exact Tracks.single

include htracked in
theorem Tracked.advanceOrigin {moved : Option BlockInfo} {answer : PipelineResult Unit}
    (hvalid : Valid provider (.advanceOrigin moved answer))
    (horder : InOrder cfg provider (.advanceOrigin moved answer)) :
    Tracked (provider.advanceOrigin cfg moved answer).2 := by
  unfold BatchProvider.advanceOrigin
  split
  · exact htracked
  rename_i stage hupdate
  have htracks := htracked.attemptUpdate hupdate
  cases moved with
  | none => exact .of_stage htracks
  | some =>
    apply Tracked.of_stage
    apply htracks.advance
    intro last hlast
    obtain ⟨block, horigin, hnext⟩ := hvalid
    obtain ⟨_, -, rfl⟩ := attemptUpdate_eq_ok hupdate
    rw [l1Blocks_activeStage] at hlast
    rw [Follows, horder block last horigin hlast]
    exact hnext

theorem nextBatch_tracks {after : BatchStage}
    (hnext : stage.nextBatch cfg around parent = some (result, after))
    (htracks : Tracks around.origin stage.origin stage.l1Blocks)
    (hrepeats : ¬ Repeats around parent stage.origin stage.l1Blocks) :
    Tracks around.origin after.origin after.l1Blocks := by
  cases stage with
  | queue =>
    obtain ⟨⟨_, _⟩, hqueue, hpair⟩ := Option.map_eq_some_iff.mp hnext
    cases hpair
    exact nextBatch_tracks hqueue htracks hrepeats
  | validator =>
    obtain ⟨outcome, hvalidator, hpair⟩ := Option.map_eq_some_iff.mp hnext
    cases hpair
    exact nextBatch_tracks hvalidator htracks hrepeats

include htracked in
theorem Tracked.nextBatch (horder : InOrder cfg provider (.nextBatch parent around))
    (hnext : provider.nextBatch cfg around parent = some (result, after)) :
    Tracked after := by
  unfold BatchProvider.nextBatch at hnext
  split at hnext
  · cases hnext
    exact htracked
  · rename_i stage hupdate
    obtain ⟨⟨_, next⟩, hstage, hpair⟩ := Option.map_eq_some_iff.mp hnext
    cases hpair
    have htracks := htracked.attemptUpdate hupdate
    apply Tracked.of_stage
    apply nextBatch_tracks hstage htracks
    rintro ⟨hnone, block, last, hblock, hreached, hlast, hnumber⟩
    obtain ⟨block, horigin, rfl⟩ := attemptUpdate_eq_ok hupdate
    obtain rfl := Option.some.inj (horigin.symm.trans hblock)
    rw [l1Blocks_activeStage] at hlast
    obtain ⟨stage, hstage, huncached, hlast⟩ := activeStage_uncached hnone hlast
    have hahead := horder block last stage horigin hstage huncached hlast hnumber
    omega

include htracked in
theorem Tracked.activate (answer : PipelineResult Unit) :
    Tracked (provider.activate cfg answer).2 := by
  unfold BatchProvider.activate
  split
  · exact htracked
  rename_i stage hupdate
  have htracks := htracked.attemptUpdate hupdate
  apply Tracked.of_stage
  cases stage with
  | queue =>
    cases answer with
    | ok _ | error kind => exact htracks
  | validator => exact htracks

include htracked in
theorem Tracked.flushChannel (answer : PipelineResult Unit) :
    Tracked (provider.flushChannel cfg answer).2 := by
  unfold BatchProvider.flushChannel
  split
  · exact htracked
  rename_i stage hupdate
  have htracks := htracked.attemptUpdate hupdate
  apply Tracked.of_stage
  cases stage with
  | queue =>
    cases answer with
    | ok _ | error kind => exact htracks
  | validator => exact htracks

include htracked in
theorem Tracked.step {action : Action}
    (hvalid : Valid provider action) (horder : InOrder cfg provider action)
    (hstep : provider.step cfg action = some after) : Tracked after := by
  cases action with
  | reset answer =>
    cases hstep
    exact htracked.reset answer
  | advanceOrigin =>
    cases hstep
    exact htracked.advanceOrigin hvalid horder
  | nextBatch =>
    obtain ⟨⟨_, _⟩, hnext, rfl⟩ := Option.map_eq_some_iff.mp hstep
    exact htracked.nextBatch horder hnext
  | activate answer =>
    cases hstep
    exact htracked.activate answer
  | flushChannel answer =>
    cases hstep
    exact htracked.flushChannel answer

theorem Run.tracked (hrun : Run cfg (fun provider action =>
      Valid provider action ∧ InOrder cfg provider action) provider) :
    Tracked provider := by
  induction hrun with
  | new =>
    intro stage habsurd
    cases habsurd
  | step hrun hallowed hstep ih => exact ih.step hallowed.1 hallowed.2 hstep

/-- The window of L1 blocks is consecutive in every state that calls in order
lead to. -/
theorem Run.l1Blocks_consecutive
    (hrun : Run cfg (fun provider action =>
      Valid provider action ∧ InOrder cfg provider action) provider) :
    provider.l1Blocks.IsChain Follows := by
  unfold l1Blocks
  cases hstage : provider.stage with
  | none => exact .nil
  | some stage => exact (hrun.tracked stage hstage).consecutive

section Sample

/-- Holocene is active from the L1 block 11 on. -/
def sampleConfig : RollupConfig :=
  { BatchValidator.sampleConfig with
    activation := fun upgrade => if upgrade = .holocene then some 1010 else none }

def sampleBlock (number : Nat) : BlockInfo := BatchValidator.sampleChain number

/-- A call for a batch when there is none. -/
def sampleWait : Action := .nextBatch BatchValidator.sampleParent
    (BatchValidator.sampleCall 0 PipelineError.eof.temp)

/-- The queue after a reset to the block before Holocene. -/
def beforeHolocene : BatchProvider :=
  ⟨some (sampleBlock 10), some (.queue (BatchQueue.reset (some (sampleBlock 10))))⟩

/-- The validator at the first block of Holocene. -/
def afterHolocene : BatchProvider := ⟨some (sampleBlock 11), some (.validator
    ⟨none, some (sampleBlock 11), [sampleBlock 10, sampleBlock 11]⟩)⟩

theorem sample_run {Allowed : BatchProvider → Action → Prop}
    (hreset : Allowed ⟨some (sampleBlock 0), none⟩ (.reset (.ok (sampleBlock 10))))
    (hwait : Allowed beforeHolocene sampleWait)
    (hadvance : Allowed beforeHolocene
      (.advanceOrigin (some (sampleBlock 11)) (.error (.reset .other))))
    (hnext : Allowed { beforeHolocene with origin := some (sampleBlock 11) } sampleWait) :
    Run sampleConfig Allowed afterHolocene := by
  have hbefore : Run sampleConfig Allowed beforeHolocene :=
    .step (.new _) hreset (by decide +kernel)
  have hwaited : Run sampleConfig Allowed beforeHolocene := .step hbefore hwait (by decide +kernel)
  have hadvanced : Run sampleConfig Allowed
      { beforeHolocene with origin := some (sampleBlock 11) } :=
    .step hwaited hadvance (by decide +kernel)
  exact .step hadvanced hnext (by decide +kernel)

theorem l1Blocks_consecutive_sample :
    afterHolocene.l1Blocks.IsChain Follows := by
  apply @Run.l1Blocks_consecutive sampleConfig
  apply sample_run
  · exact ⟨trivial, trivial⟩
  · refine ⟨trivial, ?_⟩
    rintro block last stage - ⟨⟩ habsurd
    cases habsurd
  · refine ⟨⟨sampleBlock 10, rfl, rfl⟩, ?_⟩
    rintro block last ⟨⟩ ⟨⟩
    rfl
  · refine ⟨trivial, ?_⟩
    rintro block last stage - ⟨⟩ habsurd
    cases habsurd

/-- A reset to a block before Holocene makes the queue take over an origin that
is in the window already. -/
theorem reorg_repeats :
    ∃ provider, Run sampleConfig Valid provider ∧
      provider.l1Blocks = [sampleBlock 10, sampleBlock 10] ∧
      ¬ provider.l1Blocks.IsChain Follows := by
  have hafter : Run sampleConfig Valid afterHolocene :=
    sample_run trivial trivial ⟨sampleBlock 10, rfl, rfl⟩ trivial
  have hreset : Run sampleConfig Valid ⟨some (sampleBlock 10),
        some (.validator (BatchValidator.reset (some (sampleBlock 10))))⟩ :=
    @Run.step _ _ _ _ (.reset (.ok (sampleBlock 10))) hafter trivial
      (by decide +kernel)
  refine ⟨⟨some (sampleBlock 10), some (.queue
    { BatchQueue.new with
      origin := some (sampleBlock 10)
      l1Blocks := [sampleBlock 10, sampleBlock 10] })⟩, ?_, rfl, ?_⟩
  · exact @Run.step _ _ _ _ sampleWait hreset trivial (by decide +kernel)
  · intro hchain
    obtain ⟨hfollows, -⟩ := List.isChain_cons_cons.mp hchain
    unfold Follows at hfollows
    omega

end Sample

end BatchProvider

end BaseChain
