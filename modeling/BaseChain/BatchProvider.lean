/-
The multiplexer of the two batch stages.  Before Holocene the queue is active,
after it the validator; a change of the stage carries the window of L1 blocks
over, and the cached origin only in one direction.
-/
import BaseChain.BatchQueue

namespace BaseChain

/-- The active stage, which owns the previous one. -/
inductive BatchStage where
  | queue (stage : BatchQueue)
  | validator (stage : BatchValidator)
deriving DecidableEq

namespace BatchStage

/-- The origin that the stage saw last. -/
def origin : BatchStage → Option BlockInfo
  | .queue stage => stage.origin
  | .validator stage => stage.origin

def l1Blocks : BatchStage → List BlockInfo
  | .queue stage => stage.l1Blocks
  | .validator stage => stage.l1Blocks

def reset (origin : BlockInfo) : BatchStage → BatchStage
  | .queue _ => .queue (BatchQueue.reset (some origin))
  | .validator _ => .validator (BatchValidator.reset (some origin))

def nextBatch (cfg : RollupConfig) (around : Surroundings) (parent : L2BlockInfo) :
    BatchStage → Option (PipelineResult SingleBatch × BatchStage)
  | .queue stage =>
    (BatchQueue.nextBatch cfg around parent stage).map fun (result, stage) =>
      (result, .queue stage)
  | .validator stage =>
    (BatchValidator.nextBatch cfg around parent stage).map fun outcome =>
      (outcome.result, .validator outcome.stage)

variable (answer : PipelineResult Unit)

def activate : BatchStage → BatchStage
  | .queue stage =>
    .queue (match answer with | .ok _ => stage.clear | .error _ => stage)
  | .validator stage => .validator stage

def flushChannel : BatchStage → BatchStage
  | .queue stage =>
    .queue (match answer with | .ok _ => stage.clear | .error _ => stage)
  | .validator stage => .validator { stage with pendingBatch := none }

end BatchStage

/-- The multiplexer; `origin` is the one of the previous stages, and there is no
active stage before the first call. -/
structure BatchProvider where
  origin : Option BlockInfo
  stage : Option BatchStage
deriving DecidableEq

namespace BatchProvider

variable (cfg : RollupConfig)

/-- The stage for an origin. -/
def activeStage (origin : BlockInfo) : Option BatchStage → BatchStage
  | none =>
    if cfg.isHoloceneActive origin.timestamp then
      .validator BatchValidator.new
    else .queue BatchQueue.new
  | some (.queue stage) =>
    if cfg.isHoloceneActive origin.timestamp then
      .validator
        { BatchValidator.new with
          l1Blocks := stage.l1Blocks, origin := stage.origin }
    else .queue stage
  | some (.validator stage) =>
    if cfg.isHoloceneActive origin.timestamp then .validator stage
    -- an L1 reorganisation around the activation
    else .queue { BatchQueue.new with l1Blocks := stage.l1Blocks }

variable (provider : BatchProvider)

def attemptUpdate : PipelineResult BatchStage := match provider.origin with
  | none => PipelineError.missingOrigin.crit
  | some origin => .ok (activeStage cfg origin provider.stage)

/-- A call of the multiplexer.  `answer` is what the previous stages return, and
`moved` the origin after they went on to another block. -/
inductive Action where
  | reset (answer : PipelineResult BlockInfo)
  | advanceOrigin (moved : Option BlockInfo) (answer : PipelineResult Unit)
  | nextBatch (parent : L2BlockInfo) (around : Surroundings)
  | activate (answer : PipelineResult Unit)
  | flushChannel (answer : PipelineResult Unit)

def reset (answer : PipelineResult BlockInfo) (provider : BatchProvider) :
    PipelineResult Unit × BatchProvider :=
  match provider.attemptUpdate cfg, answer with
  | .error kind, _ => (.error kind, provider)
  | .ok stage, .error kind => (.error kind, { provider with stage })
  | .ok stage, .ok origin =>
    (.ok (), { origin := some origin, stage := stage.reset origin })

def advanceOrigin (moved : Option BlockInfo) (answer : PipelineResult Unit)
    (provider : BatchProvider) : PipelineResult Unit × BatchProvider :=
  match provider.attemptUpdate cfg with
  | .error kind => (.error kind, provider)
  | .ok stage => (answer, { origin := moved.or provider.origin, stage })

def nextBatch (around : Surroundings) (parent : L2BlockInfo) (provider : BatchProvider) :
    Option (PipelineResult SingleBatch × BatchProvider) :=
  match provider.attemptUpdate cfg with
  | .error kind => some (.error kind, provider)
  | .ok stage =>
    (stage.nextBatch cfg { around with origin := provider.origin } parent).map
      fun (result, stage) => (result, { provider with stage })

def activate (answer : PipelineResult Unit) (provider : BatchProvider) :
    PipelineResult Unit × BatchProvider :=
  match provider.attemptUpdate cfg with
  | .error kind => (.error kind, provider)
  | .ok stage => (answer, { provider with stage := stage.activate answer })

def flushChannel (answer : PipelineResult Unit) (provider : BatchProvider) :
    PipelineResult Unit × BatchProvider :=
  match provider.attemptUpdate cfg with
  | .error kind => (.error kind, provider)
  | .ok stage => (answer, { provider with stage := stage.flushChannel answer })

/-- The multiplexer after a call; a panic is `none`. -/
def step : Action → Option BatchProvider
  | .reset answer => some (provider.reset cfg answer).2
  | .advanceOrigin moved answer =>
    some (provider.advanceOrigin cfg moved answer).2
  | .nextBatch parent around =>
    (provider.nextBatch cfg around parent).map (·.2)
  | .activate answer => some (provider.activate cfg answer).2
  | .flushChannel answer => some (provider.flushChannel cfg answer).2

def l1Blocks (provider : BatchProvider) : List BlockInfo :=
  (provider.stage.map (·.l1Blocks)).getD []

end BatchProvider

end BaseChain
