/-
The derivation actor with its finalizer: what it does with each request, given the
answers of the derivation pipeline.  Requests that the actor sends to the engine are
returned in order.
-/
import BaseChain.DerivationStateMachine
import BaseChain.SafeHeadDb

namespace BaseChain

namespace ConsensusNode

/-- Derived L2 blocks that wait for the L1 block which they were derived from to be
finalized: for each L1 block the highest of them. -/
structure L2Finalizer where
  awaitingFinalization : OrderedTable Nat Nat
  finalizedL1Block : Option BlockInfo
deriving DecidableEq

namespace L2Finalizer

def new : L2Finalizer := ⟨default, none⟩

variable (finalizer : L2Finalizer)

/-- The result is none if the attributes were not derived, where the source panics. -/
def enqueueForFinalization (attributes : AttributesWithParent) : Option L2Finalizer := do
  let derivedFrom ← attributes.derivedFrom
  let highest := match finalizer.awaitingFinalization.lookup derivedFrom.number with
    | some number => max number attributes.blockNumber
    | none => attributes.blockNumber
  return { finalizer with
    awaitingFinalization := finalizer.awaitingFinalization.insert derivedFrom.number highest }

def tryFinalizeNext (newFinalizedL1Block : BlockInfo) : Option Nat × L2Finalizer :=
  match finalizer.awaitingFinalization.atMost newFinalizedL1Block.number with
  | some (_, highestSafeNumber) =>
    (some highestSafeNumber, { finalizer with
      awaitingFinalization := finalizer.awaitingFinalization.filterKeys fun number =>
        newFinalizedL1Block.number < number })
  | none => (none, finalizer)

def tryFinalizePending : Option Nat × L2Finalizer := match finalizer.finalizedL1Block with
  | some block => finalizer.tryFinalizeNext block
  | none => (none, finalizer)

/-- A finalized L1 block below the one that is known is passed over. -/
def processFinalizedL1Block (finalizedL1Block : BlockInfo) : Option Nat × L2Finalizer :=
  if finalizer.finalizedL1Block.any (fun previous => finalizedL1Block.number < previous.number)
  then (none, finalizer)
  else tryFinalizePending { finalizer with finalizedL1Block := some finalizedL1Block }

/-- The finalized L1 block outlives a reset. -/
def clear : L2Finalizer := { finalizer with awaitingFinalization := default }

end L2Finalizer

inductive Signal where
  | reset (l2SafeHead : L2BlockInfo)
  | activation (l2SafeHead : L2BlockInfo)
  | flushChannel
deriving DecidableEq

inductive ResetReason where
  | derivationPipeline
  | derivationL1Reorg
deriving Repr, DecidableEq

/-- The errors of a pipeline, as far as the actor tells them apart. -/
inductive PipelineErrorKind where
  | temporary (notEnoughData : Bool)
  | holoceneActivation
  | reset (reason : ResetReason)
  | critical
deriving Repr, DecidableEq

inductive StepResult where
  | preparedAttributes
  | advancedOrigin
  | originAdvanceErr (error : PipelineErrorKind)
  | stepFailed (error : PipelineErrorKind)
deriving Repr, DecidableEq

/-- What the pipeline answers in one round: to the step, to the question for its origin,
to an activation signal and to the request for attributes, which it prepares on top of the
head that it is given. -/
structure PipelineAnswer where
  step : StepResult
  origin : Option BlockInfo
  activation : Except PipelineErrorKind Unit
  next : Option (BlockInfo × Bool)

inductive DerivationError where
  | pipeline (error : PipelineErrorKind)
  | sender
  | stateTransition (error : InvalidTransition)
  | panicked
deriving DecidableEq

/-- How an attempt to produce attributes ends.  A request for a reset waits for the
engine. -/
inductive Production where
  | attributes (attributes : AttributesWithParent)
  | yielded
  | resetRequested (reason : ResetReason)
  | failed (error : PipelineErrorKind)
  | stepping
deriving DecidableEq

namespace PipelineAnswer

variable (answer : PipelineAnswer) (confirmed : L2BlockInfo)

/-- The attributes that are ready after a round, if there are any. -/
def takeNext : Option Production := answer.next.map fun (origin, isLastInSpan) =>
    .attributes ⟨confirmed, some origin, isLastInSpan⟩

def handleError : PipelineErrorKind → Option Production
  | .temporary true => none
  | .temporary false => some .yielded
  | .holoceneActivation => match answer.activation with
      | .ok () => answer.takeNext confirmed
      | .error error => some (.failed error)
  | .reset reason => some (.resetRequested reason)
  | .critical => some (.failed .critical)

/-- What one round comes to; none if the pipeline is stepped again. -/
def round : Option Production := match answer.step with
  | .preparedAttributes => answer.takeNext confirmed
  | .advancedOrigin => match answer.origin with
      | some _ => answer.takeNext confirmed
      | none => some (.failed .critical)
  | .originAdvanceErr error => answer.handleError confirmed error
  | .stepFailed error => answer.handleError confirmed error

end PipelineAnswer

/-- The pipeline is stepped with the confirmed head until the first attributes are
there; the number is that of the steps.  As long as more answers are needed than there are,
the actor is still stepping. -/
def produceNextAttributes (confirmed : L2BlockInfo) : List PipelineAnswer → Nat × Production
  | [] => (0, .stepping)
  | answer :: rest =>
    match answer.round confirmed with
    | some production => (1, production)
    | none =>
      let (steps, production) := produceNextAttributes confirmed rest
      (steps + 1, production)

structure DerivationActor where
  machine : DerivationStateMachine
  finalizer : L2Finalizer
  safeHeads : SafeDb
  pendingDerivedFrom : Option BlockInfo
deriving DecidableEq

inductive DerivationActorRequest where
  | processEngineSyncCompletion (safeHead : L2BlockInfo)
  | processEngineSafeHeadUpdate (safeHead : L2BlockInfo)
  | processEngineSignal (signal : Signal)
  | processFinalizedL1Block (block : BlockInfo)
  | processL1HeadUpdate (block : BlockInfo)
deriving DecidableEq

/-- What the actor does to others: it steps the pipeline, and it sends requests to the
engine. -/
inductive ActorEffect where
  | stepped (parent : L2BlockInfo)
  | safeL2Signal (attributes : AttributesWithParent)
  | finalizedL2Block (number : Nat)
  | resetRequest (reason : ResetReason)
deriving DecidableEq

/-- How the handling of a request ends. -/
inductive Handled where
  | done
  | awaitingReset
  | failed (error : DerivationError)
  | stepping
deriving DecidableEq

/-- The actor after a request, what it did and how it ended. -/
abbrev Handling := DerivationActor × List ActorEffect × Handled

namespace DerivationActor

def new : DerivationActor := ⟨.new, .new, default, none⟩

variable (actor : DerivationActor)

/-- A state update, and what to do after it. -/
def updating (update : DerivationStateUpdate) (next : DerivationActor → Handling) : Handling :=
  match actor.machine.update update with
  | .ok machine => next { actor with machine }
  | .error error => (actor, [], .failed (.stateTransition error))

/-- A signal resets the database to the head that the actor has confirmed, whatever head
the signal brings. -/
def signal (actor : DerivationActor) (signal : Signal) : DerivationActor := match signal with
  | .reset _ => { actor with
      finalizer := actor.finalizer.clear
      pendingDerivedFrom := none
      safeHeads := SafeDb.safeHeadReset actor.safeHeads actor.machine.confirmedSafeHead }
  | _ => actor

def emitting (effects : List ActorEffect) : Handling → Handling
  | (actor, later, handled) => (actor, effects ++ later, handled)

variable (answers : List PipelineAnswer)

def attemptDerivation (actor : DerivationActor) :
    Handling :=
  if actor.machine.state ≠ .activelyDeriving then (actor, [], .done)
  else
    let confirmed := actor.machine.confirmedSafeHead
    let (steps, production) := produceNextAttributes confirmed answers
    emitting (List.replicate steps (.stepped confirmed)) <| match production with
      | .attributes attributes =>
        actor.updating (.newAttributesDerived attributes) fun actor =>
          match actor.finalizer.enqueueForFinalization attributes with
          | none => (actor, [], .failed .panicked)
          | some finalizer =>
            ({ actor with finalizer, pendingDerivedFrom := attributes.derivedFrom },
              [.safeL2Signal attributes], .done)
      | .yielded => actor.updating .moreDataNeeded fun actor => (actor, [], .done)
      | .resetRequested reason => (actor, [.resetRequest reason], .awaitingReset)
      | .failed error => (actor, [], .failed (.pipeline error))
      | .stepping => (actor, [], .stepping)

/-- The engine has answered the request for a reset. -/
def resumeAfterReset (answer : Except Unit Unit) : Handling := match answer with
  | .error () => (actor, [], .failed .sender)
  | .ok () =>
    actor.updating .signalNeeded fun actor =>
      actor.updating .moreDataNeeded fun actor => (actor, [], .done)

/-- Requests to finalize an L2 block. -/
def finalizing : Option Nat → List ActorEffect
  | some number => [.finalizedL2Block number]
  | none => []

def handleDerivationActorRequest (actor : DerivationActor) : DerivationActorRequest → Handling
  | .processEngineSignal signal =>
    (actor.signal signal).updating .signalProcessed fun actor => (actor, [], .done)
  | .processFinalizedL1Block block =>
    let (number, finalizer) := actor.finalizer.processFinalizedL1Block block
    ({ actor with finalizer }, finalizing number, .done)
  | .processL1HeadUpdate _ =>
    actor.updating .l1DataReceived (attemptDerivation answers)
  | .processEngineSafeHeadUpdate safeHead =>
    let l1Block := actor.pendingDerivedFrom.getD
      ⟨safeHead.l1Origin.hash, safeHead.l1Origin.number, default, 0⟩
    let actor := { actor with
      pendingDerivedFrom := none
      safeHeads := SafeDb.safeHeadUpdated actor.safeHeads safeHead l1Block }
    actor.updating (.newAttributesConfirmed safeHead) fun actor =>
      let (number, finalizer) := actor.finalizer.tryFinalizePending
      emitting (finalizing number) (attemptDerivation answers { actor with finalizer })
  | .processEngineSyncCompletion safeHead =>
    let actor := { actor with
      safeHeads := SafeDb.safeHeadReset actor.safeHeads safeHead }
    actor.updating (.elSyncCompleted safeHead) (attemptDerivation answers)

end DerivationActor

end ConsensusNode

end BaseChain
