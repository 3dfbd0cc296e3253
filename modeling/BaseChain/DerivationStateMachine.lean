/-
The state machine that says when the derivation actor may derive.  Log lines and metrics
are left out.
-/
import BaseChain.RollupConfig

namespace BaseChain

/-- Payload attributes on top of a block; their transactions are not looked at here. -/
structure AttributesWithParent where
  parent : L2BlockInfo
  derivedFrom : Option BlockInfo
  isLastInSpan : Bool
deriving DecidableEq

/-- The number of the block that the attributes would make. -/
def AttributesWithParent.blockNumber (attributes : AttributesWithParent) : Nat :=
  saturatingAdd attributes.parent.blockInfo.number 1

instance : Inhabited BlockNumHash := ⟨⟨0, default⟩⟩

instance : Inhabited L2BlockInfo := ⟨⟨default, default, 0⟩⟩

namespace ConsensusNode

inductive DerivationState where
  | awaitingElSyncCompletion
  | awaitingL1Data
  | awaitingSafeHeadConfirmation
  | awaitingSignal
  | awaitingUpdateAfterSignal
  | activelyDeriving
deriving Repr, DecidableEq

inductive DerivationStateUpdate where
  | elSyncCompleted (safeHead : L2BlockInfo)
  | l1DataReceived
  | moreDataNeeded
  | newAttributesDerived (attributes : AttributesWithParent)
  | newAttributesConfirmed (safeHead : L2BlockInfo)
  | signalNeeded
  | signalProcessed
deriving DecidableEq

/-- A transition that the state machine does not have. -/
structure InvalidTransition where
  state : DerivationState
  update : DerivationStateUpdate
deriving DecidableEq

open DerivationState in
def transition (state : DerivationState) (update : DerivationStateUpdate) :
    Except InvalidTransition DerivationState :=
  match state, update with
  | awaitingElSyncCompletion, .elSyncCompleted _ => .ok activelyDeriving
  | awaitingElSyncCompletion, .newAttributesConfirmed _
  | awaitingElSyncCompletion, .signalProcessed
  | awaitingElSyncCompletion, .l1DataReceived => .ok awaitingElSyncCompletion
  | awaitingL1Data, .l1DataReceived => .ok activelyDeriving
  | awaitingL1Data, .signalProcessed => .ok awaitingUpdateAfterSignal
  | awaitingSafeHeadConfirmation, .newAttributesConfirmed _ => .ok activelyDeriving
  | awaitingSafeHeadConfirmation, .signalProcessed => .ok awaitingUpdateAfterSignal
  | awaitingSafeHeadConfirmation, .l1DataReceived => .ok awaitingSafeHeadConfirmation
  | awaitingSignal, .signalProcessed => .ok awaitingUpdateAfterSignal
  | awaitingSignal, .l1DataReceived
  | awaitingSignal, .moreDataNeeded => .ok awaitingSignal
  | awaitingUpdateAfterSignal, .l1DataReceived
  | awaitingUpdateAfterSignal, .newAttributesConfirmed _ => .ok activelyDeriving
  | awaitingUpdateAfterSignal, .signalProcessed => .ok awaitingUpdateAfterSignal
  | activelyDeriving, .newAttributesDerived _ => .ok awaitingSafeHeadConfirmation
  | activelyDeriving, .signalNeeded => .ok awaitingSignal
  | activelyDeriving, .moreDataNeeded => .ok awaitingL1Data
  | state, update => .error ⟨state, update⟩

structure DerivationStateMachine where
  confirmedSafeHead : L2BlockInfo
  state : DerivationState
deriving DecidableEq

namespace DerivationStateMachine

def new : DerivationStateMachine := ⟨default, .awaitingElSyncCompletion⟩

/-- A head that is received again takes the same transition as a new one. -/
def update (machine : DerivationStateMachine) (update : DerivationStateUpdate) :
    Except InvalidTransition DerivationStateMachine := do
  let state ← transition machine.state update
  match update with
  | .newAttributesConfirmed safeHead => return ⟨safeHead, state⟩
  | .elSyncCompleted safeHead => return ⟨safeHead, state⟩
  | _ => return { machine with state }

end DerivationStateMachine

end ConsensusNode

end BaseChain
