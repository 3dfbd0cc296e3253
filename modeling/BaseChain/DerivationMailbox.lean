/-
The derivation actor and the two that send to its mailbox: the engine processor and the
watcher of the L1 chain.  Every order of their messages is a run.
-/
import BaseChain.DerivationActor

namespace BaseChain

namespace ConsensusNode

/-- The engine processor as the derivation actor sees it.  A signal and the safe head that
follows it are sent one after the other; `signalling` holds in between. -/
structure EngineProcessor where
  safeHead : L2BlockInfo
  lastSafeHeadSent : L2BlockInfo
  elSyncComplete : Bool
  signalling : Bool
  resetAnswer : Option (Except Unit Unit)
deriving DecidableEq

/-- The last four fields watch the run and have no part in it: how many signals were sent
and handled, the safe heads that the engine has held, each with the number of signals sent
by then, and what the actor did, each with the number of signals handled by then. -/
structure DerivationSystem where
  actor : DerivationActor
  status : Handled
  mailbox : List DerivationActorRequest
  engine : EngineProcessor
  inbox : List (Nat × ActorEffect)
  signalsSent : Nat
  signalsHandled : Nat
  held : List (Nat × L2BlockInfo)
  emitted : List (Nat × ActorEffect)

/-- A request that the engine takes from its inbox is named by its place there: tasks wait
in a queue of their own, so that they need not be done in the order of their arrival.  A
request for a reset is refused before the sync is complete, or when the reset fails. -/
inductive SystemAction where
  | drain (safeHead : L2BlockInfo) (takes : Option Nat)
  | reset (signalHead safeHead : L2BlockInfo) (takes : Option Nat)
  | flush (safeHead : L2BlockInfo) (takes : Option Nat)
  | sendSafeHead
  | refuseReset (takes : Nat)
  | answerReset
  | completeSync
  | l1Head (block : BlockInfo)
  | l1Finalized (block : BlockInfo)
  | handle (answers : List PipelineAnswer)

def DerivationActorRequest.signals : DerivationActorRequest → Nat
  | .processEngineSignal _ => 1
  | _ => 0

def ActorEffect.isRequest : ActorEffect → Bool
  | .stepped _ => false
  | _ => true

namespace DerivationSystem

def start : DerivationSystem where
  actor := .new
  status := .done
  mailbox := []
  engine := ⟨default, default, false, false, none⟩
  inbox := []
  signalsSent := 0
  signalsHandled := 0
  held := [(0, default)]
  emitted := []

variable (system : DerivationSystem) (request : DerivationActorRequest)

def send :
    DerivationSystem :=
  { system with mailbox := system.mailbox ++ [request] }

def take : Option Nat → DerivationSystem
  | some index => { system with inbox := system.inbox.eraseIdx index }
  | none => system

def hold (safeHead : L2BlockInfo) : DerivationSystem :=
  { system with
    engine := { system.engine with safeHead }
    held := system.held ++ [(system.signalsSent, safeHead)] }

def sendDerivationActorSafeHeadIfUpdated : DerivationSystem :=
  if system.engine.safeHead = system.engine.lastSafeHeadSent then system
  else
    { system.send (.processEngineSafeHeadUpdate system.engine.safeHead) with
      engine := { system.engine with lastSafeHeadSent := system.engine.safeHead } }

def sendSignal (signal : Signal) : DerivationSystem :=
  { system.send (.processEngineSignal signal) with
    engine := { system.engine with signalling := true }
    signalsSent := system.signalsSent + 1 }

/-- Whether the engine takes a request for a reset. -/
def takesReset (takes : Option Nat) : Bool := match takes.bind (system.inbox[·]?) with
  | some (_, .resetRequest _) => true
  | _ => false

def tagged (count : Nat) (effects : List ActorEffect) : List (Nat × ActorEffect) :=
  effects.map fun effect => (count, effect)

/-- The actor has done something. -/
def record : Handling → DerivationSystem
  | (actor, effects, status) =>
    { system with
      actor
      status
      inbox := system.inbox ++ tagged system.signalsHandled (effects.filter ActorEffect.isRequest)
      emitted := system.emitted ++ tagged system.signalsHandled effects }

/-- The actor takes a request from its mailbox. -/
def receive (rest : List DerivationActorRequest) : DerivationSystem :=
  { system with
    mailbox := rest
    signalsHandled := system.signalsHandled + request.signals }

/-- One step of one of the three; the result is none if it cannot be taken. -/
def perform : SystemAction → Option DerivationSystem
  | .drain safeHead takes =>
    if system.engine.signalling = true ∨ system.takesReset takes = true then none
    else some ((system.take takes).hold safeHead).sendDerivationActorSafeHeadIfUpdated
  | .reset signalHead safeHead takes =>
    if system.engine.signalling then none
    else
      let answered := { system.take takes with
        engine := { system.engine with
          resetAnswer := if system.takesReset takes then some (.ok ())
            else system.engine.resetAnswer } }
      some ((answered.sendSignal (.reset signalHead)).hold safeHead)
  | .flush safeHead takes =>
    if system.engine.signalling = true ∨ system.takesReset takes = true then none
    else some (((system.take takes).sendSignal .flushChannel).hold safeHead)
  | .sendSafeHead =>
    if system.engine.signalling then
      let sent := system.sendDerivationActorSafeHeadIfUpdated
      some { sent with engine := { sent.engine with signalling := false } }
    else none
  | .refuseReset takes =>
    if system.engine.signalling = false ∧ system.takesReset (some takes) = true then
      some { system.take (some takes) with
        engine := { system.engine with resetAnswer := some (.error ()) } }
    else none
  | .answerReset =>
    match system.engine.signalling, system.engine.resetAnswer, system.status with
    | false, some answer, .awaitingReset =>
      some ({ system with
        engine := { system.engine with resetAnswer := none } }.record
          (system.actor.resumeAfterReset answer))
    | _, _, _ => none
  | .completeSync =>
    if system.engine.signalling = true ∨ system.engine.elSyncComplete = true then none
    else some { system.send (.processEngineSyncCompletion system.engine.safeHead) with
      engine := { system.engine with elSyncComplete := true } }
  | .l1Head block => some (system.send (.processL1HeadUpdate block))
  | .l1Finalized block => some (system.send (.processFinalizedL1Block block))
  | .handle answers =>
    match system.status, system.mailbox with
    | .done, request :: rest =>
      some ((system.receive request rest).record
        (system.actor.handleDerivationActorRequest answers request))
    | _, _ => none

/-- A signal was sent, and the safe head that has changed with it was not yet. -/
def pairOpen : Bool :=
  system.engine.signalling ∧ system.engine.safeHead ≠ system.engine.lastSafeHeadSent

/-- Whether a place in the inbox holds attributes that the actor sent after it had handled
every signal so far. -/
def isFresh (takes : Option Nat) : Bool := match takes.bind (system.inbox[·]?) with
  | some (count, .safeL2Signal _) => count = system.signalsSent
  | _ => false

/-- Once the sync is complete, no L1 head comes between a signal and the safe head that has
changed with it, and the safe head changes in a drain by fresh attributes only. -/
def orderly : SystemAction → Bool
  | .l1Head _ => system.engine.elSyncComplete = false ∨ system.pairOpen = false
  | .drain safeHead takes =>
    system.engine.elSyncComplete = false ∨ safeHead = system.engine.safeHead ∨
      system.isFresh takes = true
  | _ => true

/-- The engine held a head when it had sent at least so many signals. -/
def Held (count : Nat) (safeHead : L2BlockInfo) : Prop :=
  ∃ later, count ≤ later ∧ (later, safeHead) ∈ system.held

/-- The system after some steps, all of which can be taken. -/
def run (system : DerivationSystem) : List SystemAction → Option DerivationSystem
  | [] => some system
  | action :: rest => (system.perform action).bind fun after => after.run rest

def orderlyRun (system : DerivationSystem) : List SystemAction → Bool
  | [] => true
  | action :: rest =>
    system.orderly action && (system.perform action).all fun after => after.orderlyRun rest

end DerivationSystem

end ConsensusNode

end BaseChain
