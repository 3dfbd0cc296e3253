/-
The account changes themselves: the operations of a signed batch and the creation of an
account.  A batch works on a state of the account in memory, which the caller writes
back, while actors and policies are written at once.
-/
import BaseChain.ActorAuthorizer

namespace BaseChain

open Checked

namespace Eip8130

def AccountState.disableInlineSelf (state : AccountState) : AccountState :=
  { state with
    flags := state.flags ||| defaultEoaRevokedFlag
    defaultEoaScope := 0
    defaultEoaExpiry := 0 }

/-- The length alone decides whether a policy is attached. -/
def slicePolicy (policyData : Bytes) : Except ApplyError (Address × B256) :=
  if policyData = [] then .ok (default, default)
  else if hlength : policyData.length ≠ policyDataLen then .error .invalidPolicyData
  else .ok (⟨slice policyData 0 20, by
      have := not_not.mp hlength
      simp [this, policyDataLen]⟩,
    ⟨slice policyData 20 52, by
      have := not_not.mp hlength
      simp [this, policyDataLen]⟩)

section Actors

variable (storage : AccountConfiguration) (account : Address) (actorId : B256)

variable (config : ActorConfig) (policyData : Bytes)

/-- Zero is the id of no actor. -/
def authorizeNonSelfActor : Except ApplyError AccountConfiguration := do
  ensure (actorId ≠ default) .invalidActorId
  ensure (config.authenticator ≠ default) .invalidAuthenticator
  let (manager, commitment) ← slicePolicy policyData
  return (storage.setActorConfig account actorId config).setPolicy account actorId
    manager commitment

variable (state : AccountState)

/-- The key of the account itself has one of two homes: inline if it is a secp256k1 key,
in the table of actors otherwise. -/
def authorizeActorWithAccountState : Except ApplyError (AccountConfiguration × AccountState) := do
  ensure (config.authenticator ≠ default) .invalidAuthenticator
  if actorId ≠ selfActorId account then do
    let after ← authorizeNonSelfActor storage account actorId config policyData
    return (after, state)
  else do
    let (manager, commitment) ← slicePolicy policyData
    if config.authenticator = k1Authenticator then
      return ((storage.clearActorConfig account actorId).setPolicy account actorId
          manager commitment,
        { state with
          defaultEoaScope := config.scope
          defaultEoaExpiry := config.expiry
          flags := state.flags &&& ~~~defaultEoaRevokedFlag })
    else
      return ((storage.setActorConfig account actorId config).setPolicy account actorId
        manager commitment, state.disableInlineSelf)

def authorizeActor : Except ApplyError AccountConfiguration :=
  if actorId = selfActorId account then do
    let (after, state) ← authorizeActorWithAccountState storage account actorId config
      policyData (storage.getAccountState account)
    return after.setAccountState account state
  else authorizeNonSelfActor storage account actorId config policyData

/-- Nothing but the expiry of a live actor can change while the account is locked. -/
def enforceLockedAuthorizeRules (now : Nat) : Except ApplyError Unit := do
  ensure (¬ (config.expiry ≠ 0 ∧ config.expiry ≤ state.unlockFloor now)) .expiryDoesNotOutliveUnlock
  let current := storage.resolveLiveActorConfigWithState account actorId state now
  if current.isEmpty then .ok ()
  else do
    let (manager, commitment) ← slicePolicy policyData
    ensure (¬ (config.authenticator ≠ current.authenticator ∨ config.scope ≠ current.scope ∨
        manager ≠ storage.policyManager account actorId ∨
        commitment ≠ storage.policyCommitment account actorId))
      .accountIsLocked

def revokeExplicitActor : AccountConfiguration := if config.authenticator = default then storage
  else (storage.clearActorConfig account actorId).clearPolicy account actorId

/-- The number is that of the three slots which a revocation finds empty. -/
def revokeActorWithAccountState : Nat × AccountConfiguration × AccountState :=
  let config := storage.actorConfigSlot account actorId
  let isSelf := actorId = selfActorId account
  if config.authenticator ≠ default then
    (0, revokeExplicitActor storage account actorId config,
      if isSelf then state.disableInlineSelf else state)
  else if ¬ isSelf ∨ state.defaultEoaRevoked then (3, storage, state)
  else
    let emptySlots := 1 +
      (if storage.policyManager account actorId = default then 1 else 0) +
      (if storage.policyCommitment account actorId = default then 1 else 0)
    (emptySlots, (storage.clearActorConfig account actorId).clearPolicy account actorId,
      state.disableInlineSelf)

end Actors

section Batches

variable (primitives : Primitives)

def advanceChannelSequence (channel : AccountChangeChannel) (sequence : BitVec 64)
    (state : AccountState) : Except ApplyError AccountState :=
  match channel with
  | .localChain =>
    let seq := sequence.toNat % 2 ^ 32
    if seq ≠ unsequenced then do
      let next ← Checked.add .sequenceSaturated seq 1
      return { state with localSequence := next }
    else if state.isInitialized = false then
      .ok { state with localSequence := 1 }
    else .ok state
  | .multichain => do
      let next ← Checked.add .sequenceSaturated state.multichainSequence 1
      return { state with multichainSequence := next }

variable (payload : Bytes)

/-- A new epoch starts its sequence over, so that what was signed for an older one is
worth nothing. -/
def applyIncrementLocalEpoch (state : AccountState) : Except ApplyError AccountState := do
  ensure (payload = []) .invalidChangePayload
  ensure (state.localEpoch ≠ 2 ^ 32 - 1) .epochSaturated
  return { state with localEpoch := state.localEpoch + 1, localSequence := 0 }

def decodeAuthorize : Except ApplyError (B256 × ActorConfig × Bytes) :=
  match primitives.decodeAuthorizeParams payload with
  | none => .error .malformedAuthorizeData
  | some (actorId, abi, policyData) =>
    .ok (actorId, ⟨abi.authenticator, abi.expiry.toNat, abi.scope⟩, policyData)

def decodeRevoke : Except ApplyError B256 := match primitives.decodeRevokeParams payload with
  | none => .error .malformedRevokeData
  | some actorId => .ok actorId

/-- What the operations of one batch share. -/
structure BatchContext where
  account : Address
  isUnsequenced : Bool
  isLocked : Bool
  now : Nat

variable (context : BatchContext) (storage : AccountConfiguration)

def BatchContext.lockedRules (actorId : B256) (config : ActorConfig) (policyData : Bytes)
    (state : AccountState) : Except ApplyError Unit :=
  if context.isLocked then
    enforceLockedAuthorizeRules storage context.account actorId config policyData state context.now
  else .ok ()

/-- One operation of a batch, with the number of slots that it finds empty. -/
def applySignedChange (change : SignedChange)
    (storage : AccountConfiguration) (state : AccountState) :
    Except ApplyError (Nat × AccountConfiguration × AccountState) :=
  match change.changeType with
  | .authorizeActor => do
      let (actorId, config, policyData) ← decodeAuthorize primitives change.payload
      -- a batch that can be replayed must not bring back a grant that has lapsed
      if context.isUnsequenced = true ∧ config.isExpired context.now = true then
        return (0, storage, state)
      else do
        context.lockedRules storage actorId config policyData state
        let (storage, state) ← authorizeActorWithAccountState storage context.account
          actorId config policyData state
        return (0, storage, state)
  | .revokeActor => do
      ensure (context.isLocked = false) .accountIsLocked
      let actorId ← decodeRevoke primitives change.payload
      return revokeActorWithAccountState storage context.account actorId state
  | .incrementLocalEpoch => do
      let state ← applyIncrementLocalEpoch change.payload state
      return (0, storage, state)
  | .lock | .unlock => .error .unknownChangeType

/-- The loop over the operations; the number of empty slots saturates. -/
def applySignedChanges (context : BatchContext) :
    List SignedChange → Nat → AccountConfiguration → AccountState →
      Except ApplyError (Nat × AccountConfiguration × AccountState)
  | [], discount, storage, state => .ok (discount, storage, state)
  | change :: rest, discount, storage, state => do
      let (emptySlots, storage, state) ← applySignedChange primitives context change storage state
      applySignedChanges context rest (min (discount + emptySlots) (2 ^ 32 - 1)) storage state

def applyConfigChangeWithAccountState
    (account : Address) (batch : SignedAccountChanges) (state : AccountState)
    (now : Nat) : Except ApplyError (Nat × AccountConfiguration × AccountState) := do
  ensure (batch.changes ≠ []) .emptyChangeSet
  let state ← advanceChannelSequence batch.channel batch.sequence state
  let isUnsequenced :=
    batch.channel = .localChain ∧ batch.sequence.toNat % 2 ^ 32 = unsequenced
  applySignedChanges primitives ⟨account, isUnsequenced, state.isLocked now, now⟩
    batch.changes 0 storage state

end Batches

section Create

variable (primitives : Primitives)

def validateCreateRuntime (bytecode : Bytes) : Except ApplyError Unit := do
  ensure (bytecode ≠ []) .emptyBytecode
  ensure (¬ maxCodeSize < bytecode.length) .createCodeExceedsMaxSize
  ensure (bytecode.getD 0 0 ≠ 0xEF) .createCodeStartsWithEf

def actorsCommitment (initialActors : List InitialActor) : B256 :=
  let leaves := initialActors.map fun actor =>
    primitives.keccak256 (actor.actorId.val ++ actor.authenticator.val ++
      beBytes 2 actor.scope.toNat ++ actor.policyData)
  primitives.keccak256 (leaves.map Subtype.val).flatten

def effectiveSalt (userSalt : B256) (initialActors : List InitialActor) : B256 :=
  primitives.keccak256 (userSalt.val ++ (actorsCommitment primitives initialActors).val)

/-- A loader that returns the code after it. -/
def buildDeploymentCode (bytecode : Bytes) : Except ApplyError Bytes := do
  ensure (bytecode.length ≠ 0) .emptyBytecode
  ensure (¬ 0xFFFF < bytecode.length) .bytecodeTooLarge
  let length := beBytes 2 bytecode.length
  return [0x61] ++ length ++ [0x60, 0x0E, 0x60, 0x00, 0x39, 0x61] ++ length ++
    [0x60, 0x00, 0xF3] ++ bytecode

/-- The address of a created account, as `CREATE2` derives it. -/
def computeAddress (userSalt : B256) (code : Bytes)
    (initialActors : List InitialActor) : Except ApplyError Address := do
  let deployment ← buildDeploymentCode code
  let preimage := [0xff] ++ accountConfigAddress.val ++
    (effectiveSalt primitives userSalt initialActors).val ++
    (primitives.keccak256 deployment).val
  return ⟨slice (primitives.keccak256 preimage).val 12 32, by simp⟩

/-- The actors in ascending order of their ids, the first above zero. -/
def initializeActorsFrom (account : Address) : List InitialActor → B256 →
    AccountConfiguration → Except ApplyError AccountConfiguration
  | [], _, storage => .ok storage
  | actor :: rest, previous, storage => do
      ensure (¬ beNat actor.actorId.val ≤ beNat previous.val) .actorsNotSortedOrDuplicate
      let storage ← authorizeActor storage account actor.actorId
        ⟨actor.authenticator, 0, actor.scope⟩ actor.policyData
      initializeActorsFrom account rest actor.actorId storage

variable (storage : AccountConfiguration)

def initializeActors (account : Address)
    (initialActors : List InitialActor) : Except ApplyError AccountConfiguration := do
  ensure (initialActors ≠ []) .noInitialActors
  initializeActorsFrom account initialActors default storage

structure CreatedAccount where
  address : Address
  code : Bytes

/-- A created account has code, so its own key is off unless an initial actor is that
key. -/
def applyCreate (entry : CreateEntry) :
    Except ApplyError (CreatedAccount × AccountConfiguration) := do
  validateCreateRuntime entry.code
  let address ← computeAddress primitives entry.userSalt entry.code entry.initialActors
  let state := storage.getAccountState address
  ensure (state.isInitialized = false) (.alreadyInitialized address)
  let storage := storage.setAccountState address
    { state with localSequence := 1, flags := defaultEoaRevokedFlag }
  let storage ← initializeActors storage address entry.initialActors
  return (⟨address, entry.code⟩, storage)

end Create

end Eip8130

end BaseChain
