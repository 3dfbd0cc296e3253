/-
From a blob to an authorized actor of an account, and the gate on signed batches of
account changes.
-/
import BaseChain.Authenticators

namespace BaseChain

open Checked

namespace Eip8130

def scopeOperator : BitVec 16 := 0x0001

def scopeSelfPayer : BitVec 16 := 0x0002

def scopeSponsorPayer : BitVec 16 := 0x0004

def scopePolicy : BitVec 16 := 0x0008

def scopeNonce : BitVec 16 := 0x0010

def nonceKeyMax : Nat := 2 ^ 256 - 1

def senderIsPolicyGated (scope : BitVec 16) : Bool :=
  scope &&& scopePolicy ≠ 0 ∧ scope &&& scopeOperator = 0

structure ResolvedActor where
  actorId : B256
  scope : BitVec 16
  policyTarget : Address
  expiry : Nat
deriving DecidableEq

variable (actor : ResolvedActor)

def ResolvedActor.isAdmin : Bool := actor.scope = 0

def ResolvedActor.canUseNonceKey (nonceKey : Nat) : Bool :=
  actor.scope = 0 ∨ nonceKey = nonceKeyMax ∨ actor.scope &&& scopeNonce ≠ 0

inductive Operation where
  | sender
  | selfPayer
  | sponsorPayer
  | config
deriving DecidableEq

def Operation.isGrantedBy (scope : BitVec 16) : Operation → Bool
  | .config => scope = 0
  | .sender => scope = 0 ∨ scope &&& scopeOperator ≠ 0 ∨ scope &&& scopePolicy ≠ 0
  | .selfPayer => scope = 0 ∨ scope &&& scopeSelfPayer ≠ 0
  | .sponsorPayer => scope = 0 ∨ scope &&& scopeSponsorPayer ≠ 0

inductive AuthorizeError where
  | authenticate (error : AuthError)
  | authenticationFailed
  | authenticatorMismatch (actorId : B256) (authenticator : Address)
  | defaultEoaRevoked (account : Address)
  | actorExpired (actorId : B256) (expiry : Nat)
  | nestedSignatureScope (actorId : B256)
deriving DecidableEq

variable (primitives : Primitives)

section Authorize

variable (storage : AccountConfiguration) (account : Address)

/-- The manager is only read for an actor whose sender role is gated by a policy. -/
def policyTarget (actorId : B256) (scope : BitVec 16) : Address :=
  if senderIsPolicyGated scope then storage.policyManager account actorId else default

def resolveBound (actorId : B256) (authenticator : Address)
    (now : Nat) : Except AuthorizeError ResolvedActor := do
  ensure (actorId ≠ default) .authenticationFailed
  let config := storage.actorConfigSlot account actorId
  ensure (config.authenticator = authenticator) (.authenticatorMismatch actorId authenticator)
  ensure (config.isExpired now = false) (.actorExpired actorId config.expiry)
  return ⟨actorId, config.scope, policyTarget storage account actorId config.scope, config.expiry⟩

variable (account recovered : Address)

/-- The key of the account itself is configured in the state of the account, every other
key in the table of actors. -/
def authorizeK1WithAccountState (now : Nat)
    (accountState : Option AccountState) : Except AuthorizeError ResolvedActor :=
  if selfActorId recovered = selfActorId account then do
    let state := accountState.getD (storage.getAccountState account)
    ensure (state.defaultEoaRevoked = false) (.defaultEoaRevoked account)
    ensure (¬ (state.defaultEoaExpiry ≠ 0 ∧ state.defaultEoaExpiry < now))
      (.actorExpired (selfActorId recovered) state.defaultEoaExpiry)
    return ⟨selfActorId recovered, state.defaultEoaScope,
      policyTarget storage account (selfActorId recovered) state.defaultEoaScope,
      state.defaultEoaExpiry⟩
  else resolveBound storage account (selfActorId recovered) k1Authenticator now

def authorizeK1 (now : Nat) : Except AuthorizeError ResolvedActor :=
  authorizeK1WithAccountState storage account recovered now none

/-- The recursion of the source, cut off at a depth.  A nested blob is checked not to
name the delegate authenticator again, so a depth of two is enough. -/
def authenticate (hash : B256) (now : Nat) : Nat → (account authenticator : Address) →
    Bytes → Option AccountState → Except AuthorizeError ResolvedActor
  | 0, _, _, _, _ => .error (.authenticate .nestedDelegate)
  | depth + 1, account, authenticator, data, accountState =>
    if authenticator = k1Authenticator then do
      let recovered ← (recoverK1 primitives hash data).mapError .authenticate
      authorizeK1WithAccountState storage account recovered now accountState
    else do
      let outcome ← (dispatchAuthenticate primitives hash authenticator data).mapError .authenticate
      match outcome with
      | .authenticated actorId =>
        resolveBound storage account actorId authenticator now
      | .delegated actorId delegateAccount => do
          let nestedAuth := data.drop 20
          ensure (addressPrefix nestedAuth ≠ delegateAuthenticator) (.authenticate .nestedDelegate)
          -- the delegate's own state is read from storage
          ensure (¬ nestedAuth.length < 20) (.authenticate .malformedAuth)
          let nested ← authenticate hash now depth delegateAccount
            (addressPrefix nestedAuth) (nestedAuth.drop 20) none
          ensure (nested.scope = 0) (.nestedSignatureScope nested.actorId)
          resolveBound storage account actorId delegateAuthenticator now

def authenticateActorWithAccountState (hash : B256) (auth : Bytes)
    (now : Nat) (accountState : Option AccountState) :
    Except AuthorizeError ResolvedActor := do
  ensure (¬ auth.length < 20) (.authenticate .malformedAuth)
  authenticate primitives storage hash now 2 account (addressPrefix auth)
    (auth.drop 20) accountState

def authenticateActor (hash : B256) (auth : Bytes) (now : Nat) :
    Except AuthorizeError ResolvedActor :=
  authenticateActorWithAccountState primitives storage account hash auth now none

end Authorize

inductive ApplyError where
  | malformedAuthorizeData
  | malformedRevokeData
  | invalidChangePayload
  | epochSaturated
  | unknownChangeType
  | accountIsLocked
  | expiryDoesNotOutliveUnlock
  | emptyChangeSet
  | invalidActorId
  | invalidAuthenticator
  | invalidPolicyData
  | noInitialActors
  | actorsNotSortedOrDuplicate
  | emptyBytecode
  | bytecodeTooLarge
  | createCodeExceedsMaxSize
  | createCodeStartsWithEf
  | alreadyInitialized (account : Address)
  | createAddressMismatch (derived sender : Address)
  | invalidCreatePosition
  | multipleDelegations
  | createAndDelegation
  | sequenceSaturated
deriving DecidableEq

inductive TxAuthError where
  | authorize (error : AuthorizeError)
  | apply (error : ApplyError)
  | senderRecovery
  | payerRecovery
  | scope (operation : Operation) (scope : BitVec 16)
  | accountIsLocked
  | delegationUnauthorized
  | badSequence (expected got : Nat)
  | staleEpoch (expected got : Nat)
  | sequenceSaturated
deriving DecidableEq

section Batches

variable (batch : SignedAccountChanges)

/-- The high half of a local sequence word. -/
def SignedAccountChanges.epoch : Nat := (batch.sequence >>> 32).toNat % 2 ^ 32

/-- The low half of a local sequence word. -/
def SignedAccountChanges.localSequence : Nat := batch.sequence.toNat % 2 ^ 32

def checkChannelSequence (state : AccountState) : Except TxAuthError Unit :=
  match batch.channel with
  | .localChain => do
      ensure (batch.epoch = state.localEpoch) (.staleEpoch state.localEpoch batch.epoch)
      -- an unsequenced batch consumes no counter
      if batch.localSequence ≠ unsequenced then do
        ensure (batch.localSequence = state.localSequence)
          (.badSequence state.localSequence batch.localSequence)
        ensure (¬ unsequenced - 1 ≤ batch.localSequence) .sequenceSaturated
      else .ok ()
  | .multichain => do
      ensure (batch.sequence.toNat = state.multichainSequence)
        (.badSequence state.multichainSequence batch.sequence.toNat)
      ensure (batch.sequence.toNat ≠ 2 ^ 64 - 1) .sequenceSaturated

def accountChangeTypehash : B256 :=
  ⟨beBytes 32 0x681f8ef00ffa856a78cc6a384ed51300e5805fdf59f4567ee51634dc39e0cb43,
    beBytes_length 32 _⟩

def signedAccountChangesTypehash : B256 :=
  ⟨beBytes 32 0xbee0c72c3efba751405b4c241f52736439f7e1e2a804925d36ddc9a6e1aa3614,
    beBytes_length 32 _⟩

/-- The digest that a batch is signed over. -/
def changesDigest (account : Address) (localChainId : Nat) (batch : SignedAccountChanges) : B256 :=
  let chainId := match batch.channel with
    | .localChain => localChainId
    | .multichain => 0
  let leaves := batch.changes.map fun change =>
    primitives.keccak256 (accountChangeTypehash.val ++ List.replicate 31 0 ++
      [change.changeType.opByte] ++ (primitives.keccak256 change.payload).val)
  let changesHash := primitives.keccak256 (leaves.map Subtype.val).flatten
  primitives.keccak256 (signedAccountChangesTypehash.val ++ List.replicate 12 0 ++
    account.val ++ List.replicate 24 0 ++ beBytes 8 chainId ++ List.replicate 24 0 ++
    beBytes 8 batch.sequence.toNat ++ changesHash.val)

/-- Only an unrestricted actor signs changes of the configuration. -/
def authorizeWithAccountState (storage : AccountConfiguration) (account : Address)
    (localChainId : Nat) (batch : SignedAccountChanges) (now : Nat)
    (state : AccountState) : Except TxAuthError ResolvedActor := do
  checkChannelSequence batch state
  let digest := changesDigest primitives account localChainId batch
  let resolved ← (authenticateActorWithAccountState primitives storage account digest
    batch.signature now (some state)).mapError .authorize
  ensure (Operation.isGrantedBy resolved.scope .config = true) (.scope .config resolved.scope)
  return resolved

end Batches

end Eip8130

end BaseChain
