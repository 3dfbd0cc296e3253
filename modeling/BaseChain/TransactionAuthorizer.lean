/-
The authorization of a whole transaction.  Its account changes are authorized and applied
one after the other against the state that evolves, and the sender and the payer are
authenticated at the end.
-/
import BaseChain.AccountChanges

namespace BaseChain

open Checked

namespace Eip8130

structure AuthorizedActor where
  account : Address
  resolved : ResolvedActor

structure TxActors where
  sender : AuthorizedActor
  payer : Option AuthorizedActor

structure DelegationEffect where
  account : Address
  target : Address

structure AppliedAccountChanges where
  created : Option CreatedAccount
  delegation : Option DelegationEffect

structure AppliedTransaction where
  actors : TxActors
  configChanges : List ResolvedActor
  applied : AppliedAccountChanges
  revokeDiscountSlots : Nat

variable (primitives : Primitives)

section Verify

variable (storage : AccountConfiguration)

def authorizeScoped (account : Address) (hash : B256) (auth : Bytes)
    (operation : Operation) (now : Nat) : Except TxAuthError ResolvedActor := do
  let resolved ← (authenticateActor primitives storage account hash auth now).mapError .authorize
  ensure (operation.isGrantedBy resolved.scope = true) (.scope operation resolved.scope)
  return resolved

variable (signed : Eip8130Signed)

/-- The sender that the transaction names, or else the one that was recovered. -/
def verifySender (now : Nat) (recoveredSender : Address) : Except TxAuthError AuthorizedActor :=
  match signed.tx.sender with
  | some account => do
      let resolved ← authorizeScoped primitives storage account
        (primitives.senderSignatureHash signed.tx) signed.senderAuth .sender now
      ensure (resolved.canUseNonceKey signed.tx.nonceKey = true) (.scope .sender resolved.scope)
      return ⟨account, resolved⟩
  | none => do
      let resolved ← (authorizeK1 storage recoveredSender recoveredSender now).mapError .authorize
      ensure (Operation.isGrantedBy resolved.scope .sender = true) (.scope .sender resolved.scope)
      ensure (resolved.canUseNonceKey signed.tx.nonceKey = true) (.scope .sender resolved.scope)
      return ⟨recoveredSender, resolved⟩

/-- Paying for oneself and paying for somebody else are different grants. -/
def payerOperation (account sender : Address) : Operation :=
  if account = sender then .selfPayer else .sponsorPayer

def verifyPayer (now : Nat) (sender : AuthorizedActor) :
    Except TxAuthError (Option AuthorizedActor) :=
  match signed.tx.payer with
  | none => do
      ensure (Operation.isGrantedBy sender.resolved.scope .selfPayer = true)
        (.scope .selfPayer sender.resolved.scope)
      return none
  | some account =>
    let hash := primitives.payerSignatureHash signed.tx sender.account
    if signed.tx.isOpenPayer then do
      let recovered ← (recoverK1 primitives hash signed.payerAuth).mapError fun _ => .payerRecovery
      let resolved ← (authorizeK1 storage recovered recovered now).mapError .authorize
      let operation := payerOperation recovered sender.account
      ensure (operation.isGrantedBy resolved.scope = true) (.scope operation resolved.scope)
      return some ⟨recovered, resolved⟩
    else do
      let resolved ← authorizeScoped primitives storage account hash signed.payerAuth
        (payerOperation account sender.account) now
      return some ⟨account, resolved⟩

def verifyWithRecoveredSender (now : Nat)
    (recoveredSender : Address) : Except TxAuthError TxActors := do
  let sender ← verifySender primitives storage signed now recoveredSender
  let payer ← verifyPayer primitives storage signed now sender
  return ⟨sender, payer⟩

/-- A delegation is up to an unrestricted actor of an account that is not locked. -/
def authorizeDelegation (now : Nat) (sender : AuthorizedActor) : Except TxAuthError Unit := do
  ensure (storage.isLocked sender.account now = false) .accountIsLocked
  ensure (sender.resolved.isAdmin = true) .delegationUnauthorized

end Verify

section Apply

variable (signed : Eip8130Signed)

/-- The account that the changes are about: the sender that the transaction names, or
else the one whose signature it carries. -/
def senderAccount : Except TxAuthError Address := match signed.tx.sender with
  | some account => .ok account
  | none => match recoverEoaSender primitives signed with
    | .ok (some recovered) => .ok recovered
    | _ => .error .senderRecovery

/-- How far the walk over the account changes has come. -/
structure Progress where
  storage : AccountConfiguration
  applied : AppliedAccountChanges
  configChanges : List ResolvedActor
  revokeDiscountSlots : Nat

def Progress.start (storage : AccountConfiguration) : Progress := ⟨storage, ⟨none, none⟩, [], 0⟩

def applyCreateEntry (account : Address) (index : Nat) (entry : CreateEntry)
    (progress : Progress) : Except TxAuthError Progress := do
  ensure (progress.applied.delegation.isSome = false) (.apply .createAndDelegation)
  ensure (¬ (index ≠ 0 ∨ progress.applied.created.isSome = true)) (.apply .invalidCreatePosition)
  let (created, storage) ← (applyCreate primitives progress.storage entry).mapError .apply
  ensure (created.address = account) (.apply (.createAddressMismatch created.address account))
  return { progress with
    storage := storage
    applied := { progress.applied with created := some created } }

variable (localChainId now : Nat)

def applyConfigEntry (account : Address) (batch : SignedAccountChanges) (progress : Progress) :
    Except TxAuthError Progress := do
  let state := progress.storage.getAccountState account
  let resolved ← authorizeWithAccountState primitives progress.storage account
    localChainId batch now state
  let (discount, storage, state) ← (applyConfigChangeWithAccountState primitives
    progress.storage account batch state now).mapError .apply
  return { progress with
    storage := storage.setAccountState account state
    configChanges := progress.configChanges ++ [resolved]
    revokeDiscountSlots := min (progress.revokeDiscountSlots + discount) (2 ^ 32 - 1) }

def applyDelegationEntry (account target : Address) (progress : Progress) :
    Except TxAuthError Progress := do
  ensure (progress.applied.delegation.isSome = false) (.apply .multipleDelegations)
  ensure (progress.applied.created.isSome = false) (.apply .createAndDelegation)
  return { progress with
    applied := { progress.applied with delegation := some ⟨account, target⟩ } }

def applyAccountChange (account : Address) (index : Nat)
    (progress : Progress) : AccountChange → Except TxAuthError Progress
  | .create entry => applyCreateEntry primitives account index entry progress
  | .configChange batch =>
    applyConfigEntry primitives localChainId now account batch progress
  | .delegation target => applyDelegationEntry account target progress

def applyAccountChanges (localChainId now : Nat) (account : Address) :
    List AccountChange → Nat → Progress → Except TxAuthError Progress
  | [], _, progress => .ok progress
  | change :: rest, index, progress => do
      let progress ← applyAccountChange primitives localChainId now account index progress change
      applyAccountChanges localChainId now account rest (index + 1) progress

def checkDelegation (progress : Progress) (now : Nat) (sender : AuthorizedActor) :
    Except TxAuthError Unit :=
  if progress.applied.delegation.isSome then
    authorizeDelegation progress.storage now sender
  else .ok ()

/-- Authorize a transaction and apply its account changes.  After an error the caller
drops everything that was written. -/
def authorizeAndApply (storage : AccountConfiguration) (localChainId now : Nat) :
    Except TxAuthError (AppliedTransaction × AccountConfiguration) := do
  let account ← senderAccount primitives signed
  let progress ← applyAccountChanges primitives localChainId now account
    signed.tx.accountChanges 0 (.start storage)
  let actors ← verifyWithRecoveredSender primitives progress.storage signed now account
  checkDelegation progress now actors.sender
  return (⟨actors, progress.configChanges, progress.applied,
    progress.revokeDiscountSlots⟩, progress.storage)

end Apply

end Eip8130

end BaseChain
