/-
The storage of the account configuration contract and what it says about an actor.  The
slots of different accounts and actors are derived by hashing and are taken to be
different.  Reads and writes do not fail here, and event logs are left out.
-/
import BaseChain.AccountWords

namespace BaseChain

open Function

namespace Eip8130

/-- `address(1)`, which stands for native secp256k1 recovery. -/
def k1Authenticator : Address := ⟨beBytes 20 1, beBytes_length 20 1⟩

structure AccountConfiguration where
  actors : B256 → Address → B256
  accountState : Address → B256
  policyManager : Address → B256 → Address
  policyCommitment : Address → B256 → B256

/-- The id of an address: twelve zero bytes and the address. -/
def selfActorId (account : Address) : B256 := ⟨List.replicate 12 0 ++ account.val, by simp⟩

namespace AccountConfiguration

def empty : AccountConfiguration where
  actors _ _ := default
  accountState _ := default
  policyManager _ _ := default
  policyCommitment _ _ := default

variable (storage : AccountConfiguration) (account : Address) (actorId : B256)

def actorConfigSlot : ActorConfig := .fromWord (storage.actors actorId account)

def getAccountState : AccountState := .fromWord (storage.accountState account)

variable (state : AccountState)

/-- The inline key of an account as a configuration. -/
def inlineSelf : ActorConfig := ⟨k1Authenticator, state.defaultEoaExpiry, state.defaultEoaScope⟩

/-- A stored actor wins over the inline key. -/
def resolveActorConfig : ActorConfig :=
  let stored := storage.actorConfigSlot account actorId
  if stored.isEmpty = false then stored
  else if actorId = selfActorId account then
    let state := storage.getAccountState account
    if state.defaultEoaRevoked = false then inlineSelf state else .empty
  else .empty

/-- The inline key is read from a state in memory, which a batch writes at its end. -/
def resolveLiveActorConfigWithState (now : Nat) : ActorConfig :=
  let stored := storage.actorConfigSlot account actorId
  let config :=
    if stored.isEmpty = false then stored
    else if actorId = selfActorId account ∧ state.defaultEoaRevoked = false then
      inlineSelf state
    else .empty
  if config.isExpired now then .empty else config

def isInitialized : Bool := (storage.getAccountState account).isInitialized

def isLocked (now : Nat) : Bool := (storage.getAccountState account).isLocked now

def setActorConfig (config : ActorConfig) : AccountConfiguration :=
  { storage with
    actors := update storage.actors actorId
      (update (storage.actors actorId) account config.toWord) }

def clearActorConfig : AccountConfiguration := storage.setActorConfig account actorId .empty

def setAccountState : AccountConfiguration :=
  { storage with
    accountState := update storage.accountState account state.toWord }

def setPolicy (manager : Address) (commitment : B256) : AccountConfiguration :=
  { storage with
    policyManager := update storage.policyManager account
      (update (storage.policyManager account) actorId manager)
    policyCommitment := update storage.policyCommitment account
      (update (storage.policyCommitment account) actorId commitment) }

def clearPolicy : AccountConfiguration := storage.setPolicy account actorId default default

end AccountConfiguration

end Eip8130

end BaseChain
