/-
Pooled transactions with what validation attached to them, the lane or replay id
that sequences them, and the store they belong in.
-/
import BaseChain.RollupConfig

namespace BaseChain

abbrev TxHash := B256

/-- A piece of state that a pooled transaction depends on. -/
inductive InvalidationKey where
  | balance (account : Address)
  | protocolNonce (account : Address)
  | codeHash (account : Address)
  | slot (address : Address) (slot : B256)
  | expiryBucket (bucket : Nat)
deriving DecidableEq

def InvalidationKey.isThreshold : InvalidationKey → Bool
  | .balance _ => true
  | _ => false

def InvalidationKey.isExact (key : InvalidationKey) : Bool := !key.isThreshold

/-- How a transaction counts against the limits of its accounts, as validation
found them. -/
structure LimitClass where
  sender : Address
  payer : Address
  classificationGeneration : Nat
  senderLocked : Bool
  payerLocked : Bool
  payerTrusted : Bool
  payerBalance : Nat
  maxCost : Nat
deriving DecidableEq

inductive TransactionOrigin where
  | ownNode
  | external
  | privateOrigin
deriving DecidableEq

/-- The nonce key that stands for no nonce at all. -/
def nonceKeyMax : Nat := 2 ^ 256 - 1

/-- A validated transaction.  `nonceKey` is that of an EIP-8130 transaction and
missing for the other types; `replayHash` is what such a transaction is known by
when it has no nonce. -/
structure PoolTransaction where
  hash : TxHash
  sender : Address
  nonce : Nat
  hnonce : nonce < 2 ^ 64
  nonceKey : Option Nat
  replayHash : B256
  validBeforeMs : Nat
  maxFeePerGas : Nat
  priorityFeeOrPrice : Nat
  size : Nat
  origin : TransactionOrigin
  timestamp : Nat
  limitClass : Option LimitClass
  watchSet : Option (List InvalidationKey)
  validityConditions : Nat
  senderId : Nat
  authorityIds : Option (List Nat)
deriving DecidableEq

/-- A finite channel of a sender, by its nonce key. -/
abbrev LaneId := Address × Nat

namespace PoolTransaction

variable (transaction : PoolTransaction)

def isEip8130NonceFree : Bool := transaction.nonceKey = some nonceKeyMax

def eip8130NonceChannelKey : Option Nat :=
  transaction.nonceKey.filter fun key => key ≠ 0 && key ≠ nonceKeyMax

def eip8130ReplayId : Option B256 :=
  if transaction.isEip8130NonceFree then some transaction.replayHash else none

def isEip8130SidecarTransaction : Bool :=
  transaction.eip8130NonceChannelKey.isSome || transaction.eip8130ReplayId.isSome

/-- The payer, when another account than the sender pays. -/
def sponsor : Option Address := (transaction.limitClass.filter fun limit =>
    limit.payer ≠ transaction.sender).map LimitClass.payer

/-- The lane of a transaction that has a nonce. -/
def laneIdOf : Option LaneId := if transaction.isEip8130NonceFree then none
  else some (transaction.sender, transaction.eip8130NonceChannelKey.getD 0)

end PoolTransaction

inductive PoolStore where
  | protocol
  | sidecar
  | validity
deriving DecidableEq

def PoolStore.of (transaction : PoolTransaction) : PoolStore :=
  if transaction.validityConditions ≠ 0 then .validity
  else if transaction.isEip8130SidecarTransaction then .sidecar
  else .protocol

/-- What the pools refuse a transaction with. -/
inductive PoolErrorKind where
  | alreadyImported
  | replacementUnderpriced
  | feeCapBelowMinimumProtocolFeeCap (feeCap : Nat)
  | spammerExceededCapacity (sender : Address)
  | nonceNotConsistent (tx state : Nat)
  | discardedOnInsert
  | invalidTransaction
  | other (message : String)
deriving DecidableEq

structure PoolError where
  hash : TxHash
  kind : PoolErrorKind
deriving DecidableEq

end BaseChain
