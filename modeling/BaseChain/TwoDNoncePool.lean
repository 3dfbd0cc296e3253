/-
The pool of nonce lanes and nonce-free transactions, with the indexes it keeps
beside them.  Hash maps are finite maps; where the order of one decides what comes
first, that order is given from outside.
-/
import BaseChain.NonceLane
import Mathlib.Data.List.Lex
import Mathlib.Data.Prod.Lex
import Mathlib.Data.Finset.Max

namespace BaseChain

/-- Transactions whose state changed when a lane cursor moved. -/
structure LaneUpdate where
  discarded : List PoolTransaction
  promoted : List PoolTransaction
  queued : List PoolTransaction

namespace LaneUpdate

def empty : LaneUpdate := ⟨[], [], []⟩

def extend (update other : LaneUpdate) : LaneUpdate :=
  ⟨update.discarded ++ other.discarded, update.promoted ++ other.promoted,
    update.queued ++ other.queued⟩

end LaneUpdate

inductive AddedTransactionState where
  | pending
  | queued
deriving DecidableEq

structure InsertOutcome where
  hash : TxHash
  state : AddedTransactionState
  replaced : Option PoolTransaction
  anchor : LaneUpdate
  promoted : List PoolTransaction

structure PruneMinedOutcome where
  removed : List PoolTransaction
  lanes : LaneUpdate

/-- The configuration of a pool; the capacity test, the test for a local sender
and the price bump rule come with the pool library. -/
structure PoolRules where
  isExceeded : Nat → Nat → Bool
  maxAccountSlots : Nat
  minimalProtocolBasefee : Nat
  isLocal : TransactionOrigin → Address → Bool
  isReplacementUnderpriced : PoolTransaction → PoolTransaction → Bool
  protocolNonceLanes : Bool

/-- Identifiers of the addresses that pooled transactions refer to, with the
number of references. -/
structure SidecarSenderIds where
  nextId : Nat
  ids : Table Address (Nat × Nat)
  addresses : Table Nat Address

namespace SidecarSenderIds

def empty : SidecarSenderIds := ⟨0, ∅, ∅⟩

variable (senderIds : SidecarSenderIds)

def acquire (address : Address) : Nat × SidecarSenderIds := match senderIds.ids.lookup address with
  | some (id, references) =>
    (id, { senderIds with
      ids := senderIds.ids.insert address (id, references + 1) })
  | none =>
    (senderIds.nextId,
      { nextId := (senderIds.nextId + 1) % 2 ^ 64,
        ids := senderIds.ids.insert address (senderIds.nextId, 1),
        addresses := senderIds.addresses.insert senderIds.nextId address })

/-- Drop one reference; with the last one the id is free again. -/
def release (id : Nat) : SidecarSenderIds := match senderIds.addresses.lookup id with
  | none => senderIds
  | some address =>
    match senderIds.ids.lookup address with
    | none => senderIds
    | some (held, references) =>
      if references - 1 = 0 then
        { senderIds with
          ids := senderIds.ids.erase address,
          addresses := senderIds.addresses.erase id }
      else
        { senderIds with
          ids := senderIds.ids.insert address (held, references - 1) }

end SidecarSenderIds

structure SidecarUsage where
  size : Nat
  perSender : Table Address Nat
  senderIds : SidecarSenderIds

namespace SidecarUsage

def empty : SidecarUsage := ⟨0, ∅, .empty⟩

variable (usage : SidecarUsage)

def senderCount (sender : Address) : Nat := (usage.perSender.lookup sender).getD 0

variable (transaction : PoolTransaction)

def add : SidecarUsage :=
  { usage with
    size := usage.size + transaction.size,
    perSender := usage.perSender.insert transaction.sender
      (usage.senderCount transaction.sender + 1) }

/-- One transaction less of a sender, who is forgotten with the last. -/
def dropSender (perSender : Table Address Nat) (sender : Address) : Table Address Nat :=
  match perSender.lookup sender with
  | none => perSender
  | some count =>
    if count - 1 = 0 then perSender.erase sender
    else perSender.insert sender (count - 1)

def remove :
    SidecarUsage :=
  { size := usage.size - transaction.size,
    perSender := dropSender usage.perSender transaction.sender,
    senderIds := (transaction.authorityIds.getD []).foldl
      SidecarSenderIds.release (usage.senderIds.release transaction.senderId) }

end SidecarUsage

/-- The rank of an eviction candidate; the smallest goes first. -/
structure EvictionKey where
  pending : Bool
  isLocal : Bool
  maxFeePerGas : Nat
  received : Nat
  hash : TxHash
deriving DecidableEq

namespace EvictionKey

/-- Queued before pending, others before local, the lowest fee cap, then the most
recently received. -/
def rank (key : EvictionKey) : Bool ×ₗ Bool ×ₗ Nat ×ₗ Natᵒᵈ ×ₗ List Nat :=
  toLex (key.pending, toLex (key.isLocal, toLex (key.maxFeePerGas,
    toLex (OrderDual.toDual key.received, key.hash.val.map UInt8.toNat))))

theorem rank_injective : Function.Injective rank := by
  intro left right hsame
  have htuple := congrArg (fun rank => ofLex rank) hsame
  simp only [rank, Prod.mk.injEq, EmbeddingLike.apply_eq_iff_eq] at htuple
  obtain ⟨hpend, hlocal, hfee, hreceived, hhash⟩ := htuple
  have hbytes := List.map_injective_iff.mpr (fun _ _ => UInt8.toNat_inj.mp) hhash
  cases left
  cases right
  simp_all [FixedBytes.ext_iff]

instance : LinearOrder EvictionKey := LinearOrder.lift' rank rank_injective

end EvictionKey

structure TwoDNoncePool where
  lanes : Table LaneId NonceLane
  nonceFree : Table B256 PoolTransaction
  hashes : Table TxHash PoolTransaction
  usage : SidecarUsage
  evictionOrder : Finset EvictionKey
  laneCandidates : Table LaneId EvictionKey
  aheadOfState : Table LaneId Nat
  sharedLanes : Finset LaneId

variable (rules : PoolRules)

namespace TwoDNoncePool

def new : TwoDNoncePool := ⟨∅, ∅, ∅, .empty, ∅, ∅, ∅, ∅⟩

variable (pool : TwoDNoncePool)

def contains (hash : TxHash) : Bool := hash ∈ pool.hashes

section Rules

variable (transaction : PoolTransaction)

/-- The nonce key of the lane that a transaction is sequenced in. -/
def laneKey : Option Nat := if transaction.isEip8130NonceFree then none
  else
    match transaction.eip8130NonceChannelKey with
    | some key => some key
    | none => if rules.protocolNonceLanes then some 0 else none

variable (pool : TwoDNoncePool)

def ensureAdmissible (transaction : PoolTransaction)
    (isReplacement fillsExistingLaneHead : Bool) : Except PoolError Unit :=
  if transaction.maxFeePerGas < rules.minimalProtocolBasefee then
    .error ⟨transaction.hash, .feeCapBelowMinimumProtocolFeeCap transaction.maxFeePerGas⟩
  else if !isReplacement && !fillsExistingLaneHead &&
      !rules.isLocal transaction.origin transaction.sender &&
      rules.maxAccountSlots ≤ pool.usage.senderCount transaction.sender then
    .error ⟨transaction.hash, .spammerExceededCapacity transaction.sender⟩
  else .ok ()

def evictionKey (pending : Bool) : EvictionKey :=
  { pending, isLocal := rules.isLocal transaction.origin transaction.sender,
    maxFeePerGas := transaction.maxFeePerGas, received := transaction.timestamp,
    hash := transaction.hash }

/-- The key of the last member of a lane. -/
def tailKey (lane : NonceLane) : Option EvictionKey :=
  lane.last.map fun entry => evictionKey rules entry.2 lane.isFullyPending

variable (laneId : LaneId)

/-- Take back what the indexes say about a lane's last member. -/
def dropCandidate : TwoDNoncePool := match pool.laneCandidates.lookup laneId with
  | none => pool
  | some previous =>
    { pool with
      laneCandidates := pool.laneCandidates.erase laneId,
      evictionOrder := pool.evictionOrder.erase previous }

def rankCandidate (lane : NonceLane) :
    TwoDNoncePool :=
  match tailKey rules lane with
  | none => pool
  | some key =>
    { pool with
      evictionOrder := insert key pool.evictionOrder,
      laneCandidates := pool.laneCandidates.insert laneId key }

/-- Bring every index in line with a lane after it changed. -/
def refreshLaneIndexes :
    TwoDNoncePool :=
  let pool := pool.dropCandidate laneId
  match pool.lanes.lookup laneId with
  | none =>
    { pool with
      aheadOfState := pool.aheadOfState.erase laneId,
      sharedLanes := pool.sharedLanes.erase laneId }
  | some lane =>
    rankCandidate rules
      { pool with
        aheadOfState := if lane.stateNonce < lane.nextNonce then
            pool.aheadOfState.insert laneId lane.stateNonce
          else pool.aheadOfState.erase laneId }
      laneId lane

/-- Assign the ids of the sender and of a sponsor. -/
def acquireIds (senderIds : SidecarSenderIds) (transaction : PoolTransaction) :
    PoolTransaction × SidecarSenderIds :=
  let (senderId, senderIds) := senderIds.acquire transaction.sender
  match transaction.sponsor with
  | none => ({ transaction with senderId, authorityIds := none }, senderIds)
  | some payer =>
    let (payerId, senderIds) := senderIds.acquire payer
    ({ transaction with senderId, authorityIds := some [payerId] }, senderIds)

/-- Take a transaction out of the hashes and the totals. -/
def forget (transaction : PoolTransaction) :
    TwoDNoncePool :=
  { pool with
    hashes := pool.hashes.erase transaction.hash,
    usage := pool.usage.remove transaction }

def forgetReplaced : Option PoolTransaction → TwoDNoncePool
  | none => pool
  | some existing => pool.forget existing

/-- The members whose state a cursor move can have changed. -/
def changedMembers (oldLane newLane : NonceLane) : List (Nat × PoolTransaction) :=
  newLane.range (min oldLane.nextNonce newLane.nextNonce)
      (some (max oldLane.nextNonce newLane.nextNonce)) ++
    match oldLane.runEnd, newLane.runEnd with
    | some oldEnd, some newEnd =>
      newLane.range (min oldEnd newEnd) (some (max oldEnd newEnd))
    | some bound, none => newLane.range bound none
    | none, some bound => newLane.range bound none
    | none, none => []

/-- The lanes after one lane was stored, or removed when it had no members. -/
def lanesWith (lanes : Table LaneId NonceLane) (laneId : LaneId)
    (lane : NonceLane) : Table LaneId NonceLane :=
  if lane.transactions = ∅ then lanes.erase laneId else lanes.insert laneId lane

def putLane (lane : NonceLane) :
    TwoDNoncePool :=
  { pool with lanes := lanesWith pool.lanes laneId lane }

/-- Move a lane to a cursor, in either direction. -/
def setLaneCursor (cursor : LaneCursor) : LaneUpdate × TwoDNoncePool :=
  match pool.lanes.lookup laneId with
  | none => (.empty, pool)
  | some lane =>
    if lane.cursor = cursor then (.empty, pool)
    else
      let anchored := { lane with stateNonce := cursor.stateNonce }
      if lane.nextNonce = cursor.nextNonce then
        (.empty, refreshLaneIndexes rules
          { pool with lanes := pool.lanes.insert laneId anchored } laneId)
      else
        let (stale, moved) := anchored.setNextNonce cursor.nextNonce
        let discarded := stale.inOrder.map Prod.snd
        let changed := changedMembers lane moved
        ({ discarded,
           promoted := (changed.filter fun entry =>
             !lane.isPending entry.1 && moved.isPending entry.1).map Prod.snd,
           queued := (changed.filter fun entry =>
             lane.isPending entry.1 && !moved.isPending entry.1).map Prod.snd },
          refreshLaneIndexes rules ((discarded.foldl forget pool).putLane laneId moved) laneId)

/-- Move a lane's anchor forward, if it is not there yet. -/
def advanceLaneNonce (nonce : Nat) : LaneUpdate × TwoDNoncePool :=
  match pool.lanes.lookup laneId with
  | none => (.empty, pool)
  | some lane =>
    if lane.stateNonce < nonce then
      setLaneCursor rules pool laneId ⟨nonce, max lane.nextNonce nonce⟩
    else (.empty, pool)

/-- Insert a transaction without a nonce, in the place of one with its replay
id. -/
def storeNonceFree (transaction : PoolTransaction)
    (replayId : B256) (replaced : Option PoolTransaction) : TwoDNoncePool :=
  let (transaction, senderIds) := acquireIds pool.usage.senderIds transaction
  let acquired := { pool with usage := { pool.usage with senderIds } }
  let cleared :=
    match replaced with
    | none => acquired
    | some existing =>
      { acquired.forget existing with
        evictionOrder := acquired.evictionOrder.erase (evictionKey rules existing true) }
  { cleared with
    nonceFree := cleared.nonceFree.insert replayId transaction,
    usage := cleared.usage.add transaction,
    evictionOrder := insert (evictionKey rules transaction true) cleared.evictionOrder,
    hashes := cleared.hashes.insert transaction.hash transaction }

def insertNonceFree (transaction : PoolTransaction)
    (replayId : B256) : Except PoolError (InsertOutcome × TwoDNoncePool) :=
  let replaced := pool.nonceFree.lookup replayId
  match ensureAdmissible rules pool transaction replaced.isSome false with
  | .error error => .error error
  | .ok () =>
    if replaced.any fun existing =>
        rules.isReplacementUnderpriced existing transaction then
      .error ⟨transaction.hash, .replacementUnderpriced⟩
    else
      .ok ({ hash := transaction.hash, state := .pending, replaced,
             anchor := .empty, promoted := [] },
        storeNonceFree rules pool transaction replayId replaced)

/-- The lane of an insertion after its cursor was anchored. -/
def laneOrNew (cursor : LaneCursor) :
    NonceLane :=
  (pool.lanes.lookup laneId).getD (.new cursor ∅)

/-- Insert a transaction into its lane, which is anchored at the cursor first. -/
def storeInLane (transaction : PoolTransaction)
    (laneId : LaneId) (cursor : LaneCursor) (replaced : Option PoolTransaction) :
    InsertOutcome × TwoDNoncePool :=
  let (transaction, senderIds) := acquireIds pool.usage.senderIds transaction
  let (anchor, pool) := setLaneCursor rules
    { pool with usage := { pool.usage with senderIds } } laneId cursor
  let lane := pool.laneOrNew laneId cursor
  let inserted := (lane.insert transaction.nonce transaction).2
  let stored :=
    { pool with
      lanes := pool.lanes.insert laneId inserted,
      hashes := pool.hashes.insert transaction.hash transaction,
      usage := pool.usage.add transaction }
  ({ hash := transaction.hash,
     state := if inserted.isPending transaction.nonce then .pending else .queued,
     replaced, anchor,
     promoted := ((inserted.range (lane.nextNonce + lane.pendingLen)
       inserted.runEnd).map Prod.snd).filter fun candidate =>
         candidate.hash ≠ transaction.hash },
    refreshLaneIndexes rules (stored.forgetReplaced replaced) laneId)

def insertInLane (transaction : PoolTransaction) (nonceKey : Nat) (cursor : LaneCursor) :
    Except PoolError (InsertOutcome × TwoDNoncePool) :=
  let laneId := (transaction.sender, nonceKey)
  let existingLane := (pool.lanes.lookup laneId).filter fun lane =>
    lane.transactions ≠ ∅
  let isReplacement := existingLane.any fun lane =>
    transaction.nonce ∈ lane.transactions
  let fillsExistingLaneHead :=
    existingLane.isSome && transaction.nonce = cursor.nextNonce
  match ensureAdmissible rules pool transaction isReplacement
      fillsExistingLaneHead with
  | .error error => .error error
  | .ok () =>
    if transaction.nonce < cursor.nextNonce then
      .error ⟨transaction.hash, .nonceNotConsistent transaction.nonce cursor.nextNonce⟩
    else
      let replaced := (pool.lanes.lookup laneId).bind fun lane =>
        lane.transactions.lookup transaction.nonce
      if replaced.any fun existing =>
          rules.isReplacementUnderpriced existing transaction then
        .error ⟨transaction.hash, .replacementUnderpriced⟩
      else .ok (storeInLane rules pool transaction laneId cursor replaced)

/-- Insert a validated transaction with its lane anchored at a cursor.  A refused
one changes nothing. -/
def insertValidatedAt (transaction : PoolTransaction)
    (cursor : LaneCursor) : Except PoolError (InsertOutcome × TwoDNoncePool) :=
  if pool.contains transaction.hash then
    .error ⟨transaction.hash, .alreadyImported⟩
  else
    match transaction.eip8130ReplayId with
    | some replayId => insertNonceFree rules pool transaction replayId
    | none =>
      match laneKey rules transaction with
      | none => .error ⟨transaction.hash, .other
          "2D nonce pool only accepts channelized EIP-8130 transactions"⟩
      | some nonceKey => insertInLane rules pool transaction nonceKey cursor

variable (hash : TxHash)

def removeNonceFree (replayId : B256) : Option PoolTransaction × TwoDNoncePool :=
  match pool.nonceFree.lookup replayId with
  | none => (none, pool)
  | some transaction =>
    (some transaction,
      { pool with
        nonceFree := pool.nonceFree.erase replayId,
        hashes := pool.hashes.erase hash,
        usage := pool.usage.remove transaction,
        evictionOrder := pool.evictionOrder.erase (evictionKey rules transaction true) })

def removeFromLane (laneId : LaneId) (nonce : Nat) : Option PoolTransaction × TwoDNoncePool :=
  match pool.lanes.lookup laneId with
  | none => (none, pool)
  | some lane =>
    match lane.remove nonce with
    | (none, _) => (none, pool)
    | (some transaction, lane) =>
      (some transaction, refreshLaneIndexes rules
          { pool.putLane laneId lane with
            hashes := pool.hashes.erase hash,
            usage := pool.usage.remove transaction } laneId)

def removeHash : Option PoolTransaction × TwoDNoncePool := match pool.hashes.lookup hash with
  | none => (none, pool)
  | some transaction =>
    match transaction.eip8130ReplayId with
    | some replayId => removeNonceFree rules pool hash replayId
    | none =>
      match laneKey rules transaction with
      | none => (none, pool)
      | some nonceKey =>
        removeFromLane rules pool hash (transaction.sender, nonceKey) transaction.nonce

/-- Remove exactly the named transactions. -/
def removeTransactions (pool : TwoDNoncePool) : List TxHash → List PoolTransaction × TwoDNoncePool
  | [] => ([], pool)
  | hash :: hashes =>
    let (removed, pool) := removeHash rules pool hash
    let (others, pool) := removeTransactions pool hashes
    (removed.toList ++ others, pool)

/-- The hashes of a transaction's lane from its nonce on, or its own when it has
no nonce. -/
def descendantHashes : List TxHash := match pool.hashes.lookup hash with
  | none => []
  | some transaction =>
    if transaction.isEip8130NonceFree then [hash]
    else
      match laneKey rules transaction with
      | none => []
      | some nonceKey =>
        match pool.lanes.lookup (transaction.sender, nonceKey) with
        | none => []
        | some lane =>
          (lane.range transaction.nonce none).map fun entry =>
            entry.2.hash

def removeTransactionsAndDescendants (pool : TwoDNoncePool) :
    List TxHash → List PoolTransaction × TwoDNoncePool
  | [] => ([], pool)
  | hash :: hashes =>
    let (removed, pool) := removeTransactions rules pool (descendantHashes rules pool hash)
    let (others, pool) := removeTransactionsAndDescendants pool hashes
    (removed ++ others, pool)

/-- Evict the lowest ranks until the pool fits.  Every round takes a transaction
out, so there are no more rounds than transactions. -/
def evictRounds (pool : TwoDNoncePool) : Nat → List PoolTransaction × TwoDNoncePool
  | 0 => ([], pool)
  | rounds + 1 =>
    if rules.isExceeded pool.hashes.keys.card pool.usage.size then
      if h : pool.evictionOrder.Nonempty then
        match removeHash rules pool (pool.evictionOrder.min' h).hash with
        | (none, pool) => ([], pool)
        | (some transaction, pool) =>
          let (others, pool) := evictRounds pool rounds
          (transaction :: others, pool)
      else ([], pool)
    else ([], pool)

def evictOverCapacity : List PoolTransaction × TwoDNoncePool :=
  evictRounds rules pool pool.hashes.keys.card

end Rules

def markSharedLane (laneId : LaneId) : TwoDNoncePool := if laneId ∈ pool.lanes then
    { pool with sharedLanes := insert laneId pool.sharedLanes }
  else pool

def unmarkSharedLane (laneId : LaneId) : TwoDNoncePool :=
  { pool with sharedLanes := pool.sharedLanes.erase laneId }

end TwoDNoncePool

/-- An order in which a hash map is gone through. -/
structure Traversal where
  visit {κ ν : Type} [DecidableEq κ] : Table κ ν → List (κ × ν)
  mem_visit {κ ν : Type} [DecidableEq κ] {table : Table κ ν} {key : κ}
    {value : ν} : (key, value) ∈ visit table ↔ table.lookup key = some value

namespace TwoDNoncePool

section Rules

variable (traversal : Traversal) (pool : TwoDNoncePool)

/-- Remove the nonce-free transactions whose validity ends by `now`, in
milliseconds. -/
def removeExpiredNonceFree (now : Nat) : List PoolTransaction × TwoDNoncePool :=
  let expired := (traversal.visit pool.nonceFree).filterMap fun entry =>
    if entry.2.nonceKey.isSome && entry.2.validBeforeMs ≤ now then
      some entry.2.hash
    else none
  removeTransactions rules pool expired

def removeTransactionsBySender (sender : Address) : List PoolTransaction × TwoDNoncePool :=
  removeTransactions rules pool (((traversal.visit pool.hashes).filter fun entry =>
      entry.2.sender = sender).map fun entry => entry.2.hash)

/-- A mined transaction of a lane. -/
structure MinedEntry where
  laneId : LaneId
  nonce : Nat
  hash : TxHash

def MinedEntry.rank (entry : MinedEntry) : List Nat ×ₗ Nat ×ₗ Nat ×ₗ List Nat :=
  toLex (entry.laneId.1.val.map UInt8.toNat, toLex (entry.laneId.2,
    toLex (entry.nonce, entry.hash.val.map UInt8.toNat)))

variable (hashes : List TxHash)

/-- The mined transactions that a lane holds, ordered by lane and nonce. -/
def minedEntries : List MinedEntry := (hashes.filterMap fun hash =>
    (pool.hashes.lookup hash).bind fun transaction =>
      (laneKey rules transaction).map fun nonceKey =>
        ⟨(transaction.sender, nonceKey), transaction.nonce, hash⟩).insertionSort
    fun left right => left.rank ≤ right.rank

/-- The last mined nonce of every lane. -/
def minedHeads (entries : List MinedEntry) : Table LaneId Nat :=
  entries.foldl (fun heads entry => heads.insert entry.laneId entry.nonce) ∅

/-- Move the lanes past their last mined nonce; what is discarded on the way was
mined or has become stale. -/
def advanceMined (mined : List TxHash) (pool : TwoDNoncePool) :
    List (LaneId × Nat) → PruneMinedOutcome × TwoDNoncePool
  | [] => (⟨[], .empty⟩, pool)
  | (laneId, nonce) :: heads =>
    if nonce + 1 < 2 ^ 64 then
      let (update, pool) := advanceLaneNonce rules pool laneId (nonce + 1)
      let (outcome, pool) := advanceMined mined pool heads
      (⟨(update.discarded.filter fun transaction =>
            transaction.hash ∈ mined) ++ outcome.removed,
        LaneUpdate.extend
          { update with
            discarded := update.discarded.filter fun transaction =>
              transaction.hash ∉ mined } outcome.lanes⟩, pool)
    else advanceMined mined pool heads

def pruneMined : PruneMinedOutcome × TwoDNoncePool :=
  let (nonceFree, pool) := removeTransactions rules pool (hashes.filter fun hash =>
      (pool.hashes.lookup hash).any PoolTransaction.isEip8130NonceFree)
  let entries := minedEntries rules pool hashes
  let (outcome, pool) := advanceMined rules (entries.map MinedEntry.hash) pool
    (traversal.visit (minedHeads entries))
  let (rest, pool) := removeTransactions rules pool (entries.map MinedEntry.hash)
  ({ outcome with removed := nonceFree ++ outcome.removed ++ rest }, pool)

end Rules

end TwoDNoncePool

end BaseChain
