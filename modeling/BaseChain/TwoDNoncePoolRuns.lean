/-
Runs of the pool: every operation keeps the invariant, as long as no sender id is
handed out a second time.
-/
import BaseChain.TwoDNoncePoolInvariant

namespace BaseChain

open PoolTransaction SidecarUsage Table NonceLane SidecarSenderIds

namespace TwoDNoncePool

/-- The operations that change a pool. -/
inductive Action where
  | insertValidatedAt (transaction : PoolTransaction) (cursor : LaneCursor)
  | setLaneCursor (laneId : LaneId) (cursor : LaneCursor)
  | advanceLaneNonce (laneId : LaneId) (nonce : Nat)
  | markSharedLane (laneId : LaneId)
  | unmarkSharedLane (laneId : LaneId)
  | removeTransactions (hashes : List TxHash)
  | removeTransactionsAndDescendants (hashes : List TxHash)
  | removeTransactionsBySender (traversal : Traversal) (sender : Address)
  | removeExpiredNonceFree (traversal : Traversal) (now : Nat)
  | pruneMined (traversal : Traversal) (hashes : List TxHash)
  | evictOverCapacity

def step (rules : PoolRules) (pool : TwoDNoncePool) : Action → TwoDNoncePool
  | .insertValidatedAt transaction cursor =>
    match insertValidatedAt rules pool transaction cursor with
    | .error _ => pool
    | .ok (_, pool) => pool
  | .setLaneCursor laneId cursor => (setLaneCursor rules pool laneId cursor).2
  | .advanceLaneNonce laneId nonce => (advanceLaneNonce rules pool laneId nonce).2
  | .markSharedLane laneId => pool.markSharedLane laneId
  | .unmarkSharedLane laneId => pool.unmarkSharedLane laneId
  | .removeTransactions hashes => (removeTransactions rules pool hashes).2
  | .removeTransactionsAndDescendants hashes =>
    (removeTransactionsAndDescendants rules pool hashes).2
  | .removeTransactionsBySender traversal sender =>
    (removeTransactionsBySender rules traversal pool sender).2
  | .removeExpiredNonceFree traversal now =>
    (removeExpiredNonceFree rules traversal pool now).2
  | .pruneMined traversal hashes => (pruneMined rules traversal pool hashes).2
  | .evictOverCapacity => (evictOverCapacity rules pool).2

/-- The pools that some operations lead to, with their number. -/
inductive Run (rules : PoolRules) : Nat → TwoDNoncePool → Prop where
  | new : Run rules 0 new
  | step {length : Nat} {pool : TwoDNoncePool} (hrun : Run rules length pool)
      (action : Action) : Run rules (length + 1) (pool.step rules action)

variable {rules : PoolRules} {pool : TwoDNoncePool}

section Preserves

variable {extra : Address → Nat}

/-- The invariant, with the next id of the pool. -/
def Keeps (rules : PoolRules) (extra : Address → Nat) (nextId : Nat)
    (pool : TwoDNoncePool) : Prop :=
  Invariant rules extra pool ∧ pool.usage.senderIds.nextId = nextId

/-- A property of pools that every operation keeps which inserts nothing. -/
structure Closed (rules : PoolRules) (holds : TwoDNoncePool → Prop) : Prop where
  removeHash : ∀ {pool} (hash : TxHash), holds pool → holds (removeHash rules pool hash).2
  setLaneCursor : ∀ {pool} (laneId : LaneId) (cursor : LaneCursor), holds pool →
    holds (setLaneCursor rules pool laneId cursor).2
  share : ∀ {pool} {sharedLanes : Finset LaneId},
    (∀ laneId ∈ sharedLanes, laneId ∈ pool.sharedLanes ∨ laneId ∈ pool.lanes) →
    holds pool → holds { pool with sharedLanes }

section

variable {holds : TwoDNoncePool → Prop} (hclosed : Closed rules holds) (hpool : holds pool)
include hclosed hpool

theorem Closed.removeTransactions (hashes : List TxHash) :
    holds (removeTransactions rules pool hashes).2 := by
  induction hashes generalizing pool with
  | nil => exact hpool
  | cons hash _ ih => exact ih (hclosed.removeHash hash hpool)

theorem Closed.removeTransactionsAndDescendants (hashes : List TxHash) :
    holds (removeTransactionsAndDescendants rules pool hashes).2 := by
  induction hashes generalizing pool with
  | nil => exact hpool
  | cons _ _ ih => exact ih (hclosed.removeTransactions hpool _)

theorem Closed.advanceLaneNonce (laneId : LaneId) (nonce : Nat) :
    holds (advanceLaneNonce rules pool laneId nonce).2 := by
  unfold TwoDNoncePool.advanceLaneNonce
  split
  · exact hpool
  split
  · exact hclosed.setLaneCursor _ _ hpool
  · exact hpool

theorem Closed.advanceMined (mined : List TxHash) (heads : List (LaneId × Nat)) :
    holds (advanceMined rules mined pool heads).2 := by
  induction heads generalizing pool with
  | nil => exact hpool
  | cons _ _ ih =>
    unfold advanceMined
    split
    · exact ih (hclosed.advanceLaneNonce hpool _ _)
    · exact ih hpool

theorem Closed.evictRounds (rounds : Nat) : holds (evictRounds rules pool rounds).2 := by
  induction rounds generalizing pool with
  | zero => exact hpool
  | succ _ ih =>
    unfold evictRounds
    split
    · split
      · rename_i hcandidate
        have hremoved := hclosed.removeHash (pool.evictionOrder.min' hcandidate).hash hpool
        split
        · rename_i after hremove
          rwa [hremove] at hremoved
        · rename_i transaction after hremove
          rw [hremove] at hremoved
          exact ih hremoved
      · exact hpool
    · exact hpool

theorem Closed.step (action : Action)
    (hinsert : ∀ transaction cursor, action = .insertValidatedAt transaction cursor →
      holds (pool.step rules action)) : holds (pool.step rules action) := by
  cases action with
  | insertValidatedAt => exact hinsert _ _ rfl
  | setLaneCursor => exact hclosed.setLaneCursor _ _ hpool
  | advanceLaneNonce => exact hclosed.advanceLaneNonce hpool _ _
  | markSharedLane laneId =>
    unfold TwoDNoncePool.step markSharedLane
    dsimp only
    split
    · rename_i hlane
      refine hclosed.share (fun other hother => ?_) hpool
      rcases Finset.mem_insert.mp hother with rfl | hshared
      · exact .inr hlane
      · exact .inl hshared
    · exact hpool
  | unmarkSharedLane =>
    exact hclosed.share (fun _ hother => .inl (Finset.mem_of_mem_erase hother)) hpool
  | removeTransactions => exact hclosed.removeTransactions hpool _
  | removeTransactionsAndDescendants => exact hclosed.removeTransactionsAndDescendants hpool _
  | removeTransactionsBySender traversal sender | removeExpiredNonceFree traversal now =>
    exact hclosed.removeTransactions hpool _
  | pruneMined =>
    refine hclosed.removeTransactions (hclosed.advanceMined ?_ _ _) _
    exact hclosed.removeTransactions hpool _
  | evictOverCapacity => exact hclosed.evictRounds hpool _

end

theorem Shape.closed (rules : PoolRules) : Closed rules (Shape rules) where
  removeHash := by
    intro pool hash hshape
    cases hpooled : pool.hashes.lookup hash with
    | none =>
      rw [TwoDNoncePool.removeHash, hpooled]
      exact hshape
    | some =>
      obtain ⟨slot, after, hremove, -, -, hafter, -⟩ := hshape.removeHash hpooled
      rw [hremove]
      exact hafter
  setLaneCursor laneId cursor hshape := (hshape.setLaneCursor laneId cursor).1
  share hin hshape := ⟨hshape.filed, hshape.lanes, hshape.indexed.candidates,
    hshape.indexed.order, hshape.indexed.ahead,
    fun laneId hshared => (hin laneId hshared).elim (hshape.indexed.shared laneId) id⟩

/-- The ids stay as they are unless something is inserted. -/
theorem Keeps.closed (rules : PoolRules) (extra : Address → Nat) (nextId : Nat) :
    Closed rules (Keeps rules extra nextId) where
  removeHash := by
    intro pool hash hkeeps
    cases hpooled : pool.hashes.lookup hash with
    | none =>
      rw [TwoDNoncePool.removeHash, hpooled]
      exact hkeeps
    | some =>
      obtain ⟨slot, after, hremove, hafter, hwithout⟩ := hkeeps.1.removeHash hpooled
      rw [hremove]
      exact ⟨hafter, hwithout.nextId.trans hkeeps.2⟩
  setLaneCursor := by
    intro pool laneId cursor hkeeps
    obtain ⟨hshape, hmoves⟩ := hkeeps.1.shape.setLaneCursor laneId cursor
    obtain ⟨hacct, hnames⟩ := hmoves.kept hkeeps.1.accounted
    exact ⟨hshape.invariant hacct, (hmoves.moved hnames).nextId.trans hkeeps.2⟩
  share hin hkeeps :=
    ⟨((Shape.closed rules).share hin hkeeps.1.shape).invariant hkeeps.1.accounted, hkeeps.2⟩

/-- One operation hands out two ids at most. -/
theorem Invariant.step (hinv : Invariant rules extra pool)
    (hroom : pool.usage.senderIds.nextId + 2 < 2 ^ 64) (action : Action) :
    Invariant rules extra (pool.step rules action) ∧
      (pool.step rules action).usage.senderIds.nextId ≤ pool.usage.senderIds.nextId + 2 := by
  by_cases hinsert : ∃ transaction cursor, action = .insertValidatedAt transaction cursor
  · obtain ⟨transaction, cursor, rfl⟩ := hinsert
    unfold TwoDNoncePool.step
    dsimp only
    split
    · exact ⟨hinv, Nat.le_add_right _ _⟩
    · rename_i outcome after hinsert
      obtain ⟨hshape, hkept⟩ := hinv.shape.insertValidatedAt hinsert
      obtain ⟨hacct, hnext⟩ := hkept hinv.accounted hroom
      exact ⟨hshape.invariant hacct, hnext⟩
  · obtain ⟨hafter, hnext⟩ := (Keeps.closed rules extra _).step ⟨hinv, rfl⟩ action
      fun transaction cursor hsame => absurd ⟨transaction, cursor, hsame⟩ hinsert
    exact ⟨hafter, hnext.trans_le (Nat.le_add_right _ _)⟩

/-- Every pool that operations lead to has its transactions in place. -/
theorem Run.shape {length : Nat} (hrun : Run rules length pool) : Shape rules pool := by
  induction hrun with
  | new => exact (Invariant.new rules).shape
  | step _ action ih =>
    refine (Shape.closed rules).step ih action ?_
    rintro transaction cursor rfl
    unfold TwoDNoncePool.step
    dsimp only
    split
    · exact ih
    · rename_i outcome after hinsert
      exact (ih.insertValidatedAt hinsert).1

end Preserves

/-- What the redundant parts of a pool must say, recomputed from its lanes and
nonce-free transactions. -/
structure Consistent (rules : PoolRules) (pool : TwoDNoncePool) : Prop where
  hashes : ∀ hash transaction, pool.hashes.lookup hash = some transaction ↔
    transaction.hash = hash ∧ ∃ slot, slotContent pool.lanes pool.nonceFree slot = some transaction
  disjoint : ∀ slot other transaction next,
    slotContent pool.lanes pool.nonceFree slot = some transaction →
    slotContent pool.lanes pool.nonceFree other = some next →
    transaction.hash = next.hash → slot = other
  laneMembers : ∀ laneId lane, pool.lanes.lookup laneId = some lane →
    lane.transactions ≠ ∅ ∧ ∀ nonce ∈ lane.transactions, lane.nextNonce ≤ nonce
  pendingLen : ∀ laneId lane, pool.lanes.lookup laneId = some lane →
    (∀ offset < lane.pendingLen, lane.nextNonce + offset ∈ lane.transactions) ∧
      lane.nextNonce + lane.pendingLen ∉ lane.transactions
  evictionOrder : ∀ key, key ∈ pool.evictionOrder ↔ (∃ laneId lane nonce transaction pending,
      pool.lanes.lookup laneId = some lane ∧ lane.transactions.lookup nonce = some transaction ∧
        (∀ other ∈ lane.transactions, other ≤ nonce) ∧
        (pending = true ↔ ∀ other, lane.nextNonce ≤ other → other ≤ nonce →
          other ∈ lane.transactions) ∧
        key = evictionKey rules transaction pending) ∨
      ∃ replayId transaction, pool.nonceFree.lookup replayId = some transaction ∧
        key = evictionKey rules transaction true
  aheadOfState : ∀ laneId stateNonce, pool.aheadOfState.lookup laneId = some stateNonce ↔
      ∃ lane, pool.lanes.lookup laneId = some lane ∧
        lane.stateNonce < lane.nextNonce ∧ stateNonce = lane.stateNonce
  sharedLanes : ∀ laneId ∈ pool.sharedLanes, laneId ∈ pool.lanes
  size : pool.usage.size = Table.total PoolTransaction.size pool.hashes
  perSender : ∀ sender, pool.usage.perSender.lookup sender =
    present (SidecarUsage.bySender pool.hashes sender)
  references : ∀ address, (pool.usage.senderIds.ids.lookup address).map Prod.snd =
      present (SidecarUsage.referencesTo pool.hashes address)
  names : ∀ hash transaction, pool.hashes.lookup hash = some transaction →
    SidecarUsage.Names pool.usage.senderIds transaction
  addresses : ∀ id address, pool.usage.senderIds.addresses.lookup id = some address ↔ ∃ references,
        pool.usage.senderIds.ids.lookup address = some (id, references)

section Consistent

/-- The candidate of a lane is its highest member, ranked as pending exactly when
no nonce below it is missing. -/
theorem Invariant.candidate_iff {extra : Address → Nat}
    (hinv : Invariant rules extra pool) {laneId : LaneId}
    {key : EvictionKey} :
    pool.laneCandidates.lookup laneId = some key ↔ ∃ lane nonce transaction pending,
        pool.lanes.lookup laneId = some lane ∧ lane.transactions.lookup nonce = some transaction ∧
          (∀ other ∈ lane.transactions, other ≤ nonce) ∧
          (pending = true ↔ ∀ other, lane.nextNonce ≤ other → other ≤ nonce →
            other ∈ lane.transactions) ∧
          key = evictionKey rules transaction pending := by
  have hpend : ∀ lane nonce transaction, pool.lanes.lookup laneId = some lane →
      lane.last = some (nonce, transaction) →
      (lane.isFullyPending = true ↔ ∀ other, lane.nextNonce ≤ other →
        other ≤ nonce → other ∈ lane.transactions) := by
    intro lane nonce transaction hlane hlast
    have hvalid := (hinv.lanes laneId lane hlane).1
    have hmember := Finmap.mem_of_lookup_eq_some (last_eq_some_iff.mp hlast).1
    rw [isFullyPending, hlast, Option.all_some, hvalid.isPending_iff]
    exact and_iff_right (hvalid.live nonce hmember)
  rw [hinv.indexed.candidates]
  constructor
  · intro hkey
    obtain ⟨lane, hlane, htail⟩ := Option.bind_eq_some_iff.mp hkey
    obtain ⟨nonce, transaction, hlast, rfl⟩ := tailKey_eq_some htail
    obtain ⟨hmember, hhighest⟩ := last_eq_some_iff.mp hlast
    exact ⟨lane, nonce, transaction, lane.isFullyPending, hlane, hmember,
      hhighest, hpend lane nonce transaction hlane hlast, rfl⟩
  · rintro ⟨lane, nonce, transaction, pending, hlane, hmember, hhighest, hflag, rfl⟩
    have hlast := last_eq_some_iff.mpr ⟨hmember, hhighest⟩
    have hsame : lane.isFullyPending = pending := Bool.eq_iff_iff.mpr
      ((hpend lane nonce transaction hlane hlast).trans hflag.symm)
    rw [hlane, Option.bind_some, tailKey, hlast, hsame]
    rfl

theorem Invariant.consistent (hinv : Invariant rules 0 pool) : Consistent rules pool := by
  have hfiled := hinv.filed
  have hindexed := hinv.indexed
  have hacct := hinv.accounted
  constructor
  case hashes =>
    intro hash transaction
    constructor
    · intro hlookup
      obtain ⟨hhash, slot, -, hslot⟩ := hfiled.underHash hash transaction hlookup
      exact ⟨hhash, slot, hslot⟩
    · rintro ⟨rfl, slot, hslot⟩
      exact (hfiled.inSlot slot transaction hslot).2
  case disjoint =>
    intro slot other transaction next hslot hother hhash
    exact hfiled.slot_eq hslot hother hhash
  case laneMembers =>
    intro laneId lane hlane
    obtain ⟨hvalid, hmembers⟩ := hinv.lanes laneId lane hlane
    exact ⟨hmembers, hvalid.live⟩
  case pendingLen =>
    intro laneId lane hlane
    obtain ⟨hvalid, -⟩ := hinv.lanes laneId lane hlane
    exact ⟨hvalid.run, hvalid.stop⟩
  case evictionOrder =>
    intro key
    rw [hindexed.order, exists_congr fun laneId => hinv.candidate_iff]
  case aheadOfState =>
    intro laneId stateNonce
    rw [hindexed.ahead]
    simp only [Option.bind_eq_some_iff, Option.ite_none_right_eq_some, Option.some.injEq]
    simp [eq_comm]
  case sharedLanes => exact hindexed.shared
  case size => exact hacct.size
  case perSender => exact hacct.perSender
  case references => exact hacct.counts.references
  case names => exact hacct.names
  case addresses => exact hacct.counts.named

/-- Fewer than `2 ^ 63` operations hand out no id a second time. -/
theorem Run.invariant {length : Nat} (hrun : Run rules length pool) (hlength : length < 2 ^ 63) :
    Invariant rules 0 pool ∧ pool.usage.senderIds.nextId ≤ 2 * length := by
  induction hrun with
  | new => exact ⟨Invariant.new rules, Nat.le_refl 0⟩
  | step _ action ih =>
    obtain ⟨hinv, hnext⟩ := ih (Nat.lt_of_succ_lt hlength)
    obtain ⟨hafter, hgrown⟩ := hinv.step (by omega) action
    exact ⟨hafter, by omega⟩

/-- Every pool that fewer than `2 ^ 63` operations lead to is consistent. -/
theorem run_consistent {length : Nat} (hlength : length < 2 ^ 63)
    (hrun : Run rules length pool) : Consistent rules pool :=
  (hrun.invariant hlength).1.consistent

end Consistent

section Wraparound

/-- Rules that refuse nothing. -/
def openRules : PoolRules where
  isExceeded _ _ := false
  maxAccountSlots := 1
  minimalProtocolBasefee := 0
  isLocal _ _ := false
  isReplacementUnderpriced _ _ := false
  protocolNonceLanes := false

variable (account : UInt8)

/-- A transaction without a nonce, of the account with a number. -/
def freeTransaction : PoolTransaction where
  hash := ⟨List.replicate 32 account, List.length_replicate⟩
  sender := ⟨List.replicate 20 account, List.length_replicate⟩
  nonce := 0
  hnonce := by decide
  nonceKey := some nonceKeyMax
  replayHash := ⟨List.replicate 32 account, List.length_replicate⟩
  validBeforeMs := 0
  maxFeePerGas := 0
  priorityFeeOrPrice := 0
  size := 1
  origin := .external
  timestamp := 0
  limitClass := none
  watchSet := none
  validityConditions := 0
  senderId := 0
  authorityIds := none

def insertFree : Action := .insertValidatedAt (freeTransaction account) (.at 0)

def removeFree : Action := .removeTransactions [(freeTransaction account).hash]

/-- A pool that has never seen an account. -/
structure Unknown (account : UInt8) (pool : TwoDNoncePool) : Prop where
  hashes : pool.hashes.lookup (freeTransaction account).hash = none
  nonceFree : pool.nonceFree.lookup (freeTransaction account).replayHash = none
  order : evictionKey openRules (freeTransaction account) true ∉ pool.evictionOrder
  perSender : pool.usage.perSender.lookup (freeTransaction account).sender = none
  ids : pool.usage.senderIds.ids.lookup (freeTransaction account).sender = none

/-- The pool with another id to hand out next. -/
def withNextId (pool : TwoDNoncePool) (nextId : Nat) : TwoDNoncePool :=
  { pool with
    usage := { pool.usage with
      senderIds := { pool.usage.senderIds with nextId } } }

/-- What the transaction of an unknown account adds to a pool. -/
def withFree (pool : TwoDNoncePool) (account : UInt8) : TwoDNoncePool :=
  let nextId := pool.usage.senderIds.nextId
  let transaction := { freeTransaction account with senderId := nextId }
  { pool with
    nonceFree := pool.nonceFree.insert transaction.replayHash transaction,
    hashes := pool.hashes.insert transaction.hash transaction,
    evictionOrder := insert (evictionKey openRules (freeTransaction account) true)
        pool.evictionOrder,
    usage :=
      { size := pool.usage.size + 1,
        perSender := pool.usage.perSender.insert transaction.sender 1,
        senderIds :=
          { nextId := (nextId + 1) % 2 ^ 64,
            ids := pool.usage.senderIds.ids.insert transaction.sender (nextId, 1),
            addresses := pool.usage.senderIds.addresses.insert nextId transaction.sender } } }

theorem freeTransaction_replayId : (freeTransaction account).eip8130ReplayId =
      some (freeTransaction account).replayHash := by
  simp [eip8130ReplayId, isEip8130NonceFree, freeTransaction]

variable {account : UInt8}

theorem Unknown.insert (hunknown : Unknown account pool) :
    pool.step openRules (insertFree account) = pool.withFree account := by
  obtain ⟨hhashes, hfree, -, hsender, hids⟩ := hunknown
  have hcontains : pool.contains (freeTransaction account).hash = false := by
    simpa [contains] using Finmap.lookup_eq_none.mp hhashes
  have hacquire : acquireIds pool.usage.senderIds (freeTransaction account) =
      ({ freeTransaction account with senderId := pool.usage.senderIds.nextId },
        ⟨(pool.usage.senderIds.nextId + 1) % 2 ^ 64,
          pool.usage.senderIds.ids.insert (freeTransaction account).sender
            (pool.usage.senderIds.nextId, 1),
          pool.usage.senderIds.addresses.insert pool.usage.senderIds.nextId
            (freeTransaction account).sender⟩) := by
    unfold acquireIds acquire
    rw [hids]
    rfl
  have hcount : pool.usage.senderCount (freeTransaction account).sender = 0 := by
    rw [senderCount, hsender]
    rfl
  have hadmissible : ensureAdmissible openRules pool (freeTransaction account)
      false false = .ok () := by
    simp [ensureAdmissible, hcount, openRules]
  have hstore : insertValidatedAt openRules pool (freeTransaction account)
      (.at 0) = insertNonceFree openRules pool (freeTransaction account)
        (freeTransaction account).replayHash := by
    unfold insertValidatedAt
    rw [hcontains]
    rfl
  unfold step insertFree
  dsimp only
  rw [hstore]
  unfold insertNonceFree
  rw [hfree]
  dsimp only [Option.isSome]
  rw [hadmissible]
  unfold storeNonceFree
  rw [hacquire]
  dsimp only [add]
  rw [senderCount, hsender]
  rfl

/-- A transaction that comes and goes uses up an id and leaves nothing else. -/
theorem insertFree_removeFree {pool : TwoDNoncePool} {account : UInt8}
    (hunknown : Unknown account pool)
    (hfresh : pool.usage.senderIds.addresses.lookup pool.usage.senderIds.nextId = none) :
    (pool.step openRules (insertFree account)).step openRules (removeFree account) =
      pool.withNextId ((pool.usage.senderIds.nextId + 1) % 2 ^ 64) := by
  rw [hunknown.insert]
  obtain ⟨hhashes, hfree, horder, hsender, hids⟩ := hunknown
  let transaction := { freeTransaction account with
    senderId := pool.usage.senderIds.nextId }
  have hlookup : (pool.withFree account).hashes.lookup
      (freeTransaction account).hash = some transaction := Finmap.lookup_insert _
  have hheld : (pool.withFree account).nonceFree.lookup
      (freeTransaction account).replayHash = some transaction := Finmap.lookup_insert _
  have hreplay : transaction.eip8130ReplayId = some (freeTransaction account).replayHash :=
    freeTransaction_replayId account
  have hperSender : dropSender (pool.usage.perSender.insert (freeTransaction account).sender 1)
      (freeTransaction account).sender = pool.usage.perSender := by
    unfold dropSender
    rw [Finmap.lookup_insert]
    exact erase_insert_self hsender 1
  have hrelease : (pool.withFree account).usage.senderIds.release pool.usage.senderIds.nextId =
        { pool.usage.senderIds with
          nextId := (pool.usage.senderIds.nextId + 1) % 2 ^ 64 } := by
    unfold release withFree
    rw [Finmap.lookup_insert]
    dsimp only
    rw [Finmap.lookup_insert]
    dsimp only
    rw [if_pos rfl, erase_insert_self hids, erase_insert_self hfresh]
  have husage : (pool.withFree account).usage.remove transaction =
      (pool.withNextId ((pool.usage.senderIds.nextId + 1) % 2 ^ 64)).usage := by
    have hids : (pool.withFree account).usage.senderIds.release transaction.senderId = _ := hrelease
    unfold SidecarUsage.remove
    rw [hids]
    exact congrArg (fun perSender => SidecarUsage.mk pool.usage.size perSender _) hperSender
  have hclearedFree : (pool.withFree account).nonceFree.erase
      (freeTransaction account).replayHash = pool.nonceFree := erase_insert_self hfree _
  have hclearedHashes : (pool.withFree account).hashes.erase
      (freeTransaction account).hash = pool.hashes := erase_insert_self hhashes _
  have hclearedOrder : (pool.withFree account).evictionOrder.erase
      (evictionKey openRules transaction true) = pool.evictionOrder := Finset.erase_insert horder
  have hremoved : removeHash openRules (pool.withFree account)
      (freeTransaction account).hash = (some transaction,
        pool.withNextId ((pool.usage.senderIds.nextId + 1) % 2 ^ 64)) := by
    unfold removeHash
    rw [hlookup]
    dsimp only
    rw [hreplay]
    unfold removeNonceFree
    dsimp only
    rw [hheld]
    dsimp only
    rw [husage, hclearedFree, hclearedHashes, hclearedOrder]
    rfl
  unfold step removeFree removeTransactions
  dsimp only
  rw [hremoved]
  rfl

theorem Unknown.withNextId (hunknown : Unknown account pool) (nextId : Nat) :
    Unknown account (pool.withNextId nextId) :=
  ⟨hunknown.hashes, hunknown.nonceFree, hunknown.order, hunknown.perSender, hunknown.ids⟩

theorem unknown_withFree : Unknown 2 (new.withFree 1) :=
  ⟨by decide +kernel, by decide +kernel, by decide +kernel, by decide +kernel, by decide +kernel⟩

theorem run_insertFree_removeFree {length nextId : Nat} (hused : nextId ≠ 0)
    (hrun : Run openRules length ((new.withFree 1).withNextId nextId)) :
    Run openRules (length + 2) ((new.withFree 1).withNextId ((nextId + 1) % 2 ^ 64)) := by
  have hfresh : (new.withFree 1).usage.senderIds.addresses.lookup nextId =
      none := by
    unfold withFree
    rw [lookup_insert]
    exact if_neg hused
  have hboth := @insertFree_removeFree ((new.withFree 1).withNextId nextId) 2
    (unknown_withFree.withNextId nextId) hfresh
  have hnext := (hrun.step (insertFree 2)).step (removeFree 2)
  rw [hboth] at hnext
  exact hnext

/-- One transaction stays, another one comes and goes. -/
theorem exists_run_withNextId {nextId : Nat} (hfits : nextId + 1 < 2 ^ 64) :
    ∃ length, Run openRules length ((new.withFree 1).withNextId (nextId + 1)) := by
  induction nextId with
  | zero =>
    have hrun := (@Run.new openRules).step (insertFree 1)
    exact ⟨1, hrun⟩
  | succ nextId ih =>
    obtain ⟨length, hrun⟩ := ih (Nat.lt_of_succ_lt hfits)
    have hnext := run_insertFree_removeFree (Nat.succ_ne_zero nextId) hrun
    rw [Nat.mod_eq_of_lt hfits] at hnext
    exact ⟨length + 2, hnext⟩

/-- After `2 ^ 64` new senders the first id is handed out again.  When the first
sender then leaves, the references of the second one go with it. -/
theorem run_wraps : ∃ length pool, Run openRules length pool ∧
    ¬ Consistent openRules pool := by
  obtain ⟨length, hrun⟩ := @exists_run_withNextId (2 ^ 64 - 2) (by decide)
  have hwrapped := run_insertFree_removeFree (by decide) hrun
  refine ⟨_, _, (hwrapped.step (insertFree 3)).step (removeFree 1), ?_⟩
  intro hconsistent
  have hreferences := hconsistent.references (freeTransaction 3).sender
  revert hreferences
  decide +kernel

/-- One operation from an empty pool. -/
theorem run_consistent_sample :
    1 < 2 ^ 63 ∧ Consistent openRules (new.step openRules (insertFree 1)) :=
  ⟨by decide, run_consistent (by decide) ((@Run.new openRules).step _)⟩

end Wraparound

end TwoDNoncePool

end BaseChain
