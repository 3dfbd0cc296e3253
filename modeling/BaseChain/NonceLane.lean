/-
A nonce lane: the transactions of one channel at or past its cursor, with the
length of the consecutive run that starts there.
-/
import BaseChain.Table
import BaseChain.PoolTransaction

namespace BaseChain

open Finmap Finset

structure LaneCursor where
  stateNonce : Nat
  nextNonce : Nat
deriving DecidableEq

/-- A cursor at the canonical nonce. -/
def LaneCursor.at (stateNonce : Nat) : LaneCursor := ⟨stateNonce, stateNonce⟩

structure NonceLane where
  stateNonce : Nat
  nextNonce : Nat
  pendingLen : Nat
  transactions : Table Nat PoolTransaction

namespace NonceLane

variable (lane : NonceLane)

/-- The nonce some places past `nextNonce`, unless that overflows. -/
def nonceAt (offset : Nat) : Option Nat :=
  if lane.nextNonce + offset < 2 ^ 64 then some (lane.nextNonce + offset) else none

def hasNonceAt (offset : Nat) : Bool :=
  (lane.nonceAt offset).any fun nonce => nonce ∈ lane.transactions

/-- Grow the run over the members that follow it.  Every round takes another
member, so there are no more rounds than members. -/
def extendRun (lane : NonceLane) : Nat → Nat → Nat
  | 0, pendingLen => pendingLen
  | rounds + 1, pendingLen =>
    if lane.hasNonceAt pendingLen then lane.extendRun rounds (pendingLen + 1)
    else pendingLen

def extendPendingRun : NonceLane :=
  { lane with
    pendingLen := lane.extendRun lane.transactions.keys.card lane.pendingLen }

/-- A lane at a cursor, without the members below it. -/
def new (cursor : LaneCursor) (transactions : Table Nat PoolTransaction) :
    NonceLane :=
  extendPendingRun
    { stateNonce := cursor.stateNonce, nextNonce := cursor.nextNonce,
      pendingLen := 0,
      transactions := transactions.filterKeys fun nonce =>
        cursor.nextNonce ≤ nonce }

def isPending (nonce : Nat) : Bool :=
  lane.nextNonce ≤ nonce && nonce - lane.nextNonce < lane.pendingLen

def insert (lane : NonceLane) (nonce : Nat) (transaction : PoolTransaction) :
    Option PoolTransaction × NonceLane :=
  let inserted :=
    { lane with transactions := lane.transactions.insert nonce transaction }
  (lane.transactions.lookup nonce, if inserted.nonceAt inserted.pendingLen = some nonce then
      inserted.extendPendingRun
    else inserted)

def remove (nonce : Nat) : Option PoolTransaction × NonceLane :=
  match lane.transactions.lookup nonce with
  | none => (none, lane)
  | some removed =>
    (some removed,
      { lane with
        transactions := lane.transactions.erase nonce,
        pendingLen := if lane.isPending nonce then nonce - lane.nextNonce
          else lane.pendingLen })

/-- Move the cursor; the members left below it come out. -/
def setNextNonce (nextNonce : Nat) : Table Nat PoolTransaction × NonceLane :=
  (lane.transactions.filterKeys fun nonce => nonce < nextNonce, extendPendingRun
      { lane with
        nextNonce, pendingLen := 0,
        transactions := lane.transactions.filterKeys fun nonce =>
          nextNonce ≤ nonce })

/-- The nonce after the run, or nothing when the run reaches the last one. -/
def runEnd : Option Nat := lane.nonceAt lane.pendingLen

/-- The members from one nonce on, up to another if there is one. -/
def range (low : Nat) (high : Option Nat) : List (Nat × PoolTransaction) :=
  lane.transactions.inOrder.filter fun entry =>
    low ≤ entry.1 && high.all fun bound => entry.1 < bound

/-- The last member, with its nonce. -/
def last : Option (Nat × PoolTransaction) := lane.transactions.lastKey.bind fun nonce =>
    (lane.transactions.lookup nonce).map fun transaction => (nonce, transaction)

def isFullyPending : Bool := lane.last.all fun entry => lane.isPending entry.1

/-- The nonce after the run, when there is one. -/
def pendingEnd : Option Nat := if 0 < lane.pendingLen then
    some (saturatingAdd lane.nextNonce lane.pendingLen)
  else none

def cursor : LaneCursor := ⟨lane.stateNonce, lane.nextNonce⟩

/-- Every member has a nonce of 64 bits at or past the cursor, and the run is as
long as the members allow. -/
structure Valid (lane : NonceLane) : Prop where
  bounded : ∀ nonce ∈ lane.transactions, nonce < 2 ^ 64
  live : ∀ nonce ∈ lane.transactions, lane.nextNonce ≤ nonce
  run : ∀ offset < lane.pendingLen, lane.nextNonce + offset ∈ lane.transactions
  stop : lane.nextNonce + lane.pendingLen ∉ lane.transactions

variable {lane : NonceLane} (hbound : ∀ nonce ∈ lane.transactions, nonce < 2 ^ 64)

include hbound in
theorem hasNonceAt_iff (offset : Nat) :
    lane.hasNonceAt offset = true ↔ lane.nextNonce + offset ∈ lane.transactions := by
  unfold hasNonceAt nonceAt
  by_cases hfits : lane.nextNonce + offset < 2 ^ 64
  · rw [if_pos hfits]
    simp
  · rw [if_neg hfits]
    constructor
    · nofun
    · intro hmember
      exact absurd (hbound _ hmember) hfits

variable {length : Nat} (hrun : ∀ offset < length, lane.nextNonce + offset ∈ lane.transactions)

include hrun in
/-- A run has no more nonces than the lane has members. -/
theorem run_le_card : length ≤ lane.transactions.keys.card := by
  have hinjective : Set.InjOn (fun offset => lane.nextNonce + offset)
      (Finset.range length) := fun left _ right _ hsame =>
    Nat.add_left_cancel hsame
  have hsubset : (Finset.range length).image
      (fun offset => lane.nextNonce + offset) ⊆ lane.transactions.keys := by
    intro nonce hnonce
    obtain ⟨offset, hoffset, rfl⟩ := mem_image.mp hnonce
    exact mem_keys.mpr (hrun offset (mem_range.mp hoffset))
  have hcard := card_le_card hsubset
  rwa [card_image_of_injOn hinjective, card_range] at hcard

include hbound in
include hrun in
theorem extendRun_spec {rounds : Nat} (hrounds : lane.transactions.keys.card ≤ rounds + length) :
    (∀ offset < lane.extendRun rounds length, lane.nextNonce + offset ∈ lane.transactions) ∧
      lane.nextNonce + lane.extendRun rounds length ∉ lane.transactions := by
  have hlonger : ∀ {length : Nat},
      (∀ offset < length, lane.nextNonce + offset ∈ lane.transactions) →
      lane.nextNonce + length ∈ lane.transactions →
      ∀ offset < length + 1, lane.nextNonce + offset ∈ lane.transactions := by
    intro length hrun hnext offset hoffset
    rcases Nat.lt_succ_iff_lt_or_eq.mp hoffset with hless | rfl
    · exact hrun offset hless
    · exact hnext
  induction rounds generalizing length with
  | zero =>
    refine ⟨hrun, ?_⟩
    intro hnext
    have hcard := run_le_card (hlonger hrun hnext)
    omega
  | succ rounds ih =>
    unfold extendRun
    split
    · rename_i hnext
      exact ih (hlonger hrun ((hasNonceAt_iff hbound length).mp hnext)) (by omega)
    · rename_i hnext
      exact ⟨hrun, fun hmember => hnext ((hasNonceAt_iff hbound length).mpr hmember)⟩

include hbound in
theorem extendPendingRun_valid (hlive : ∀ nonce ∈ lane.transactions, lane.nextNonce ≤ nonce)
    (hrun : ∀ offset < lane.pendingLen, lane.nextNonce + offset ∈ lane.transactions) :
    lane.extendPendingRun.Valid := by
  obtain ⟨hlonger, hstop⟩ := extendRun_spec hbound hrun (Nat.le_add_right _ _)
  exact ⟨hbound, hlive, hlonger, hstop⟩

variable {nonce : Nat}

theorem mem_filterKeys {test : Nat → Bool} {table : Table Nat PoolTransaction} :
    nonce ∈ table.filterKeys test ↔ test nonce = true ∧ nonce ∈ table := by
  rw [mem_iff, mem_iff, Table.lookup_filterKeys]
  by_cases htest : test nonce = true
  · simp [htest]
  · simp [htest]

variable {transactions : Table Nat PoolTransaction}

/-- What is left at or past a cursor makes a valid lane there. -/
theorem extendPendingRun_filterKeys_valid {state next : Nat}
    (hbound : ∀ nonce ∈ transactions, nonce < 2 ^ 64) :
    (extendPendingRun ⟨state, next, 0,
      transactions.filterKeys fun nonce => next ≤ nonce⟩).Valid := by
  apply extendPendingRun_valid
  · intro nonce hnonce
    exact hbound nonce (mem_filterKeys.mp hnonce).2
  · intro nonce hnonce
    exact of_decide_eq_true (mem_filterKeys.mp hnonce).1
  · nofun

theorem Valid.setNextNonce (hvalid : lane.Valid) (next : Nat) : (lane.setNextNonce next).2.Valid :=
  extendPendingRun_filterKeys_valid hvalid.bounded

theorem Valid.insert (hvalid : lane.Valid) (transaction : PoolTransaction)
    (hbound : nonce < 2 ^ 64) (hlive : lane.nextNonce ≤ nonce) :
    (lane.insert nonce transaction).2.Valid := by
  have hmembers : ∀ other, other ∈ lane.transactions.insert nonce transaction ↔
      other = nonce ∨ other ∈ lane.transactions := fun other => mem_insert
  have hbound : ∀ other ∈ lane.transactions.insert nonce transaction, other < 2 ^ 64 := by
    intro other hother
    rcases (hmembers other).mp hother with rfl | hold
    · exact hbound
    · exact hvalid.bounded other hold
  have hlive : ∀ other ∈ lane.transactions.insert nonce transaction, lane.nextNonce ≤ other := by
    intro other hother
    rcases (hmembers other).mp hother with rfl | hold
    · exact hlive
    · exact hvalid.live other hold
  have hrun : ∀ offset < lane.pendingLen, lane.nextNonce + offset ∈
      lane.transactions.insert nonce transaction := fun offset hoffset =>
    (hmembers _).mpr (Or.inr (hvalid.run offset hoffset))
  unfold NonceLane.insert
  dsimp only
  split
  · exact extendPendingRun_valid hbound hlive hrun
  · rename_i hbeside
    refine ⟨hbound, hlive, hrun, ?_⟩
    intro hnext
    rcases (hmembers _).mp hnext with hsame | hold
    · apply hbeside
      rw [nonceAt, if_pos (hbound _ hnext)]
      exact congrArg some hsame
    · exact hvalid.stop hold

theorem isPending_eq_true : lane.isPending nonce = true ↔
      lane.nextNonce ≤ nonce ∧ nonce - lane.nextNonce < lane.pendingLen := by
  simp [isPending]

theorem Valid.remove (hvalid : lane.Valid) (nonce : Nat) : (lane.remove nonce).2.Valid := by
  unfold NonceLane.remove
  split
  · exact hvalid
  rename_i removed hremoved
  have hmember := hvalid.live nonce (mem_of_lookup_eq_some hremoved)
  refine ⟨fun other hother => hvalid.bounded other (Finmap.mem_erase.mp hother).2,
    fun other hother => hvalid.live other (Finmap.mem_erase.mp hother).2, ?_, ?_⟩
  · intro offset hoffset
    dsimp only at hoffset ⊢
    apply Finmap.mem_erase.mpr
    split at hoffset
    · rename_i hpend
      have hinside := (isPending_eq_true.mp hpend).2
      exact ⟨by omega, hvalid.run offset (hoffset.trans hinside)⟩
    · rename_i hqueued
      refine ⟨?_, hvalid.run offset hoffset⟩
      rintro rfl
      exact hqueued (isPending_eq_true.mpr ⟨hmember, by omega⟩)
  · split
    · rw [Nat.add_sub_cancel' hmember]
      exact notMem_erase_self
    · intro hnext
      exact hvalid.stop (Finmap.mem_erase.mp hnext).2

/-- A nonce is pending when the lane has everything from the cursor up to it. -/
theorem Valid.isPending_iff (hvalid : lane.Valid) (nonce : Nat) :
    lane.isPending nonce = true ↔ lane.nextNonce ≤ nonce ∧
      ∀ other, lane.nextNonce ≤ other → other ≤ nonce → other ∈ lane.transactions := by
  rw [isPending_eq_true]
  constructor
  · rintro ⟨hnext, hinside⟩
    refine ⟨hnext, ?_⟩
    intro other hlow hhigh
    have hmember := hvalid.run (other - lane.nextNonce) (by omega)
    rwa [Nat.add_sub_cancel' hlow] at hmember
  · rintro ⟨hnext, hall⟩
    refine ⟨hnext, ?_⟩
    by_contra hbeyond
    exact hvalid.stop (hall _ (Nat.le_add_right _ _) (by omega))

theorem last_eq_some_iff {transaction : PoolTransaction} : lane.last = some (nonce, transaction) ↔
      lane.transactions.lookup nonce = some transaction ∧
        ∀ other ∈ lane.transactions, other ≤ nonce := by
  unfold last Table.lastKey
  by_cases hkeys : lane.transactions.keys.Nonempty
  · rw [dif_pos hkeys, Option.bind_some]
    simp only [Option.map_eq_some_iff, Prod.mk.injEq]
    constructor
    · rintro ⟨found, hfound, rfl, rfl⟩
      exact ⟨hfound, fun other hother => le_max' _ _ (mem_keys.mpr hother)⟩
    · rintro ⟨hfound, hhighest⟩
      have hmember := mem_keys.mpr (mem_of_lookup_eq_some hfound)
      have hmax : lane.transactions.keys.max' hkeys = nonce := le_antisymm
          (hhighest _ (mem_keys.mp (max'_mem _ hkeys))) (le_max' _ _ hmember)
      exact ⟨transaction, by rw [hmax, hfound], hmax, rfl⟩
  · rw [dif_neg hkeys]
    constructor
    · nofun
    · rintro ⟨hfound, -⟩
      exact absurd ⟨nonce, mem_keys.mpr (mem_of_lookup_eq_some hfound)⟩ hkeys

theorem insert_transactions (lane : NonceLane) (nonce : Nat) (transaction : PoolTransaction) :
    (lane.insert nonce transaction).2.transactions =
      lane.transactions.insert nonce transaction := by
  unfold insert
  dsimp only
  split
  · rfl
  · rfl

end NonceLane

end BaseChain
