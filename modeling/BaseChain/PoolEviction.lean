/-
Evictions from a full pool.  What goes is the last of its lane or has no nonce, and
queued transactions go before pending ones.
-/
import BaseChain.TwoDNoncePoolRuns

namespace BaseChain

open NonceLane

namespace TwoDNoncePool

variable (rules : PoolRules) (pool : TwoDNoncePool)

abbrev isExceeded : Bool := rules.isExceeded pool.hashes.keys.card pool.usage.size

/-- The last transaction of a lane, or one without a nonce, which is always pending. -/
def Candidate (transaction : PoolTransaction) (pending : Bool) : Prop :=
  (∃ laneId lane nonce, pool.lanes.lookup laneId = some lane ∧
      lane.last = some (nonce, transaction) ∧ lane.isPending nonce = pending) ∨
    ∃ replayId, pool.nonceFree.lookup replayId = some transaction ∧ true = pending

/-- One eviction.  It leaves the status of every other transaction as it was. -/
structure Evicts (transaction : PoolTransaction) (after : TwoDNoncePool) : Prop where
  exceeded : pool.isExceeded rules = true
  hashes : after.hashes = pool.hashes.erase transaction.hash
  status : ∀ laneId lane, after.lanes.lookup laneId = some lane → ∃ before,
    pool.lanes.lookup laneId = some before ∧
      ∀ nonce ∈ lane.transactions, lane.isPending nonce = before.isPending nonce
  order : ∃ pending, pool.Candidate transaction pending ∧
    (pending = true → ∀ laneId lane, pool.lanes.lookup laneId = some lane →
      ∀ nonce ∈ lane.transactions, lane.isPending nonce = true) ∧
    (rules.isLocal transaction.origin transaction.sender = true →
      ∀ other, pool.Candidate other pending → rules.isLocal other.origin other.sender = true)

/-- Evictions until a pool fits or is empty. -/
inductive Evictions : TwoDNoncePool → List PoolTransaction → TwoDNoncePool → Prop where
  | done {pool : TwoDNoncePool} (hend : pool.isExceeded rules = false ∨ pool.hashes.keys = ∅) :
    Evictions pool [] pool
  | evict {pool transaction middle evicted after} (hevicts : pool.Evicts rules transaction middle)
      (hrest : Evictions middle evicted after) : Evictions pool (transaction :: evicted) after

variable {rules pool} {key other : EvictionKey} {lane : NonceLane}

theorem EvictionKey.class_le (hle : key ≤ other) : key.pending ≤ other.pending ∧
    (key.pending = other.pending → key.isLocal ≤ other.isLocal) := by
  have hrank : key.rank ≤ other.rank := hle
  simp only [EvictionKey.rank, Prod.Lex.toLex_le_toLex] at hrank
  rcases hrank with hpend | ⟨hpend, hlocal | ⟨hlocal, -⟩⟩
  · exact ⟨hpend.le, fun hsame => absurd hsame hpend.ne⟩
  · exact ⟨hpend.le, fun _ => hlocal.le⟩
  · exact ⟨hpend.le, fun _ => hlocal.le⟩

theorem exists_last (hmembers : lane.transactions ≠ ∅) : ∃ nonce transaction,
    lane.last = some (nonce, transaction) := by
  have hkeys : lane.transactions.keys.Nonempty := by
    refine Finset.nonempty_iff_ne_empty.mpr fun hempty => hmembers ?_
    refine Finmap.ext_lookup fun nonce => ?_
    rw [Finmap.lookup_empty, Finmap.lookup_eq_none, ← Finmap.mem_keys, hempty]
    exact Finset.notMem_empty nonce
  obtain ⟨nonce, hnonce, hmax⟩ := lane.transactions.keys.exists_max_image id hkeys
  obtain ⟨transaction, hmember⟩ := Finmap.mem_iff.mp (Finmap.mem_keys.mp hnonce)
  exact ⟨nonce, transaction, last_eq_some_iff.mpr
    ⟨hmember, fun other hother => hmax other (Finmap.mem_keys.mpr hother)⟩⟩

/-- Nothing comes after a candidate in its lane. -/
theorem Candidate.slot {transaction : PoolTransaction} {pending : Bool}
    (hcandidate : pool.Candidate transaction pending) : ∃ slot,
      slotContent pool.lanes pool.nonceFree slot = some transaction ∧
        ∀ laneId nonce, slot = .lane laneId nonce → ∀ lane, pool.lanes.lookup laneId = some lane →
          ∀ other ∈ lane.transactions, other ≤ nonce := by
  rcases hcandidate with ⟨laneId, lane, nonce, hlane, hlast, -⟩ | ⟨replayId, hfree, -⟩
  · obtain ⟨hmember, hhighest⟩ := last_eq_some_iff.mp hlast
    refine ⟨.lane laneId nonce, (slotContent_lane hlane nonce).trans hmember, ?_⟩
    rintro _ _ ⟨⟩ found hfound
    cases hlane.symm.trans hfound
    exact hhighest
  · exact ⟨.nonceFree replayId, hfree, nofun⟩

section Shape

variable (hshape : Shape rules pool)
include hshape

theorem Shape.mem_evictionOrder : key ∈ pool.evictionOrder ↔ ∃ transaction pending,
    pool.Candidate transaction pending ∧ evictionKey rules transaction pending = key := by
  rw [hshape.indexed.order]
  simp only [hshape.indexed.candidates]
  constructor
  · rintro (⟨laneId, hkey⟩ | ⟨replayId, transaction, hfree, rfl⟩)
    · obtain ⟨lane, hlane, htail⟩ := Option.bind_eq_some_iff.mp hkey
      obtain ⟨nonce, transaction, hlast, rfl⟩ := tailKey_eq_some htail
      refine ⟨transaction, _, .inl ⟨laneId, lane, nonce, hlane, hlast, rfl⟩, ?_⟩
      simp [isFullyPending, hlast]
    · exact ⟨transaction, true, .inr ⟨replayId, hfree, rfl⟩, rfl⟩
  · rintro ⟨transaction, pending, ⟨laneId, lane, nonce, hlane, hlast, rfl⟩ |
      ⟨replayId, hfree, rfl⟩, rfl⟩
    · exact .inl ⟨laneId, by simp [tailKey, hlane, hlast, isFullyPending]⟩
    · exact .inr ⟨replayId, transaction, hfree, rfl⟩

theorem Shape.evicts (hexceeded : pool.isExceeded rules = true)
    (horder : pool.evictionOrder.Nonempty) : ∃ transaction after,
      TwoDNoncePool.removeHash rules pool (pool.evictionOrder.min' horder).hash =
          (some transaction, after) ∧
        pool.Evicts rules transaction after ∧ Shape rules after ∧
        after.hashes.keys.card < pool.hashes.keys.card := by
  obtain ⟨transaction, pending, hcandidate, hkey⟩ :=
    hshape.mem_evictionOrder.mp (pool.evictionOrder.min'_mem horder)
  have hleast : ∀ {next status}, pool.Candidate next status → pending ≤ status ∧
      (pending = status → rules.isLocal transaction.origin transaction.sender ≤
        rules.isLocal next.origin next.sender) := by
    intro next status hnext
    have hle := pool.evictionOrder.min'_le _
      (hshape.mem_evictionOrder.mpr ⟨next, status, hnext, rfl⟩)
    rw [← hkey] at hle
    exact EvictionKey.class_le hle
  rw [← hkey]
  obtain ⟨slot, hslot, hlast⟩ := hcandidate.slot
  obtain ⟨hplace, hpooled⟩ := hshape.filed.inSlot slot transaction hslot
  obtain ⟨place, after, hremove, hsame, -, hafter, hwithout⟩ := hshape.removeHash hpooled
  cases hplace.symm.trans hsame
  refine ⟨transaction, after, hremove,
    ⟨hexceeded, hwithout.hashes, ?_, pending, hcandidate, ?_, ?_⟩, hafter, ?_⟩
  · intro laneId lane hlane
    obtain ⟨before, hbefore, hcursor⟩ := hwithout.cursor laneId lane hlane
    have hnext : lane.nextNonce = before.nextNonce := congrArg LaneCursor.nextNonce hcursor
    refine ⟨before, hbefore, fun nonce hnonce => ?_⟩
    have hmembers : ∀ other, other ∈ lane.transactions ↔
        other ∈ before.transactions ∧ slot ≠ .lane laneId other := by
      intro other
      have hcontent := congrFun hwithout.content (.lane laneId other)
      rw [slotContent_lane hlane, Function.update_apply, slotContent_lane hbefore] at hcontent
      rw [Finmap.mem_iff, Finmap.mem_iff, hcontent]
      by_cases hgone : Slot.lane laneId other = slot
      · simp [hgone]
      · simp [hgone, Ne.symm hgone]
    rw [Bool.eq_iff_iff, (hafter.lanes laneId lane hlane).1.isPending_iff,
      (hshape.lanes laneId before hbefore).1.isPending_iff, hnext]
    refine and_congr_right fun _ => forall_congr' fun between => forall_congr' fun _ =>
      forall_congr' fun hle => (hmembers between).trans (and_iff_left_of_imp fun _ hgone => ?_)
    have hhigh := hlast laneId between hgone before hbefore nonce ((hmembers nonce).mp hnonce).1
    exact ((hmembers nonce).mp hnonce).2 (le_antisymm hhigh hle ▸ hgone)
  · rintro rfl laneId lane hlane nonce hnonce
    obtain ⟨hvalid, hmembers⟩ := hshape.lanes laneId lane hlane
    obtain ⟨last, tail, htail⟩ := exists_last hmembers
    have hpend := (hleast (.inl ⟨laneId, lane, last, hlane, htail, rfl⟩)).1 rfl
    have hrun := isPending_eq_true.mp hpend
    have hhigh := (last_eq_some_iff.mp htail).2 nonce hnonce
    exact isPending_eq_true.mpr ⟨hvalid.live nonce hnonce, by omega⟩
  · intro hlocal other hother
    exact (hleast hother).2 rfl hlocal
  · rw [hwithout.hashes, Finmap.keys_erase]
    exact Finset.card_erase_lt_of_mem (Finmap.mem_keys.mpr (Finmap.mem_of_lookup_eq_some hpooled))

/-- Where there is a transaction there is a candidate. -/
theorem Shape.keys_eq_empty (horder : ¬ pool.evictionOrder.Nonempty) : pool.hashes.keys = ∅ := by
  refine Finset.eq_empty_of_forall_notMem fun hash hhash => horder ?_
  obtain ⟨transaction, hpooled⟩ := Finmap.mem_iff.mp (Finmap.mem_keys.mp hhash)
  obtain ⟨-, slot, -, hslot⟩ := hshape.filed.underHash hash transaction hpooled
  cases slot with
  | nonceFree replayId =>
    exact ⟨_, hshape.mem_evictionOrder.mpr ⟨_, _, .inr ⟨replayId, hslot, rfl⟩, rfl⟩⟩
  | lane laneId =>
    obtain ⟨lane, hlane, -⟩ := Option.bind_eq_some_iff.mp hslot
    obtain ⟨last, tail, htail⟩ := exists_last (hshape.lanes laneId lane hlane).2
    exact ⟨_, hshape.mem_evictionOrder.mpr
      ⟨_, _, .inl ⟨laneId, lane, last, hlane, htail, rfl⟩, rfl⟩⟩

theorem Shape.evictRounds {rounds : Nat} (hrounds : pool.hashes.keys.card ≤ rounds) :
    Evictions rules pool (evictRounds rules pool rounds).1 (evictRounds rules pool rounds).2 := by
  induction rounds generalizing pool with
  | zero => exact .done (.inr (Finset.card_eq_zero.mp (Nat.le_zero.mp hrounds)))
  | succ rounds ih =>
    unfold TwoDNoncePool.evictRounds
    by_cases hexceeded : pool.isExceeded rules = true
    · rw [if_pos hexceeded]
      by_cases horder : pool.evictionOrder.Nonempty
      · obtain ⟨transaction, after, hremove, hevicts, hafter, hless⟩ :=
          hshape.evicts hexceeded horder
        rw [dif_pos horder, hremove]
        exact .evict hevicts (ih hafter (by omega))
      · rw [dif_neg horder]
        exact .done (.inr (hshape.keys_eq_empty horder))
    · rw [if_neg hexceeded]
      exact .done (.inl (Bool.eq_false_iff.mpr hexceeded))

end Shape

/-- However a pool came about, evictions end when it fits or is empty. -/
theorem evictOverCapacity_evictions {length : Nat} (hrun : Run rules length pool) :
    Evictions rules pool (evictOverCapacity rules pool).1 (evictOverCapacity rules pool).2 :=
  hrun.shape.evictRounds le_rfl

/-- Rules under which nothing fits. -/
def closedRules : PoolRules := { openRules with isExceeded := fun _ _ => true }

theorem evictOverCapacity_evictions_free :
    Evictions closedRules (new.step closedRules (insertFree 0))
      (evictOverCapacity closedRules (new.step closedRules (insertFree 0))).1
      (evictOverCapacity closedRules (new.step closedRules (insertFree 0))).2 :=
  evictOverCapacity_evictions (.step .new _)

end TwoDNoncePool

end BaseChain
