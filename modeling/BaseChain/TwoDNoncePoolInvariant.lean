/-
What the pool keeps: every transaction is filed once under its hash, every lane is
valid, and the indexes say what the lanes say.
-/
import BaseChain.SenderReferences

namespace BaseChain

open Function List NonceLane SidecarUsage Table
open SidecarUsage (Accounted Names)

namespace TwoDNoncePool

/-- A place for one transaction. -/
inductive Slot where
  | lane (laneId : LaneId) (nonce : Nat)
  | nonceFree (replayId : B256)
deriving DecidableEq

/-- The place of a transaction. -/
def slotOf (rules : PoolRules) (transaction : PoolTransaction) : Option Slot :=
  match transaction.eip8130ReplayId with
  | some replayId => some (.nonceFree replayId)
  | none => (laneKey rules transaction).map fun nonceKey =>
    .lane (transaction.sender, nonceKey) transaction.nonce

/-- What lanes and replay ids hold in a place. -/
def slotContent (lanes : Table LaneId NonceLane)
    (nonceFree : Table B256 PoolTransaction) : Slot → Option PoolTransaction
  | .lane laneId nonce =>
    (lanes.lookup laneId).bind fun lane => lane.transactions.lookup nonce
  | .nonceFree replayId => nonceFree.lookup replayId

theorem slotContent_lane {lanes : Table LaneId NonceLane}
    {nonceFree : Table B256 PoolTransaction} {laneId : LaneId}
    {lane : NonceLane} (hlane : lanes.lookup laneId = some lane) (nonce : Nat) :
    slotContent lanes nonceFree (.lane laneId nonce) = lane.transactions.lookup nonce := by
  simp [slotContent, hlane]

variable {rules : PoolRules}

section Filed

variable {content : Slot → Option PoolTransaction} {hashes : Table TxHash PoolTransaction}
  {slot : Slot} {transaction : PoolTransaction}

/-- The transactions under the hashes are those in the places, each in its own. -/
structure Filed (rules : PoolRules) (content : Slot → Option PoolTransaction)
    (hashes : Table TxHash PoolTransaction) : Prop where
  inSlot : ∀ slot transaction, content slot = some transaction →
    slotOf rules transaction = some slot ∧ hashes.lookup transaction.hash = some transaction
  underHash : ∀ hash transaction, hashes.lookup hash = some transaction → transaction.hash = hash ∧
      ∃ slot, slotOf rules transaction = some slot ∧ content slot = some transaction

theorem Filed.slot_eq (hfiled : Filed rules content hashes) {other : Slot}
    {next : PoolTransaction} (hslot : content slot = some transaction)
    (hother : content other = some next) (hhash : transaction.hash = next.hash) :
    slot = other := by
  obtain ⟨hplace, hlookup⟩ := hfiled.inSlot slot transaction hslot
  obtain ⟨hotherPlace, hotherLookup⟩ := hfiled.inSlot other next hother
  rw [hhash, hotherLookup] at hlookup
  cases hlookup
  exact Option.some.inj (hplace.symm.trans hotherPlace)

section

variable (hfiled : Filed rules content hashes)
include hfiled

theorem Filed.erase (hslot : content slot = some transaction) :
    Filed rules (update content slot none) (hashes.erase transaction.hash) := by
  constructor
  · intro other next hother
    by_cases hsame : other = slot
    · rw [hsame, update_self] at hother
      cases hother
    · rw [update_of_ne hsame] at hother
      obtain ⟨hplace, hlookup⟩ := hfiled.inSlot other next hother
      refine ⟨hplace, ?_⟩
      rw [lookup_erase, if_neg]
      · exact hlookup
      · exact fun hhash => hsame (hfiled.slot_eq hother hslot hhash)
  · intro hash next hnext
    rw [lookup_erase] at hnext
    split at hnext
    · cases hnext
    rename_i hhash
    obtain ⟨hkey, other, hplace, hother⟩ := hfiled.underHash hash next hnext
    refine ⟨hkey, other, hplace, ?_⟩
    rw [update_of_ne]
    · exact hother
    · rintro rfl
      rw [hslot] at hother
      cases hother
      exact hhash hkey.symm

theorem Filed.insert (hempty : content slot = none) (hplace : slotOf rules transaction = some slot)
    (hnew : hashes.lookup transaction.hash = none) :
    Filed rules (update content slot (some transaction))
      (hashes.insert transaction.hash transaction) := by
  constructor
  · intro other next hother
    by_cases hsame : other = slot
    · rw [hsame, update_self] at hother
      cases hother
      exact ⟨hsame ▸ hplace, Finmap.lookup_insert _⟩
    · rw [update_of_ne hsame] at hother
      obtain ⟨hplace, hlookup⟩ := hfiled.inSlot other next hother
      refine ⟨hplace, ?_⟩
      rw [lookup_insert, if_neg]
      · exact hlookup
      · intro hhash
        rw [hhash, hnew] at hlookup
        cases hlookup
  · intro hash next hnext
    rw [lookup_insert] at hnext
    split at hnext
    · rename_i hhash
      cases hnext
      exact ⟨hhash.symm, slot, hplace, update_self _ _ _⟩
    · obtain ⟨hkey, other, hplace, hother⟩ := hfiled.underHash hash next hnext
      refine ⟨hkey, other, hplace, ?_⟩
      rw [update_of_ne]
      · exact hother
      · rintro rfl
        rw [hempty] at hother
        cases hother

/-- A transaction takes the place of another one. -/
theorem Filed.replace {existing : PoolTransaction} (hslot : content slot = some existing)
    (hplace : slotOf rules transaction = some slot)
    (hnew : hashes.lookup transaction.hash = none) :
    Filed rules (update content slot (some transaction))
      ((hashes.erase existing.hash).insert transaction.hash transaction) := by
  have hcleared := hfiled.erase hslot
  have hnew : (hashes.erase existing.hash).lookup transaction.hash = none := by
    rw [lookup_erase]
    split
    · rfl
    · exact hnew
  have hfilled := hcleared.insert (update_self _ _ _) hplace hnew
  rwa [update_idem] at hfilled

end

end Filed

section Indexed

variable {pool : TwoDNoncePool} {laneId : LaneId}

/-- The indexes beside the lanes and the nonce-free transactions. -/
structure Indexed (rules : PoolRules) (pool : TwoDNoncePool) : Prop where
  candidates : ∀ laneId, pool.laneCandidates.lookup laneId =
    (pool.lanes.lookup laneId).bind (tailKey rules)
  order : ∀ key, key ∈ pool.evictionOrder ↔
    (∃ laneId, pool.laneCandidates.lookup laneId = some key) ∨
      ∃ replayId transaction, pool.nonceFree.lookup replayId = some transaction ∧
        key = evictionKey rules transaction true
  ahead : ∀ laneId, pool.aheadOfState.lookup laneId = (pool.lanes.lookup laneId).bind fun lane =>
      if lane.stateNonce < lane.nextNonce then some lane.stateNonce else none
  shared : ∀ laneId ∈ pool.sharedLanes, laneId ∈ pool.lanes

variable {key : EvictionKey}

theorem tailKey_eq_some {lane : NonceLane} (hkey : tailKey rules lane = some key) :
    ∃ nonce transaction, lane.last = some (nonce, transaction) ∧
      key = evictionKey rules transaction lane.isFullyPending := by
  obtain ⟨⟨nonce, transaction⟩, hlast, hkey⟩ := Option.map_eq_some_iff.mp hkey
  exact ⟨nonce, transaction, hlast, hkey.symm⟩

/-- A lane's candidate is a transaction of that lane. -/
theorem Indexed.candidate_slot (hindexed : Indexed rules pool)
    (hkey : pool.laneCandidates.lookup laneId = some key) :
    ∃ nonce transaction, slotContent pool.lanes pool.nonceFree (.lane laneId nonce) =
        some transaction ∧ key.hash = transaction.hash := by
  rw [hindexed.candidates] at hkey
  obtain ⟨lane, hlane, htail⟩ := Option.bind_eq_some_iff.mp hkey
  obtain ⟨nonce, transaction, hlast, rfl⟩ := tailKey_eq_some htail
  refine ⟨nonce, transaction, ?_, rfl⟩
  rw [slotContent_lane hlane]
  exact (last_eq_some_iff.mp hlast).1

/-- No other lane and no nonce-free transaction has a lane's key. -/
theorem Indexed.candidate_unique (hindexed : Indexed rules pool)
    (hfiled : Filed rules (slotContent pool.lanes pool.nonceFree) pool.hashes)
    (hkey : pool.laneCandidates.lookup laneId = some key) :
    (∀ other, pool.laneCandidates.lookup other = some key → other = laneId) ∧
      ∀ replayId transaction, pool.nonceFree.lookup replayId = some transaction →
        evictionKey rules transaction true ≠ key := by
  obtain ⟨nonce, transaction, hslot, hhash⟩ := hindexed.candidate_slot hkey
  constructor
  · intro other hother
    obtain ⟨otherNonce, next, hnext, hnextHash⟩ := hindexed.candidate_slot hother
    have hsame := hfiled.slot_eq hnext hslot (hnextHash.symm.trans hhash)
    exact (Slot.lane.inj hsame).1
  · rintro replayId next hnext rfl
    have hsame := @Filed.slot_eq rules _ pool.hashes (.nonceFree replayId) next
      hfiled (.lane laneId nonce) transaction hnext hslot hhash
    cases hsame

/-- A refresh replaces what the indexes say about one lane, and nothing else. -/
theorem refreshLaneIndexes_eq (rules : PoolRules) (pool : TwoDNoncePool) (laneId : LaneId) :
    ∃ laneCandidates evictionOrder aheadOfState sharedLanes, refreshLaneIndexes rules pool laneId =
        { pool with laneCandidates, evictionOrder, aheadOfState, sharedLanes } ∧
      (∀ other, laneCandidates.lookup other = if other = laneId then
          (pool.lanes.lookup laneId).bind (tailKey rules)
        else pool.laneCandidates.lookup other) ∧
      (∀ key, key ∈ evictionOrder ↔ laneCandidates.lookup laneId = some key ∨
        key ∈ pool.evictionOrder ∧ pool.laneCandidates.lookup laneId ≠ some key) ∧
      (∀ other, aheadOfState.lookup other = if other = laneId then
          (pool.lanes.lookup laneId).bind fun lane =>
            if lane.stateNonce < lane.nextNonce then some lane.stateNonce else none
        else pool.aheadOfState.lookup other) ∧
      ∀ other ∈ sharedLanes, other ∈ pool.sharedLanes ∧ (other = laneId → laneId ∈ pool.lanes) := by
  unfold refreshLaneIndexes dropCandidate rankCandidate
  -- by the candidate that the lane had, by whether it is there and by the one it has now
  cases hprevious : pool.laneCandidates.lookup laneId <;>
    cases hlane : pool.lanes.lookup laneId <;> simp only [hlane]
  case none.some lane | some.some lane =>
    cases htail : tailKey rules lane <;> refine ⟨_, _, _, _, rfl, ?_⟩ <;>
      grind [lookup_erase, lookup_insert, Finmap.mem_iff]
  all_goals
    refine ⟨_, _, _, _, rfl, ?_⟩
    grind [lookup_erase, Finmap.mem_iff]

/-- The indexes of a pool after one lane changed. -/
theorem Indexed.refresh (hindexed : Indexed rules pool)
    (hfiled : Filed rules (slotContent pool.lanes pool.nonceFree) pool.hashes)
    {lanes : Table LaneId NonceLane} {hashes : Table TxHash PoolTransaction}
    {usage : SidecarUsage}
    (hothers : ∀ other, other ≠ laneId → lanes.lookup other = pool.lanes.lookup other) :
    Indexed rules (refreshLaneIndexes rules { pool with lanes, hashes, usage } laneId) := by
  obtain ⟨laneCandidates, evictionOrder, aheadOfState, sharedLanes, heq, hcands, horder, hahead,
    hshared⟩ := refreshLaneIndexes_eq rules { pool with lanes, hashes, usage } laneId
  rw [heq]
  refine ⟨?_, ?_, ?_, ?_⟩
  · intro other
    rw [hcands]
    split
    · rename_i hother
      rw [hother]
    · rename_i hother
      rw [hothers other hother]
      exact hindexed.candidates other
  · intro key
    -- the key that the lane had is no other lane's and no nonce-free transaction's
    rw [horder, hindexed.order]
    constructor
    · rintro (hown | ⟨⟨other, hother⟩ | hfree, hnotOwn⟩)
      · exact .inl ⟨laneId, hown⟩
      · refine .inl ⟨other, ?_⟩
        rw [hcands, if_neg]
        · exact hother
        · rintro rfl
          exact hnotOwn hother
      · exact .inr hfree
    · rintro (⟨other, hother⟩ | ⟨replayId, transaction, hfree, rfl⟩)
      · by_cases hsame : other = laneId
        · exact .inl (hsame ▸ hother)
        · rw [hcands, if_neg hsame] at hother
          refine .inr ⟨.inl ⟨other, hother⟩, fun hown => ?_⟩
          exact hsame ((hindexed.candidate_unique hfiled hown).1 other hother)
      · refine .inr ⟨.inr ⟨replayId, transaction, hfree, rfl⟩, fun hown => ?_⟩
        exact (hindexed.candidate_unique hfiled hown).2 replayId transaction hfree rfl
  · intro other
    rw [hahead]
    split
    · rename_i hother
      rw [hother]
    · rename_i hother
      rw [hothers other hother]
      exact hindexed.ahead other
  · intro other hother
    obtain ⟨hwas, hkept⟩ := hshared other hother
    by_cases hsame : other = laneId
    · exact hsame ▸ hkept hsame
    · have hpooled := hindexed.shared other hwas
      rw [Finmap.mem_iff] at hpooled ⊢
      rwa [hothers other hsame]

end Indexed

section Invariant

variable {extra : Address → Nat} {pool : TwoDNoncePool} {laneId : LaneId}

/-- What holds of a pool between operations.  There may be references of a
transaction that is on its way into the pool. -/
structure Invariant (rules : PoolRules) (extra : Address → Nat) (pool : TwoDNoncePool) : Prop where
  filed : Filed rules (slotContent pool.lanes pool.nonceFree) pool.hashes
  accounted : Accounted extra pool.hashes pool.usage
  lanes : ∀ laneId lane, pool.lanes.lookup laneId = some lane → lane.Valid ∧ lane.transactions ≠ ∅
  indexed : Indexed rules pool

/-- The part of it that no id has to do with. -/
structure Shape (rules : PoolRules) (pool : TwoDNoncePool) : Prop where
  filed : Filed rules (slotContent pool.lanes pool.nonceFree) pool.hashes
  lanes : ∀ laneId lane, pool.lanes.lookup laneId = some lane → lane.Valid ∧ lane.transactions ≠ ∅
  indexed : Indexed rules pool

theorem Invariant.shape (hinv : Invariant rules extra pool) : Shape rules pool :=
  ⟨hinv.filed, hinv.lanes, hinv.indexed⟩

theorem Shape.invariant (hshape : Shape rules pool)
    (hacct : Accounted extra pool.hashes pool.usage) : Invariant rules extra pool :=
  ⟨hshape.filed, hacct, hshape.lanes, hshape.indexed⟩

@[simp] theorem refreshLaneIndexes_keeps :
    (refreshLaneIndexes rules pool laneId).lanes = pool.lanes ∧
      (refreshLaneIndexes rules pool laneId).nonceFree = pool.nonceFree ∧
      (refreshLaneIndexes rules pool laneId).hashes = pool.hashes ∧
      (refreshLaneIndexes rules pool laneId).usage = pool.usage := by
  obtain ⟨_, _, _, _, heq, -⟩ := refreshLaneIndexes_eq rules pool laneId
  simp [heq]

variable {lanes : Table LaneId NonceLane} (hshape : Shape rules pool)

theorem lookup_lanesWith (lanes : Table LaneId NonceLane) (laneId : LaneId)
    (lane : NonceLane) (other : LaneId) :
    (lanesWith lanes laneId lane).lookup other = if other = laneId then
        if lane.transactions = ∅ then none else some lane
      else lanes.lookup other := by
  unfold lanesWith
  split
  · exact lookup_erase _ _ _
  · exact lookup_insert _ _ _ _

variable {lane : NonceLane}

theorem lanesWith_others (other : LaneId) (hother : other ≠ laneId) :
    (lanesWith lanes laneId lane).lookup other = lanes.lookup other := by
  rw [lookup_lanesWith, if_neg hother]

theorem lanesWith_lane {found : NonceLane}
    (hfound : (lanesWith lanes laneId lane).lookup laneId = some found) :
    found = lane ∧ lane.transactions ≠ ∅ := by
  rw [lookup_lanesWith, if_pos rfl] at hfound
  split at hfound
  · cases hfound
  · rename_i hmembers
    exact ⟨(Option.some.inj hfound).symm, hmembers⟩

include hshape in
/-- A pool whose change of one lane is filed. -/
theorem Shape.refresh {hashes : Table TxHash PoolTransaction} {usage : SidecarUsage}
    (hvalid : lane.Valid)
    (hfiled : Filed rules (slotContent (lanesWith pool.lanes laneId lane) pool.nonceFree) hashes) :
    Shape rules (refreshLaneIndexes rules
      { pool with lanes := lanesWith pool.lanes laneId lane, hashes, usage } laneId) := by
  refine ⟨?_, ?_, hshape.indexed.refresh hshape.filed lanesWith_others⟩
  · rw [refreshLaneIndexes_keeps.1, refreshLaneIndexes_keeps.2.1, refreshLaneIndexes_keeps.2.2.1]
    exact hfiled
  · intro other found hfound
    rw [refreshLaneIndexes_keeps.1] at hfound
    by_cases hother : other = laneId
    · subst hother
      obtain ⟨rfl, hmembers⟩ := lanesWith_lane hfound
      exact ⟨hvalid, hmembers⟩
    · rw [lanesWith_others other hother] at hfound
      exact hshape.lanes other found hfound

theorem slotContent_lanesWith (lanes : Table LaneId NonceLane)
    (nonceFree : Table B256 PoolTransaction) (laneId : LaneId)
    (lane : NonceLane) (slot : Slot) :
    slotContent (lanesWith lanes laneId lane) nonceFree slot = match slot with
      | .lane other nonce =>
        if other = laneId then lane.transactions.lookup nonce
        else slotContent lanes nonceFree (.lane other nonce)
      | .nonceFree replayId => nonceFree.lookup replayId := by
  cases slot with
  | nonceFree => rfl
  | lane other =>
    unfold slotContent
    dsimp only
    rw [lookup_lanesWith]
    by_cases hother : other = laneId
    · rw [if_pos hother]
      split
      · rename_i hempty
        rw [hempty]
        rfl
      · rfl
    · rw [if_neg hother, if_neg hother]

variable (discarded : List PoolTransaction)

theorem foldl_forget_eq (pool : TwoDNoncePool) : discarded.foldl forget pool =
      { pool with
        hashes := (discarded.foldl forget pool).hashes,
        usage := (discarded.foldl forget pool).usage } := by
  induction discarded generalizing pool with
  | nil => rfl
  | cons _ _ ih =>
    rw [foldl_cons, ih]
    rfl

variable (content : Slot → Option PoolTransaction)

/-- What places hold after some nonces of a lane were cleared. -/
def clearNonces (laneId : LaneId) (nonces : List Nat) : Slot → Option PoolTransaction
  | .lane other nonce =>
    if other = laneId ∧ nonce ∈ nonces then none
    else content (.lane other nonce)
  | .nonceFree replayId => content (.nonceFree replayId)

theorem clearNonces_cons (laneId : LaneId) (nonce : Nat) (nonces : List Nat) :
    clearNonces content laneId (nonce :: nonces) =
      clearNonces (update content (.lane laneId nonce) none) laneId
        nonces := by
  funext slot
  cases slot with
  | nonceFree => exact (update_of_ne (by nofun) _ _).symm
  | lane other at' =>
    unfold clearNonces
    dsimp only
    by_cases hin : other = laneId ∧ at' ∈ nonces
    · rw [if_pos hin, if_pos ⟨hin.1, mem_cons_of_mem _ hin.2⟩]
    · rw [if_neg hin]
      by_cases hhead : other = laneId ∧ at' = nonce
      · obtain ⟨rfl, rfl⟩ := hhead
        rw [if_pos ⟨rfl, mem_cons_self⟩, update_self]
      · rw [if_neg, update_of_ne]
        · intro hsame
          cases hsame
          exact hhead ⟨rfl, rfl⟩
        · rintro ⟨hlane, hmem⟩
          rcases mem_cons.mp hmem with hsame | hlater
          · exact hhead ⟨hlane, hsame⟩
          · exact hin ⟨hlane, hlater⟩

/-- A transaction on its way into the pool keeps its ids. -/
def KeepsNames (extra : Address → Nat) (pool after : TwoDNoncePool) : Prop :=
  ∀ transaction, Names pool.usage.senderIds transaction →
    (∀ address, transaction.references address ≤ extra address) →
    Names after.usage.senderIds transaction

/-- Every transaction refers to its sender. -/
theorem keepsNames_zero (pool after : TwoDNoncePool) : KeepsNames 0 pool after := by
  intro transaction _ hextra
  exact absurd (hextra transaction.sender) (by simp [PoolTransaction.references])

/-- Members of a lane go, one after the other. -/
theorem foldl_forget_spec {content : Slot → Option PoolTransaction}
    {entries : List (Nat × PoolTransaction)}
    (hfiled : Filed rules content pool.hashes) (hnodup : (entries.map Prod.fst).Nodup)
    (hentries : ∀ entry ∈ entries, content (.lane laneId entry.1) = some entry.2) :
    Filed rules (clearNonces content laneId (entries.map Prod.fst))
        ((entries.map Prod.snd).foldl forget pool).hashes ∧
      ∀ {extra}, Accounted extra pool.hashes pool.usage →
        Accounted extra ((entries.map Prod.snd).foldl forget pool).hashes
            ((entries.map Prod.snd).foldl forget pool).usage ∧
          KeepsNames extra pool ((entries.map Prod.snd).foldl forget pool) := by
  induction entries generalizing pool content with
  | nil =>
    refine ⟨?_, fun hacct => ⟨hacct, fun other hnames _ => hnames⟩⟩
    have hsame : clearNonces content laneId [] = content := by
      funext slot
      cases slot with
      | nonceFree => rfl
      | lane => simp [clearNonces]
    rw [map_nil, hsame]
    exact hfiled
  | cons entry entries ih =>
    have hslot := hentries entry mem_cons_self
    have hpooled := (hfiled.inSlot _ _ hslot).2
    rw [map_cons, nodup_cons] at hnodup
    rw [map_cons, map_cons, clearNonces_cons]
    have hlaters : ∀ later ∈ entries, update content
        (.lane laneId entry.1) none (.lane laneId later.1) = some later.2 := by
      intro later hlater
      rw [update_of_ne]
      · exact hentries later (mem_cons_of_mem _ hlater)
      · intro hsame
        apply hnodup.1
        rw [← (Slot.lane.inj hsame).2]
        exact mem_map_of_mem hlater
    obtain ⟨hfiledAfter, hafter⟩ := @ih (pool.forget entry.2) _
      (hfiled.erase hslot) hnodup.2 hlaters
    refine ⟨hfiledAfter, fun hacct => ?_⟩
    obtain ⟨haccountedAfter, hkept⟩ := hafter (hacct.remove hpooled)
    refine ⟨haccountedAfter, fun other hnames hextra => ?_⟩
    exact hkept other (hacct.remove_names hpooled hnames hextra) hextra

variable {transaction : PoolTransaction}

theorem foldl_forget_hashes (pool : TwoDNoncePool)
    {hash : TxHash} (hpooled : (discarded.foldl forget pool).hashes.lookup hash =
      some transaction) : pool.hashes.lookup hash = some transaction := by
  induction discarded generalizing pool with
  | nil => exact hpooled
  | cons first _ ih =>
    have hbefore := ih (pool.forget first) hpooled
    unfold forget at hbefore
    rw [lookup_erase] at hbefore
    split at hbefore
    · cases hbefore
    · exact hbefore

theorem foldl_forget_nextId (pool : TwoDNoncePool) :
    (discarded.foldl forget pool).usage.senderIds.nextId = pool.usage.senderIds.nextId := by
  induction discarded generalizing pool with
  | nil => rfl
  | cons _ _ ih =>
    rw [foldl_cons, ih]
    exact remove_nextId _ _

/-- What a moved cursor leaves as it was. -/
structure Moved (extra : Address → Nat) (pool : TwoDNoncePool)
    (laneId : LaneId) (cursor : LaneCursor) (after : TwoDNoncePool) : Prop where
  content : ∀ slot, (∀ nonce, slot = .lane laneId nonce → cursor.nextNonce ≤ nonce) →
    slotContent after.lanes after.nonceFree slot = slotContent pool.lanes pool.nonceFree slot
  cursor : ∀ lane, after.lanes.lookup laneId = some lane → lane.cursor = cursor
  others : ∀ other, other ≠ laneId → after.lanes.lookup other = pool.lanes.lookup other
  hashes : ∀ hash transaction, after.hashes.lookup hash = some transaction →
    pool.hashes.lookup hash = some transaction
  nonceFree : after.nonceFree = pool.nonceFree
  nextId : after.usage.senderIds.nextId = pool.usage.senderIds.nextId
  names : KeepsNames extra pool after

/-- A moved cursor, whatever there is of ids. -/
structure Moves (pool : TwoDNoncePool) (laneId : LaneId) (cursor : LaneCursor)
    (after : TwoDNoncePool) : Prop where
  moved : ∀ {extra}, KeepsNames extra pool after → Moved extra pool laneId cursor after
  kept : ∀ {extra}, Accounted extra pool.hashes pool.usage →
    Accounted extra after.hashes after.usage ∧ KeepsNames extra pool after

/-- The members of a lane below a nonce, in order. -/
theorem mem_stale {next : Nat} {entry : Nat × PoolTransaction} :
    entry ∈ (lane.setNextNonce next).1.inOrder ↔
      lane.transactions.lookup entry.1 = some entry.2 ∧ entry.1 < next := by
  rw [show entry = (entry.1, entry.2) from rfl, mem_inOrder]
  unfold setNextNonce
  rw [lookup_filterKeys]
  by_cases hbelow : entry.1 < next
  · simp [hbelow]
  · simp [hbelow]

theorem slotContent_setNextNonce (next : Nat)
    (hlane : ∀ nonce, slotContent pool.lanes pool.nonceFree
      (.lane laneId nonce) = lane.transactions.lookup nonce) :
    slotContent (lanesWith pool.lanes laneId (lane.setNextNonce next).2) pool.nonceFree =
      clearNonces (slotContent pool.lanes pool.nonceFree) laneId
        ((lane.setNextNonce next).1.inOrder.map Prod.fst) := by
  funext slot
  rw [slotContent_lanesWith]
  cases slot with
  | nonceFree => rfl
  | lane other nonce =>
    unfold clearNonces
    dsimp only
    by_cases hother : other = laneId
    · subst hother
      rw [if_pos rfl, hlane]
      have hkept : (lane.setNextNonce next).2.transactions.lookup nonce =
          if next ≤ nonce then lane.transactions.lookup nonce else none := by
        refine (lookup_filterKeys _ _ _).trans ?_
        simp
      rw [hkept]
      by_cases hbelow : nonce < next
      · rw [if_neg (not_le.mpr hbelow)]
        cases hfound : lane.transactions.lookup nonce with
        | none => exact (ite_self _).symm
        | some transaction =>
          have hentry : (nonce, transaction) ∈ _ := mem_stale.mpr ⟨hfound, hbelow⟩
          rw [if_pos ⟨rfl, mem_map_of_mem hentry⟩]
      · rw [if_pos (not_lt.mp hbelow), if_neg]
        rintro ⟨-, hmem⟩
        obtain ⟨entry, hentry, rfl⟩ := mem_map.mp hmem
        exact hbelow (mem_stale.mp hentry).2
    · rw [if_neg hother, if_neg fun hmem => hother hmem.1]

include hshape in
/-- A lane was stored at a cursor, with what it held from there on. -/
theorem Shape.anchor {hashes : Table TxHash PoolTransaction}
    {usage : SidecarUsage} (hvalid : lane.Valid)
    (hfiled : Filed rules (slotContent (lanesWith pool.lanes laneId lane) pool.nonceFree) hashes)
    (hnextId : usage.senderIds.nextId = pool.usage.senderIds.nextId)
    (hkept : ∀ {extra}, Accounted extra pool.hashes pool.usage →
      Accounted extra hashes usage ∧ KeepsNames extra pool { pool with usage })
    (hcontent : ∀ nonce, lane.nextNonce ≤ nonce → lane.transactions.lookup nonce =
        slotContent pool.lanes pool.nonceFree (.lane laneId nonce))
    (hhashes : ∀ hash transaction, hashes.lookup hash = some transaction →
      pool.hashes.lookup hash = some transaction) :
    Shape rules (refreshLaneIndexes rules
        { pool with lanes := lanesWith pool.lanes laneId lane, hashes, usage } laneId) ∧
      Moves pool laneId lane.cursor (refreshLaneIndexes rules
        { pool with lanes := lanesWith pool.lanes laneId lane, hashes, usage } laneId) := by
  refine ⟨hshape.refresh hvalid hfiled,
    fun hnames => ⟨?_, ?_, ?_, ?_, by simp, by simp [hnextId], hnames⟩, ?_⟩
  · intro slot hslot
    simp only [refreshLaneIndexes_keeps.1, refreshLaneIndexes_keeps.2.1]
    rw [slotContent_lanesWith]
    cases slot with
    | nonceFree => rfl
    | lane _ nonce =>
      dsimp only
      split
      · rename_i hother
        subst hother
        exact hcontent nonce (hslot nonce rfl)
      · rfl
  · intro found hfound
    simp only [refreshLaneIndexes_keeps.1] at hfound
    rw [(lanesWith_lane hfound).1]
  · intro other hother
    simp only [refreshLaneIndexes_keeps.1]
    exact lanesWith_others other hother
  · intro hash transaction hpooled
    simp only [refreshLaneIndexes_keeps.2.2.1] at hpooled
    exact hhashes hash transaction hpooled
  · intro _ hacct
    unfold KeepsNames
    rw [refreshLaneIndexes_keeps.2.2.1, refreshLaneIndexes_keeps.2.2.2]
    exact hkept hacct

include hshape in
theorem Shape.setLaneCursor (laneId : LaneId) (cursor : LaneCursor) :
    Shape rules (setLaneCursor rules pool laneId cursor).2 ∧
      Moves pool laneId cursor (setLaneCursor rules pool laneId cursor).2 := by
  have hsame : (∀ lane, pool.lanes.lookup laneId = some lane →
      lane.cursor = cursor) → Moves pool laneId cursor pool := fun hcursor =>
    ⟨fun hnames => ⟨fun slot _ => rfl, hcursor, fun other _ => rfl,
      fun hash transaction hpooled => hpooled, rfl, rfl, hnames⟩,
      fun hacct => ⟨hacct, fun transaction hnames _ => hnames⟩⟩
  unfold TwoDNoncePool.setLaneCursor
  cases hlane : pool.lanes.lookup laneId with
  | none =>
    refine ⟨hshape, hsame ?_⟩
    intro lane hfound
    rw [hlane] at hfound
    cases hfound
  | some lane =>
    obtain ⟨hvalid, hmembers⟩ := hshape.lanes laneId lane hlane
    dsimp only
    by_cases hcursor : lane.cursor = cursor
    · rw [if_pos hcursor]
      refine ⟨hshape, hsame ?_⟩
      intro found hfound
      rw [hlane] at hfound
      cases hfound
      exact hcursor
    · rw [if_neg hcursor]
      generalize hanchored : { lane with stateNonce := cursor.stateNonce } = anchored
      have hanchoredValid : anchored.Valid := by
        rw [← hanchored]
        exact ⟨hvalid.bounded, hvalid.live, hvalid.run, hvalid.stop⟩
      have hcontent : ∀ nonce, slotContent pool.lanes pool.nonceFree
          (.lane laneId nonce) = anchored.transactions.lookup nonce := by
        intro nonce
        rw [slotContent_lane hlane, ← hanchored]
      by_cases hnext : lane.nextNonce = cursor.nextNonce
      · have hmoved : anchored.cursor = cursor := by rw [← hanchored, NonceLane.cursor, hnext]
        have hstored : pool.lanes.insert laneId anchored = lanesWith pool.lanes laneId anchored :=
          (if_neg (hanchored ▸ hmembers)).symm
        rw [if_pos hnext, hstored, ← hmoved]
        apply hshape.anchor hanchoredValid
        · have hkept : slotContent (lanesWith pool.lanes laneId anchored) pool.nonceFree =
              slotContent pool.lanes pool.nonceFree := by
            funext slot
            rw [slotContent_lanesWith]
            cases slot with
            | nonceFree => rfl
            | lane other nonce =>
              dsimp only
              split
              · rename_i hother
                rw [hother, hcontent]
              · rfl
          rw [hkept]
          exact hshape.filed
        · rfl
        · exact fun hacct => ⟨hacct, fun transaction hnames _ => hnames⟩
        · exact fun nonce _ => (hcontent nonce).symm
        · exact fun hash transaction hpooled => hpooled
      · rw [if_neg hnext, foldl_forget_eq]
        have hmoved : (anchored.setNextNonce cursor.nextNonce).2.cursor = cursor := by
          rw [← hanchored]
          rfl
        obtain ⟨hfiled, hkept⟩ := @foldl_forget_spec rules pool
          laneId _ (anchored.setNextNonce cursor.nextNonce).1.inOrder
          hshape.filed ((map_fst_inOrder_sublist _).nodup (Finset.sort_nodup _ _))
          (fun entry hentry => (hcontent _).trans (mem_stale.mp hentry).1)
        rw [← slotContent_setNextNonce cursor.nextNonce hcontent] at hfiled
        have hanchor := hshape.anchor (hanchoredValid.setNextNonce cursor.nextNonce) hfiled
          (foldl_forget_nextId _ _) hkept
        rw [hmoved] at hanchor
        apply hanchor
        · intro nonce hnonce
          rw [hcontent]
          refine (lookup_filterKeys _ _ _).trans (if_pos ?_)
          exact decide_eq_true hnonce
        · exact fun hash transaction hpooled => foldl_forget_hashes _ _ hpooled

variable {cursor : LaneCursor}

include hshape in
theorem Shape.laneOrNew
    (hcursor : ∀ lane, pool.lanes.lookup laneId = some lane → lane.cursor = cursor) :
    (pool.laneOrNew laneId cursor).Valid ∧ (pool.laneOrNew laneId cursor).cursor = cursor ∧
      ∀ nonce, slotContent pool.lanes pool.nonceFree (.lane laneId nonce) =
        (pool.laneOrNew laneId cursor).transactions.lookup nonce := by
  unfold TwoDNoncePool.laneOrNew
  cases hlane : pool.lanes.lookup laneId with
  | none =>
    refine ⟨extendPendingRun_filterKeys_valid (by nofun), rfl, ?_⟩
    intro nonce
    refine Eq.trans ?_ (lookup_filterKeys _ _ _).symm
    simp [slotContent, hlane]
  | some lane =>
    exact ⟨(hshape.lanes laneId lane hlane).1, hcursor lane hlane, slotContent_lane hlane⟩

/-- Only the slot of a nonce depends on its entry in the lane. -/
theorem slotContent_updateLane {nonce : Nat} {after : NonceLane} {content : Option PoolTransaction}
    (hlane : ∀ nonce, slotContent pool.lanes pool.nonceFree
      (.lane laneId nonce) = lane.transactions.lookup nonce)
    (hafter : ∀ other, after.transactions.lookup other =
      if other = nonce then content else lane.transactions.lookup other) :
    slotContent (lanesWith pool.lanes laneId after) pool.nonceFree =
      update (slotContent pool.lanes pool.nonceFree) (.lane laneId nonce) content := by
  funext slot
  rw [slotContent_lanesWith]
  cases slot with
  | nonceFree => rfl
  | lane other at' =>
    dsimp only
    by_cases hother : other = laneId
    · subst hother
      rw [if_pos rfl, hafter]
      by_cases hnonce : at' = nonce
      · subst hnonce
        rw [if_pos rfl, update_self]
      · rw [if_neg hnonce, update_of_ne, hlane]
        exact fun hsame => hnonce (Slot.lane.inj hsame).2
    · rw [if_neg hother, update_of_ne]
      exact fun hsame => hother (Slot.lane.inj hsame).1

/-- A transaction goes into its lane, in the place of what was there. -/
theorem Shape.insertLane {transaction : PoolTransaction}
    {replaced : Option PoolTransaction} {lane : NonceLane} (hshape : Shape rules pool)
    (hvalid : lane.Valid) (hlive : lane.nextNonce ≤ transaction.nonce)
    (hlane : ∀ nonce, slotContent pool.lanes pool.nonceFree
      (.lane laneId nonce) = lane.transactions.lookup nonce)
    (hnew : pool.hashes.lookup transaction.hash = none)
    (hslot : slotOf rules transaction = some (.lane laneId transaction.nonce))
    (hreplaced : slotContent pool.lanes pool.nonceFree
      (.lane laneId transaction.nonce) = replaced) {after : TwoDNoncePool}
    (hafter : after = forgetReplaced
          { pool with
            lanes := pool.lanes.insert laneId (lane.insert transaction.nonce transaction).2,
            hashes := pool.hashes.insert transaction.hash transaction,
            usage := pool.usage.add transaction } replaced) :
    Shape rules (refreshLaneIndexes rules after laneId) ∧
      ∀ {extra}, Accounted (fun address => transaction.references address + extra address)
          pool.hashes pool.usage → Names pool.usage.senderIds transaction →
        Accounted extra after.hashes after.usage := by
  subst hafter
  have hmembers : (lane.insert transaction.nonce transaction).2.transactions ≠ ∅ := by
    rw [insert_transactions]
    intro hempty
    have hmember := congrArg (Finmap.lookup transaction.nonce) hempty
    rw [Finmap.lookup_insert] at hmember
    cases hmember
  have hcontent := slotContent_updateLane hlane fun other =>
    (congrArg _ (insert_transactions ..)).trans (lookup_insert _ transaction.nonce other transaction)
  have hinserted := hvalid.insert transaction transaction.hnonce hlive
  rw [← (if_neg hmembers : lanesWith pool.lanes laneId _ = _)]
  cases replaced with
  | none =>
    refine ⟨hshape.refresh hinserted ?_, fun hacct hnames => hacct.add hnames hnew⟩
    rw [hcontent]
    exact hshape.filed.insert hreplaced hslot hnew
  | some existing =>
    have hpooled := (hshape.filed.inSlot _ _ hreplaced).2
    have hne : existing.hash ≠ transaction.hash := by
      intro hsame
      rw [hsame, hnew] at hpooled
      cases hpooled
    constructor
    · apply hshape.refresh hinserted
      rw [hcontent, erase_insert_of_ne _ hne]
      exact hshape.filed.replace hreplaced hslot hnew
    · intro _ hacct hnames
      apply (hacct.add hnames hnew).remove
      rw [lookup_insert, if_neg hne]
      exact hpooled

include hshape in
theorem Shape.withUsage (usage : SidecarUsage) : Shape rules { pool with usage } :=
  ⟨hshape.filed, hshape.lanes, ⟨hshape.indexed.candidates, hshape.indexed.order,
    hshape.indexed.ahead, hshape.indexed.shared⟩⟩

/-- What an insertion that hands out ids at most twice keeps of the accounts. -/
def KeepsAccounts (pool after : TwoDNoncePool) : Prop :=
  ∀ {extra}, Accounted extra pool.hashes pool.usage → pool.usage.senderIds.nextId + 2 < 2 ^ 64 →
    Accounted extra after.hashes after.usage ∧
      after.usage.senderIds.nextId ≤ pool.usage.senderIds.nextId + 2

include hshape in
theorem Shape.storeInLane {transaction : PoolTransaction} {cursor : LaneCursor}
    {replaced : Option PoolTransaction}
    (hnew : pool.hashes.lookup transaction.hash = none)
    (hslot : slotOf rules transaction = some (.lane laneId transaction.nonce))
    (hlive : cursor.nextNonce ≤ transaction.nonce)
    (hreplaced : slotContent pool.lanes pool.nonceFree
      (.lane laneId transaction.nonce) = replaced) :
    Shape rules (storeInLane rules pool transaction laneId cursor replaced).2 ∧
      KeepsAccounts pool (storeInLane rules pool transaction laneId cursor replaced).2 := by
  have hids := fun {extra} (hacct : Accounted extra pool.hashes pool.usage) =>
    acquireIds_accounted hacct transaction
  obtain ⟨senderId, authorityIds, senderIds, hacquire⟩ :=
    acquireIds_eq pool.usage.senderIds transaction
  unfold TwoDNoncePool.storeInLane
  rw [hacquire] at hids ⊢
  dsimp only at hids ⊢
  obtain ⟨hshaped, hmoves⟩ := (hshape.withUsage { pool.usage with senderIds }).setLaneCursor
    laneId cursor
  rcases hset : TwoDNoncePool.setLaneCursor rules { pool with
    usage := { pool.usage with senderIds } } laneId cursor with ⟨anchor, after⟩
  rw [hset] at hshaped hmoves
  have hkept := hmoves.moved (keepsNames_zero _ _)
  obtain ⟨hvalid, hcursor, hlane⟩ := hshaped.laneOrNew hkept.cursor
  have hnext : (after.laneOrNew laneId cursor).nextNonce = cursor.nextNonce :=
    congrArg LaneCursor.nextNonce hcursor
  have hinserted := @Shape.insertLane rules after laneId
    { transaction with senderId, authorityIds } replaced _ hshaped hvalid (hnext.trans_le hlive)
    hlane ?_ hslot ?_ _ rfl
  · refine ⟨hinserted.1, fun hacct hroom => ?_⟩
    obtain ⟨hacquired, hnames, hnextId⟩ := hids hacct hroom
    obtain ⟨hafter, hkeeps⟩ := hmoves.kept hacquired
    rw [refreshLaneIndexes_keeps.2.2.1, refreshLaneIndexes_keeps.2.2.2]
    refine ⟨hinserted.2 hafter (hkeeps _ hnames fun address => Nat.le_add_right _ _), ?_⟩
    have hlater : after.usage.senderIds.nextId ≤
        pool.usage.senderIds.nextId + 2 := hkept.nextId.trans_le hnextId
    cases replaced with
    | none => exact hlater
    | some => exact (remove_nextId _ _).trans_le hlater
  · cases hpooled : after.hashes.lookup transaction.hash with
    | none => rfl
    | some =>
      have hbefore := hkept.hashes _ _ hpooled
      rw [hnew] at hbefore
      cases hbefore
  · refine (hkept.content _ ?_).trans hreplaced
    intro nonce hsame
    rw [← (Slot.lane.inj hsame).2]
    exact hlive

section NonceFree

variable {replayId : B256} {transaction : PoolTransaction}

/-- Only the slot of a replay id depends on its entry. -/
theorem slotContent_updateFree {lanes : Table LaneId NonceLane}
    {nonceFree after : Table B256 PoolTransaction} {content : Option PoolTransaction}
    (hafter : ∀ other, after.lookup other =
      if other = replayId then content else nonceFree.lookup other) :
    slotContent lanes after =
      update (slotContent lanes nonceFree) (.nonceFree replayId) content := by
  funext slot
  cases slot with
  | lane => exact (update_of_ne (by nofun) _ _).symm
  | nonceFree other =>
    refine (hafter other).trans ?_
    by_cases hother : other = replayId
    · subst hother
      rw [if_pos rfl, update_self]
    · rw [if_neg hother, update_of_ne fun hsame => hother (Slot.nonceFree.inj hsame)]
      rfl

include hshape in
theorem Shape.eraseFree (hfree : pool.nonceFree.lookup replayId = some transaction) :
    Shape rules
      { pool with
        nonceFree := pool.nonceFree.erase replayId,
        hashes := pool.hashes.erase transaction.hash,
        usage := pool.usage.remove transaction,
        evictionOrder := pool.evictionOrder.erase (evictionKey rules transaction true) } := by
  have hslot : slotContent pool.lanes pool.nonceFree (.nonceFree replayId) =
      some transaction := hfree
  have hindexed := hshape.indexed
  refine ⟨?_, hshape.lanes, hindexed.candidates, ?_, hindexed.ahead, hindexed.shared⟩
  · rw [slotContent_updateFree (lookup_erase _ _)]
    exact hshape.filed.erase hslot
  · intro key
    rw [Finset.mem_erase, hindexed.order]
    constructor
    · rintro ⟨hne, hlane | ⟨other, next, hnext, rfl⟩⟩
      · exact .inl hlane
      · refine .inr ⟨other, next, ?_, rfl⟩
        rw [lookup_erase, if_neg]
        · exact hnext
        · rintro rfl
          rw [hfree] at hnext
          cases hnext
          exact hne rfl
    · rintro (⟨laneId, hlane⟩ | ⟨other, next, hnext, rfl⟩)
      · refine ⟨?_, .inl ⟨laneId, hlane⟩⟩
        exact Ne.symm ((hindexed.candidate_unique hshape.filed hlane).2 _ _ hfree)
      · rw [lookup_erase] at hnext
        split at hnext
        · cases hnext
        rename_i hother
        refine ⟨?_, .inr ⟨other, next, hnext, rfl⟩⟩
        intro hsame
        have hslots := @Filed.slot_eq rules _ pool.hashes (.nonceFree other)
          next hshape.filed (.nonceFree replayId) transaction hnext hslot
          (congrArg EvictionKey.hash hsame)
        exact hother (Slot.nonceFree.inj hslots)

include hshape in
theorem Shape.insertFree (hempty : pool.nonceFree.lookup replayId = none)
    (hnew : pool.hashes.lookup transaction.hash = none)
    (hslot : slotOf rules transaction = some (.nonceFree replayId)) :
    Shape rules
      { pool with
        nonceFree := pool.nonceFree.insert replayId transaction,
        usage := pool.usage.add transaction,
        evictionOrder := insert (evictionKey rules transaction true) pool.evictionOrder,
        hashes := pool.hashes.insert transaction.hash transaction } := by
  have hindexed := hshape.indexed
  refine ⟨?_, hshape.lanes, hindexed.candidates, ?_, hindexed.ahead, hindexed.shared⟩
  · rw [slotContent_updateFree (lookup_insert _ _ · _)]
    exact hshape.filed.insert hempty hslot hnew
  · intro key
    rw [Finset.mem_insert, hindexed.order]
    constructor
    · rintro (rfl | hlane | ⟨other, next, hnext, rfl⟩)
      · exact .inr ⟨replayId, transaction, Finmap.lookup_insert _, rfl⟩
      · exact .inl hlane
      · refine .inr ⟨other, next, ?_, rfl⟩
        rw [lookup_insert, if_neg]
        · exact hnext
        · rintro rfl
          rw [hempty] at hnext
          cases hnext
    · rintro (hlane | ⟨other, next, hnext, rfl⟩)
      · exact .inr (.inl hlane)
      · rw [lookup_insert] at hnext
        split at hnext
        · cases hnext
          exact .inl rfl
        · exact .inr (.inr ⟨other, next, hnext, rfl⟩)

include hshape in
theorem Shape.storeNonceFree (hnew : pool.hashes.lookup transaction.hash = none)
    (hslot : slotOf rules transaction = some (.nonceFree replayId)) :
    Shape rules (storeNonceFree rules pool transaction replayId
          (pool.nonceFree.lookup replayId)) ∧
      KeepsAccounts pool (storeNonceFree rules pool transaction replayId
        (pool.nonceFree.lookup replayId)) := by
  have hids := fun {extra} (hacct : Accounted extra pool.hashes pool.usage) =>
    acquireIds_accounted hacct transaction
  obtain ⟨senderId, authorityIds, senderIds, hacquire⟩ :=
    acquireIds_eq pool.usage.senderIds transaction
  unfold TwoDNoncePool.storeNonceFree
  rw [hacquire] at hids ⊢
  have hacquired := hshape.withUsage { pool.usage with senderIds }
  cases hfree : pool.nonceFree.lookup replayId with
  | none =>
    refine ⟨@Shape.insertFree rules _ hacquired replayId
      { transaction with senderId, authorityIds } hfree hnew hslot, fun hacct hroom => ?_⟩
    obtain ⟨hacct, hnames, hnextId⟩ := hids hacct hroom
    refine ⟨.add ?_ hnames hnew, hnextId⟩
    exact hacct
  | some existing =>
    have hslotExisting : slotContent pool.lanes pool.nonceFree
      (.nonceFree replayId) = some existing := hfree
    have hpooled := (hshape.filed.inSlot _ _ hslotExisting).2
    have hfresh : (pool.hashes.erase existing.hash).lookup transaction.hash = none := by
      rw [lookup_erase]
      split
      · rfl
      · exact hnew
    have hstored := @Shape.insertFree rules _ (hacquired.eraseFree hfree) replayId
      { transaction with senderId, authorityIds } (Finmap.lookup_erase _ _) hfresh hslot
    rw [insert_erase_self] at hstored
    refine ⟨hstored, fun hacct hroom => ?_⟩
    obtain ⟨hacct, hnames, hnextId⟩ := hids hacct hroom
    have hkept := hacct.remove_names hpooled hnames fun address => Nat.le_add_right _ _
    refine ⟨.add ?_ hkept hfresh, (remove_nextId _ _).trans_le hnextId⟩
    exact hacct.remove hpooled

end NonceFree

section Removal

variable {hash : TxHash} {transaction : PoolTransaction} {slot : Slot}

/-- A pool without one of its transactions; no cursor moved. -/
structure Without (pool : TwoDNoncePool) (transaction : PoolTransaction)
    (slot : Slot) (after : TwoDNoncePool) : Prop where
  content : slotContent after.lanes after.nonceFree =
    update (slotContent pool.lanes pool.nonceFree) slot none
  hashes : after.hashes = pool.hashes.erase transaction.hash
  cursor : ∀ laneId lane, after.lanes.lookup laneId = some lane →
    ∃ before, pool.lanes.lookup laneId = some before ∧ lane.cursor = before.cursor
  nextId : after.usage.senderIds.nextId = pool.usage.senderIds.nextId

variable {nonce : Nat}

theorem remove_eq (hmember : lane.transactions.lookup nonce = some transaction) :
    ∃ after, lane.remove nonce = (some transaction, after) ∧
      after.transactions = lane.transactions.erase nonce ∧
      after.cursor = lane.cursor := by
  unfold NonceLane.remove
  rw [hmember]
  exact ⟨_, rfl, rfl, rfl⟩

include hshape in
theorem Shape.removeFromLane (hlane : pool.lanes.lookup laneId = some lane)
    (hmember : lane.transactions.lookup nonce = some transaction) :
    ∃ after, removeFromLane rules pool transaction.hash laneId nonce =
        (some transaction, after) ∧ after.usage = pool.usage.remove transaction ∧
      Shape rules after ∧ Without pool transaction (.lane laneId nonce) after := by
  obtain ⟨rest, hremove, hrest, hcursor⟩ := remove_eq hmember
  have hslot := (@slotContent_lane pool.lanes pool.nonceFree laneId lane hlane nonce).trans hmember
  have hvalid := (hshape.lanes laneId lane hlane).1.remove nonce
  rw [hremove] at hvalid
  have hcontent := slotContent_updateLane (slotContent_lane hlane) fun other =>
    (congrArg _ hrest).trans (lookup_erase _ _ other)
  unfold TwoDNoncePool.removeFromLane
  rw [hlane]
  dsimp only
  rw [hremove]
  refine ⟨_, rfl, refreshLaneIndexes_keeps.2.2.2, ?_, ?_, ?_, ?_, ?_⟩
  · apply hshape.refresh hvalid
    rw [hcontent]
    exact hshape.filed.erase hslot
  · rw [refreshLaneIndexes_keeps.1, refreshLaneIndexes_keeps.2.1]
    exact hcontent
  · rw [refreshLaneIndexes_keeps.2.2.1]
  · intro other found hfound
    rw [refreshLaneIndexes_keeps.1] at hfound
    by_cases hother : other = laneId
    · subst hother
      obtain ⟨rfl, -⟩ := lanesWith_lane hfound
      exact ⟨lane, hlane, hcursor⟩
    · exact ⟨found, (lanesWith_others other hother).symm.trans hfound, rfl⟩
  · rw [refreshLaneIndexes_keeps.2.2.2]
    exact remove_nextId _ _

include hshape in
/-- A pooled transaction is found and taken out of its place. -/
theorem Shape.removeHash (hpooled : pool.hashes.lookup hash = some transaction) :
    ∃ slot after, removeHash rules pool hash = (some transaction, after) ∧
      slotOf rules transaction = some slot ∧ after.usage = pool.usage.remove transaction ∧
      Shape rules after ∧ Without pool transaction slot after := by
  obtain ⟨rfl, slot, hplace, hslot⟩ := hshape.filed.underHash hash _ hpooled
  unfold removeHash
  rw [hpooled]
  have hcases := hplace
  unfold slotOf at hcases
  cases hreplay : transaction.eip8130ReplayId with
  | some replayId =>
    rw [hreplay] at hcases
    cases hcases
    have hfree : pool.nonceFree.lookup replayId = some transaction := hslot
    refine ⟨_, _, ?_, hplace, rfl, hshape.eraseFree hfree, ?_, rfl, ?_, ?_⟩
    · dsimp only
      rw [hreplay]
      dsimp only [removeNonceFree]
      rw [hfree]
    · exact slotContent_updateFree (lookup_erase _ _)
    · exact fun laneId lane hlane => ⟨lane, hlane, rfl⟩
    · exact remove_nextId _ _
  | none =>
    rw [hreplay] at hcases
    obtain ⟨nonceKey, hkey, rfl⟩ := Option.map_eq_some_iff.mp hcases
    obtain ⟨lane, hlane, hmember⟩ := Option.bind_eq_some_iff.mp hslot
    obtain ⟨after, hremove, hafter⟩ := hshape.removeFromLane hlane hmember
    refine ⟨_, after, ?_, hplace, hafter⟩
    dsimp only
    rw [hreplay, hkey]
    exact hremove

theorem Invariant.removeHash (hinv : Invariant rules extra pool)
    (hpooled : pool.hashes.lookup hash = some transaction) :
    ∃ slot after, removeHash rules pool hash = (some transaction, after) ∧
      Invariant rules extra after ∧ Without pool transaction slot after := by
  obtain ⟨slot, after, hremove, -, husage, hshape, hwithout⟩ := hinv.shape.removeHash hpooled
  refine ⟨slot, after, hremove, hshape.invariant ?_, hwithout⟩
  rw [hwithout.hashes, husage]
  obtain ⟨rfl, -⟩ := hinv.filed.underHash hash _ hpooled
  exact hinv.accounted.remove hpooled

end Removal

/-- An empty pool is in order. -/
theorem Invariant.new (rules : PoolRules) : Invariant rules 0 new := by
  refine ⟨⟨?_, nofun⟩, ⟨rfl, fun _ => rfl, ⟨fun _ => rfl, ?_⟩, nofun, nofun⟩,
    nofun, ⟨fun _ => rfl, ?_, fun _ => rfl, nofun⟩⟩
  · rintro (⟨laneId, nonce⟩ | replayId) transaction hslot
    · cases hslot
    · cases hslot
  · intro id address
    exact ⟨nofun, nofun⟩
  · simp [TwoDNoncePool.new]

variable {outcome : InsertOutcome} {after : TwoDNoncePool}

/-- An accepted insertion is one into a replay id or into a lane. -/
theorem insertValidatedAt_cases
    (hinsert : insertValidatedAt rules pool transaction cursor = .ok (outcome, after)) :
    pool.hashes.lookup transaction.hash = none ∧
      ((∃ replayId, slotOf rules transaction = some (.nonceFree replayId) ∧
          outcome.replaced = pool.nonceFree.lookup replayId ∧
          outcome.anchor = .empty ∧
          after = storeNonceFree rules pool transaction replayId (pool.nonceFree.lookup replayId)) ∨
        ∃ laneId, slotOf rules transaction = some (.lane laneId transaction.nonce) ∧
          cursor.nextNonce ≤ transaction.nonce ∧
          (outcome, after) = storeInLane rules pool transaction laneId cursor
            (slotContent pool.lanes pool.nonceFree (.lane laneId transaction.nonce))) := by
  unfold insertValidatedAt at hinsert
  split at hinsert
  · cases hinsert
  rename_i hcontains
  have hnew : pool.hashes.lookup transaction.hash = none := by
    rw [Finmap.lookup_eq_none]
    simpa [contains] using hcontains
  refine ⟨hnew, ?_⟩
  split at hinsert
  · rename_i replayId hreplay
    unfold insertNonceFree at hinsert
    dsimp only at hinsert
    split at hinsert
    · cases hinsert
    split at hinsert
    · cases hinsert
    · cases hinsert
      exact .inl ⟨replayId, by simp [slotOf, hreplay], rfl, rfl, rfl⟩
  · rename_i hreplay
    split at hinsert
    · cases hinsert
    rename_i nonceKey hkey
    unfold insertInLane at hinsert
    dsimp only at hinsert
    split at hinsert
    · cases hinsert
    split at hinsert
    · cases hinsert
    rename_i hlive
    split at hinsert
    · cases hinsert
    · exact .inr ⟨_, by simp [slotOf, hreplay, hkey], not_lt.mp hlive, (Except.ok.inj hinsert).symm⟩

include hshape in
theorem Shape.insertValidatedAt
    (hinsert : insertValidatedAt rules pool transaction cursor = .ok (outcome, after)) :
    Shape rules after ∧ KeepsAccounts pool after := by
  obtain ⟨hnew, ⟨replayId, hslot, -, -, rfl⟩ | ⟨laneId, hslot, hlive, hstored⟩⟩ :=
    insertValidatedAt_cases hinsert
  · exact hshape.storeNonceFree hnew hslot
  · have hboth := @Shape.storeInLane rules pool laneId hshape transaction cursor _
      hnew hslot hlive rfl
    rw [← hstored] at hboth
    exact hboth

end Invariant

end TwoDNoncePool

end BaseChain
