/-
The nonce manager of the transaction manager, with any number of sends at work.
A nonce comes from the cache, from the set of returned nonces or, when the cache
is empty, from the chain; one lock guards the three.
-/
import BaseChain.RollupConfig
import Mathlib.Data.Finset.Max

namespace BaseChain

open Function

namespace NonceManager

structure NonceState where
  nonce : Option Nat := none
  generation : Nat := 0
  returnedNonces : Finset Nat := ∅
  reservedHighWater : Nat := 0

namespace NonceState

variable (state : NonceState) (nonce : Nat)

/-- The smallest returned nonce, else the next one past every reserved nonce. -/
def advanceNonce : Option (Nat × Bool × NonceState) :=
  if hreturned : state.returnedNonces.Nonempty then
    let returned := state.returnedNonces.min' hreturned
    some (returned, true, { state with returnedNonces := state.returnedNonces.erase returned })
  else
    let effective := max nonce state.reservedHighWater
    if u64Max < effective + 1 then none
    else some (effective, false, { state with nonce := some (effective + 1) })

def consumeReserved : NonceState :=
  { state with reservedHighWater := max state.reservedHighWater (nonce + 1) }

def rollback (recycled : Bool) : NonceState :=
  if recycled then { state with returnedNonces := insert nonce state.returnedNonces }
  else { state with nonce := some nonce }

/-- The count fetched fills an empty cache; returned nonces below it are pruned. -/
def populate (fetched : Nat) : NonceState :=
  { state with
    nonce := some (state.nonce.getD fetched)
    returnedNonces := state.returnedNonces.filter (fetched ≤ ·) }

end NonceState

inductive SendResult where
  | ok | sendTimeout | nonceTooLow | other
deriving DecidableEq

def shouldResetNonceOnSendError (result : SendResult) (assigned nonceOverride : Bool) : Bool :=
  match result with
  | .ok => false
  | .sendTimeout => !nonceOverride
  | _ => !nonceOverride && !assigned

def shouldReturnReservedNonce (result : SendResult) (hasPublished : Bool) : Bool :=
  match result with
  | .ok | .nonceTooLow => false
  | _ => !hasPublished

/-- Where a send is.  One that closes may have to reset the cache and then to
give its nonce back. -/
inductive SendPhase where
  | waiting (attempt : Nat)
  | fetching (attempt generation : Nat) (fetched : Option Nat)
  | holding (nonce : Nat)
  | closing (resets : Bool) (returns : Option Nat)
deriving DecidableEq

def SendPhase.held : SendPhase → Option Nat
  | .holding nonce => some nonce
  | .closing _ returns => returns
  | _ => none

abbrev SendId := Nat

structure System where
  state : NonceState := {}
  sends : SendId → SendPhase := fun _ => .waiting 0
  confirmed : Nat := 0

/-- How a guard ends: dropped after signing, rolled back, or dropped with its
send at the send timeout. -/
inductive GuardEnd where
  | signed | rolledBack | cancelled

inductive Action where
  | lock (ending : GuardEnd)
  | fetch
  | relock (ending : GuardEnd)
  | finish (result : SendResult) (hasPublished : Bool)
  | reset
  | giveBack

section Send

-- Whether the send reserved its nonce up front; else it signs under the lock.
variable (reserves : Bool)

/-- A send that ends with no nonce of its own. -/
def failed (result : SendResult) : SendPhase :=
  .closing (shouldResetNonceOnSendError result false reserves) none

/-- From the lock to the end of the guard.  The guard has the lock all the time,
so no other send meets the state in between. -/
def acquire (ending : GuardEnd) (state : NonceState) (nonce : Nat) : SendPhase × NonceState :=
  match state.advanceNonce nonce with
  | none => (failed reserves .other, state)
  | some (issued, recycled, state) =>
    if reserves then (.holding issued, state.consumeReserved issued)
    else match ending with
      | .signed => (.holding issued, state)
      | .rolledBack => (.waiting 0, state.rollback issued recycled)
      | .cancelled => (failed reserves .sendTimeout, state)

/-- One action of a send, on its phase and the shared state. -/
def act (confirmed : Nat) (state : NonceState) :
    SendPhase → Action → Option (SendPhase × NonceState)
  | .waiting attempt, .lock ending =>
    match state.nonce with
    | some nonce => some (acquire reserves ending state nonce)
    | none => some (.fetching attempt state.generation none, state)
  | .fetching attempt generation none, .fetch =>
    some (.fetching attempt generation (some confirmed), state)
  | .fetching attempt generation (some fetched), .relock ending =>
    if state.generation = generation then
      some (acquire reserves ending (state.populate fetched) (state.nonce.getD fetched))
    else if attempt + 1 < 5 then some (.waiting (attempt + 1), state)
    else some (failed reserves .other, state)
  | .holding nonce, .finish result hasPublished =>
    if result = .ok ∧ confirmed ≤ nonce then none
    else some (.closing (shouldResetNonceOnSendError result true reserves)
      (if shouldReturnReservedNonce result hasPublished then some nonce else none), state)
  | .waiting _, .finish result _ =>
    if result = .ok then none else some (failed reserves result, state)
  | .fetching _ _ _, .finish result _ =>
    if result = .ok then none else some (failed reserves result, state)
  | .closing true returns, .reset =>
    some (.closing false returns, { state with
      nonce := none, generation := (state.generation + 1) % 2 ^ 64 })
  | .closing false (some nonce), .giveBack =>
    some (.closing false none, { state with
      returnedNonces := insert nonce state.returnedNonces })
  | _, _ => none

end Send

inductive Event where
  | act (send : SendId) (action : Action)
  | confirm (count : Nat)

namespace System

variable (sys : System)

def set (send : SendId) (moved : SendPhase × NonceState) : System :=
  { sys with sends := update sys.sends send moved.1, state := moved.2 }

def perform (reserves : SendId → Bool) (sys : System) : Event → Option System
  | .act send action =>
    (act (reserves send) sys.confirmed sys.state (sys.sends send) action).map (sys.set send)
  | .confirm count => some { sys with confirmed := max sys.confirmed count }

/-- A nonce is with an unfinished send, or (`none`) in the returned set. -/
def Owns : Option SendId → Nat → Prop
  | none, nonce => nonce ∈ sys.state.returnedNonces
  | some send, nonce => (sys.sends send).held = some nonce

/-- A count that fills the empty cache is behind no owned nonce that the
high-water mark does not cover. -/
def Settled : Event → Prop
  | .act send (.relock _) => sys.state.nonce = none → ∀ attempt generation fetched,
    sys.sends send = .fetching attempt generation (some fetched) → ∀ owner nonce,
      sys.Owns owner nonce → fetched ≤ nonce → nonce < sys.state.reservedHighWater
  | _ => True

inductive Reachable (reserves : SendId → Bool) : System → Prop where
  | start (confirmed : Nat) : Reachable reserves { confirmed := confirmed }
  | step {sys next : System} {event : Event} (hbefore : Reachable reserves sys)
    (hsettled : sys.Settled event) (hstep : sys.perform reserves event = some next) :
    Reachable reserves next

/-- No nonce has two owners, and the cache is past every owned nonce. -/
structure Exclusive (sys : System) : Prop where
  unique : ∀ {owner other nonce}, sys.Owns owner nonce → sys.Owns other nonce → owner = other
  below : ∀ {cached owner nonce}, sys.state.nonce = some cached → sys.Owns owner nonce →
    nonce < max cached sys.state.reservedHighWater

theorem owns_set {sys : System} {send : SendId} {phase : SendPhase} {state : NonceState}
    {owner : Option SendId} {nonce : Nat} (howns : (sys.set send (phase, state)).Owns owner nonce) :
    owner = some send ∧ phase.held = some nonce ∨ owner = none ∧ nonce ∈ state.returnedNonces ∨
      owner ≠ none ∧ owner ≠ some send ∧ sys.Owns owner nonce := by
  cases owner with
  | none => exact .inr (.inl ⟨rfl, howns⟩)
  | some other =>
    change (update sys.sends send phase other).held = some nonce at howns
    rw [update_apply] at howns
    split at howns
    · rename_i hsame
      exact .inl ⟨congrArg some hsame, howns⟩
    · rename_i hne
      exact .inr (.inr ⟨nofun, fun hother => hne (Option.some.inj hother), howns⟩)

section Steps

variable {sys next : System} {send : SendId} {nonce issued : Nat}
variable {phase : SendPhase} {state after : NonceState} {recycled : Bool}

theorem advanceNonce_cases (hadvance : state.advanceNonce nonce = some (issued, recycled, after)) :
    (recycled = true ∧ issued ∈ state.returnedNonces ∧
        after = { state with returnedNonces := state.returnedNonces.erase issued }) ∨
      recycled = false ∧ issued = max nonce state.reservedHighWater ∧
        after = { state with nonce := some (issued + 1) } := by
  unfold NonceState.advanceNonce at hadvance
  split at hadvance
  · rename_i hreturned
    cases hadvance
    exact .inl ⟨rfl, Finset.min'_mem _ hreturned, rfl⟩
  · dsimp only at hadvance
    split at hadvance
    · cases hadvance
    · cases hadvance
      exact .inr ⟨rfl, rfl, rfl⟩

variable (hexclusive : sys.Exclusive)
include hexclusive

variable (hphase : ∀ {nonce}, phase.held = some nonce → (sys.sends send).held = some nonce)

include hphase in
/-- A step that hands out nothing: a send keeps its nonce or lets it go. -/
theorem Exclusive.move (hreturned : state.returnedNonces ⊆ sys.state.returnedNonces)
    (hcache : ∀ {cached}, state.nonce = some cached → ∃ kept, sys.state.nonce = some kept ∧
      max kept sys.state.reservedHighWater ≤ max cached state.reservedHighWater) :
    (sys.set send (phase, state)).Exclusive := by
  have howns : ∀ {owner nonce}, (sys.set send (phase, state)).Owns owner nonce →
      sys.Owns owner nonce := by
    intro owner nonce howner
    rcases owns_set howner with ⟨rfl, hheld⟩ | ⟨rfl, hmem⟩ | ⟨-, -, hbefore⟩
    · exact hphase hheld
    · exact hreturned hmem
    · exact hbefore
  refine ⟨fun hfirst hsecond => hexclusive.unique (howns hfirst) (howns hsecond), ?_⟩
  intro cached owner nonce hcached howner
  obtain ⟨kept, hkept, hle⟩ := hcache hcached
  exact (hexclusive.below hkept (howns howner)).trans_le hle

include hphase in
theorem Exclusive.still : (sys.set send (phase, sys.state)).Exclusive :=
  hexclusive.move hphase (Finset.Subset.refl _) fun hcached => ⟨_, hcached, le_refl _⟩

/-- One nonce goes to an owner and leaves all others. -/
theorem Exclusive.transfer (target : Option SendId) (nonce : Nat)
    (howns : ∀ {owner other}, next.Owns owner other →
      owner = target ∧ other = nonce ∨ sys.Owns owner other ∧ other ≠ nonce)
    (hcache : ∀ {cached}, next.state.nonce = some cached →
      nonce < max cached next.state.reservedHighWater ∧ ∃ kept, sys.state.nonce = some kept ∧
        max kept sys.state.reservedHighWater ≤ max cached next.state.reservedHighWater) :
    next.Exclusive := by
  constructor
  · intro owner other held hfirst hsecond
    rcases howns hfirst with ⟨rfl, rfl⟩ | ⟨hfirst, hne⟩
    · rcases howns hsecond with ⟨rfl, -⟩ | ⟨-, hne⟩
      · rfl
      · exact absurd rfl hne
    · rcases howns hsecond with ⟨-, rfl⟩ | ⟨hsecond, -⟩
      · exact absurd rfl hne
      · exact hexclusive.unique hfirst hsecond
  · intro cached owner held hcached hheld
    obtain ⟨hnonce, kept, hkept, hle⟩ := hcache hcached
    rcases howns hheld with ⟨-, rfl⟩ | ⟨hbefore, -⟩
    · exact hnonce
    · exact (hexclusive.below hkept hbefore).trans_le hle

theorem Exclusive.giveBack (hheld : (sys.sends send).held = some nonce) :
    (sys.set send (.closing false none, { sys.state with
      returnedNonces := insert nonce sys.state.returnedNonces })).Exclusive := by
  have hsend : sys.Owns (some send) nonce := hheld
  refine hexclusive.transfer none nonce ?_ fun hcached =>
    ⟨hexclusive.below hcached hsend, _, hcached, le_refl _⟩
  intro owner other howner
  rcases owns_set howner with ⟨-, hnone⟩ | ⟨rfl, hmem⟩ | ⟨-, hne, hbefore⟩
  · cases hnone
  · by_cases hsame : other = nonce
    · exact .inl ⟨rfl, hsame⟩
    · exact .inr ⟨(Finset.mem_insert.mp hmem).resolve_left hsame, hsame⟩
  · refine .inr ⟨hbefore, ?_⟩
    rintro rfl
    exact hne (hexclusive.unique hbefore hsend)

/-- The nonce issued has no other owner, and the cache is past it. -/
theorem Exclusive.issue (hnonce : sys.state.nonce = some nonce)
    (hadvance : sys.state.advanceNonce nonce = some (issued, recycled, after))
    (hreturned : state.returnedNonces = after.returnedNonces) (hcache : state.nonce = after.nonce)
    (hwater : after.reservedHighWater ≤ state.reservedHighWater) :
    (sys.set send (.holding issued, state)).Exclusive := by
  have hmax := fun bound => max_le_max (le_refl bound) hwater
  rcases advanceNonce_cases hadvance with ⟨-, hmem, rfl⟩ | ⟨-, hissued, rfl⟩
  · have howned : sys.Owns none issued := hmem
    refine hexclusive.transfer (some send) issued ?_ ?_
    · intro owner other howner
      rcases owns_set howner with ⟨rfl, hheld⟩ | ⟨rfl, hkept⟩ | ⟨hnone, -, hbefore⟩
      · exact .inl ⟨rfl, (Option.some.inj hheld).symm⟩
      · rw [hreturned] at hkept
        obtain ⟨hne, hbefore⟩ := Finset.mem_erase.mp hkept
        exact .inr ⟨hbefore, hne⟩
      · refine .inr ⟨hbefore, ?_⟩
        rintro rfl
        exact hnone (hexclusive.unique hbefore howned)
    · intro cached hcached
      have hkept := hcache.symm.trans hcached
      exact ⟨(hexclusive.below hkept howned).trans_le (hmax cached), cached, hkept, hmax cached⟩
  · have hlt : ∀ {owner other}, sys.Owns owner other → other < issued := fun howner =>
      (hexclusive.below hnonce howner).trans_eq hissued.symm
    refine hexclusive.transfer (some send) issued ?_ ?_
    · intro owner other howner
      rcases owns_set howner with ⟨rfl, hheld⟩ | ⟨rfl, hkept⟩ | ⟨-, -, hbefore⟩
      · exact .inl ⟨rfl, (Option.some.inj hheld).symm⟩
      · have hbefore : sys.Owns none other := hreturned.subset hkept
        exact .inr ⟨hbefore, (hlt hbefore).ne⟩
      · exact .inr ⟨hbefore, (hlt hbefore).ne⟩
    · intro cached hcached
      cases hcache.symm.trans hcached
      refine ⟨lt_max_of_lt_left (Nat.lt_succ_self issued), nonce, hnonce, ?_⟩
      exact hissued.symm.trans_le ((Nat.le_succ issued).trans (le_max_left _ _))

theorem Exclusive.acquire {reserves : Bool} {ending : GuardEnd}
    (hnonce : sys.state.nonce = some nonce) :
    (sys.set send (acquire reserves ending sys.state nonce)).Exclusive := by
  unfold NonceManager.acquire
  split
  · exact hexclusive.still nofun
  rename_i issued recycled after hadvance
  split
  · exact hexclusive.issue hnonce hadvance rfl rfl (le_max_left _ _)
  split
  · exact hexclusive.issue hnonce hadvance rfl rfl (le_refl _)
  · rcases advanceNonce_cases hadvance with ⟨rfl, hmem, rfl⟩ | ⟨rfl, hissued, rfl⟩
    · refine hexclusive.move nofun ?_ fun hcached => ⟨_, hcached, le_refl _⟩
      exact (Finset.insert_erase hmem).subset
    · refine hexclusive.move nofun (Finset.Subset.refl _) fun hcached => ⟨nonce, hnonce, ?_⟩
      cases hcached
      exact hissued.symm.trans_le (le_max_left _ _)
  · rcases advanceNonce_cases hadvance with ⟨-, -, rfl⟩ | ⟨-, hissued, rfl⟩
    · exact hexclusive.move nofun (Finset.erase_subset _ _) fun hcached =>
        ⟨_, hcached, le_refl _⟩
    · refine hexclusive.move nofun (Finset.Subset.refl _) fun hcached => ⟨nonce, hnonce, ?_⟩
      cases hcached
      exact hissued.symm.trans_le ((Nat.le_succ issued).trans (le_max_left _ _))

theorem Exclusive.populate {fetched : Nat} (hcovered : sys.state.nonce = none → ∀ owner nonce,
      sys.Owns owner nonce → fetched ≤ nonce → nonce < sys.state.reservedHighWater) :
    Exclusive { sys with state := sys.state.populate fetched } := by
  have howns : ∀ {owner nonce}, Owns { sys with state := sys.state.populate fetched } owner nonce →
      sys.Owns owner nonce := by
    intro owner nonce howner
    cases owner with
    | none => exact Finset.mem_of_mem_filter nonce howner
    | some => exact howner
  refine ⟨fun hfirst hsecond => hexclusive.unique (howns hfirst) (howns hsecond), ?_⟩
  intro cached owner nonce hcached howner
  have hcached : some (sys.state.nonce.getD fetched) = some cached := hcached
  cases hnonce : sys.state.nonce with
  | some =>
    rw [hnonce] at hcached
    cases hcached
    exact hexclusive.below hnonce (howns howner)
  | none =>
    rw [hnonce] at hcached
    cases hcached
    by_cases hbehind : fetched ≤ nonce
    · exact lt_max_of_lt_right (hcovered hnonce owner nonce (howns howner) hbehind)
    · exact lt_max_of_lt_left (lt_of_not_ge hbehind)

theorem Exclusive.act {reserves : Bool} {action : Action} {moved : SendPhase × NonceState}
    (hdone : sys.Settled (.act send action))
    (hact : act reserves sys.confirmed sys.state (sys.sends send) action = some moved) :
    (sys.set send moved).Exclusive := by
  unfold NonceManager.act at hact
  split at hact
  · split at hact
    · rename_i hnonce
      cases hact
      exact hexclusive.acquire hnonce
    · cases hact
      exact hexclusive.still nofun
  · cases hact
    exact hexclusive.still nofun
  · rename_i attempt generation fetched ending hphase
    split_ifs at hact
    · cases hact
      have hfilled := hexclusive.populate fun hnone =>
        hdone hnone attempt generation fetched hphase
      exact hfilled.acquire rfl
    · cases hact
      exact hexclusive.still nofun
    · cases hact
      exact hexclusive.still nofun
  · rename_i nonce result hasPublished hphase
    split_ifs at hact
    · cases hact
      refine hexclusive.still ?_
      rw [hphase]
      exact id
    · cases hact
      exact hexclusive.still nofun
  · split_ifs at hact
    cases hact
    exact hexclusive.still nofun
  · split_ifs at hact
    cases hact
    exact hexclusive.still nofun
  · rename_i returns hphase
    cases hact
    refine hexclusive.move ?_ (Finset.Subset.refl _) nofun
    rw [hphase]
    exact id
  · rename_i nonce hphase
    cases hact
    exact hexclusive.giveBack (by rw [hphase]; rfl)
  · cases hact

end Steps

theorem Reachable.exclusive {reserves : SendId → Bool} {sys : System}
    (hreachable : Reachable reserves sys) : sys.Exclusive := by
  induction hreachable with
  | start =>
    refine ⟨?_, nofun⟩
    rintro (_ | owner) other nonce howner
    · exact absurd howner (Finset.notMem_empty nonce)
    · cases howner
  | @step sys next event hbefore hdone hstep ih =>
    cases event with
    | act =>
      obtain ⟨moved, hact, rfl⟩ := Option.map_eq_some_iff.mp hstep
      exact ih.act hdone hact
    | confirm =>
      cases hstep
      exact ⟨ih.unique, ih.below⟩

end System

end NonceManager

end BaseChain
