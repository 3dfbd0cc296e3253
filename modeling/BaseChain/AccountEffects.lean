/-
What the operations on the account configuration write, one relation for each, with the
guards under which they write it.
-/
import BaseChain.TransactionAuthorizer

namespace BaseChain

open Checked Function

namespace Eip8130

section Slots

variable (storage : AccountConfiguration) (account other : Address) (actorId otherId : B256)

theorem actorConfigSlot_setActorConfig {config : ActorConfig} (hexpiry : config.expiry < 2 ^ 48) :
    (storage.setActorConfig account actorId config).actorConfigSlot account actorId =
      config := by
  unfold AccountConfiguration.actorConfigSlot AccountConfiguration.setActorConfig
  dsimp only
  rw [update_self, update_self]
  exact ActorConfig.fromWord_toWord hexpiry

variable (config : ActorConfig)

theorem actorConfigSlot_setActorConfig_of_ne (hne : otherId ≠ actorId) :
    (storage.setActorConfig account actorId config).actorConfigSlot account otherId =
      storage.actorConfigSlot account otherId := by
  unfold AccountConfiguration.actorConfigSlot AccountConfiguration.setActorConfig
  dsimp only
  rw [update_of_ne hne]

variable (manager : Address) (commitment : B256)

@[simp] theorem actorConfigSlot_setPolicy :
    (storage.setPolicy account actorId manager commitment).actorConfigSlot other
      otherId = storage.actorConfigSlot other otherId :=
  rfl

@[simp] theorem actorConfigSlot_setAccountState (state : AccountState) :
    (storage.setAccountState account state).actorConfigSlot other otherId =
      storage.actorConfigSlot other otherId :=
  rfl

theorem actorConfigSlot_clearActorConfig :
    (storage.clearActorConfig account actorId).actorConfigSlot account actorId = .empty :=
  actorConfigSlot_setActorConfig storage account actorId (by decide)

/-- The two policy slots of an actor. -/
def AccountConfiguration.policy : Address × B256 :=
  (storage.policyManager account actorId, storage.policyCommitment account actorId)

theorem policy_setPolicy :
    (storage.setPolicy account actorId manager commitment).policy account actorId =
      (manager, commitment) := by
  unfold AccountConfiguration.policy AccountConfiguration.setPolicy
  dsimp only
  rw [update_self, update_self, update_self, update_self]

theorem policy_setPolicy_of_ne (hne : otherId ≠ actorId) :
    (storage.setPolicy account actorId manager commitment).policy account otherId =
      storage.policy account otherId := by
  unfold AccountConfiguration.policy AccountConfiguration.setPolicy
  dsimp only
  rw [update_self, update_self, update_of_ne hne, update_of_ne hne]

@[simp] theorem policy_setActorConfig :
    (storage.setActorConfig account actorId config).policy other otherId =
      storage.policy other otherId :=
  rfl

theorem getAccountState_setAccountState {state : AccountState} (hfits : state.Fits) :
    (storage.setAccountState account state).getAccountState account = state := by
  unfold AccountConfiguration.getAccountState AccountConfiguration.setAccountState
  dsimp only
  rw [update_self]
  exact AccountState.fromWord_toWord hfits

end Slots

/-- Nothing that is stored for an account differs. -/
structure SameAccount (before after : AccountConfiguration) (account : Address) : Prop where
  actors : ∀ actorId, after.actors actorId account = before.actors actorId account
  state : after.accountState account = before.accountState account
  manager : after.policyManager account = before.policyManager account
  commitment : after.policyCommitment account = before.policyCommitment account

variable {account other : Address} {actorId : B256}

namespace SameAccount

variable {before middle after : AccountConfiguration}

theorem refl : SameAccount before before account := ⟨fun _ => rfl, rfl, rfl, rfl⟩

theorem trans (hfirst : SameAccount before middle account)
    (hsecond : SameAccount middle after account) : SameAccount before after account where
  actors actorId := (hsecond.actors actorId).trans (hfirst.actors actorId)
  state := hsecond.state.trans hfirst.state
  manager := hsecond.manager.trans hfirst.manager
  commitment := hsecond.commitment.trans hfirst.commitment

section

variable (hsame : SameAccount before after other)
include hsame

theorem setActorConfig (hne : other ≠ account) (config : ActorConfig) :
    SameAccount before (after.setActorConfig account actorId config) other := by
  refine ⟨fun otherId => ?_, hsame.state, hsame.manager, hsame.commitment⟩
  rw [← hsame.actors otherId]
  unfold AccountConfiguration.setActorConfig
  dsimp only
  by_cases hid : otherId = actorId
  · rw [hid, update_self, update_of_ne hne]
  · rw [update_of_ne hid]

theorem setPolicy (hne : other ≠ account) (manager : Address) (commitment : B256) :
    SameAccount before (after.setPolicy account actorId manager commitment) other := by
  refine ⟨hsame.actors, hsame.state, ?_, ?_⟩
  · rw [← hsame.manager]
    exact update_of_ne hne ..
  · rw [← hsame.commitment]
    exact update_of_ne hne ..

theorem setAccountState (hne : other ≠ account) (state : AccountState) :
    SameAccount before (after.setAccountState account state) other := by
  refine ⟨hsame.actors, ?_, hsame.manager, hsame.commitment⟩
  rw [← hsame.state]
  exact update_of_ne hne ..

end

section

variable (hsame : SameAccount before after account)
include hsame

theorem actorConfigSlot (actorId : B256) :
    after.actorConfigSlot account actorId = before.actorConfigSlot account actorId := by
  unfold AccountConfiguration.actorConfigSlot
  rw [hsame.actors]

theorem getAccountState : after.getAccountState account = before.getAccountState account := by
  unfold AccountConfiguration.getAccountState
  rw [hsame.state]

theorem policy (actorId : B256) : after.policy account actorId = before.policy account actorId := by
  unfold AccountConfiguration.policy
  rw [hsame.manager, hsame.commitment]

end

end SameAccount

/-- What an authorization writes: an actor of somebody else, the inline key, or another
key of the account itself. -/
inductive ActorWrite (storage : AccountConfiguration) (account : Address)
    (actorId : B256) (config : ActorConfig) (policyData : Bytes)
    (state : AccountState) : AccountConfiguration → AccountState → Prop
  | other (manager : Address) (commitment : B256) (hid : actorId ≠ default)
      (hother : actorId ≠ selfActorId account)
      (hauthenticator : config.authenticator ≠ default)
      (hpolicy : slicePolicy policyData = .ok (manager, commitment)) :
      ActorWrite storage account actorId config policyData state
        ((storage.setActorConfig account actorId config).setPolicy account actorId
          manager commitment) state
  | inline (manager : Address) (commitment : B256)
      (hself : actorId = selfActorId account)
      (hauthenticator : config.authenticator = k1Authenticator)
      (hpolicy : slicePolicy policyData = .ok (manager, commitment)) :
      ActorWrite storage account actorId config policyData state
        ((storage.clearActorConfig account actorId).setPolicy account actorId manager commitment)
        { state with
          defaultEoaScope := config.scope
          defaultEoaExpiry := config.expiry
          flags := state.flags &&& ~~~defaultEoaRevokedFlag }
  | stored (manager : Address) (commitment : B256)
      (hself : actorId = selfActorId account)
      (hauthenticator : config.authenticator ≠ default)
      (hforeign : config.authenticator ≠ k1Authenticator)
      (hpolicy : slicePolicy policyData = .ok (manager, commitment)) :
      ActorWrite storage account actorId config policyData state
        ((storage.setActorConfig account actorId config).setPolicy account actorId
          manager commitment) state.disableInlineSelf

/-- What a revocation writes, with the number it returns. -/
inductive Revocation (storage : AccountConfiguration) (account : Address)
    (actorId : B256) (state : AccountState) :
    Nat → AccountConfiguration → AccountState → Prop
  | stored
      (hstored : (storage.actorConfigSlot account actorId).authenticator ≠ default) :
      Revocation storage account actorId state 0
        ((storage.clearActorConfig account actorId).clearPolicy account actorId)
        (if actorId = selfActorId account then state.disableInlineSelf else state)
  | absent
      (hempty : (storage.actorConfigSlot account actorId).authenticator = default)
      (habsent : actorId = selfActorId account → state.defaultEoaRevoked = true) :
      Revocation storage account actorId state 3 storage state
  | inline (emptySlots : Nat)
      (hempty : (storage.actorConfigSlot account actorId).authenticator = default)
      (hself : actorId = selfActorId account)
      (hlive : state.defaultEoaRevoked = false) :
      Revocation storage account actorId state emptySlots
        ((storage.clearActorConfig account actorId).clearPolicy account actorId)
        state.disableInlineSelf

/-- What one operation of a batch does. -/
inductive ChangeEffect (context : BatchContext) (storage : AccountConfiguration)
    (state : AccountState) : AccountConfiguration → AccountState → Prop
  | skipped (config : ActorConfig) (hunsequenced : context.isUnsequenced = true)
      (hlapsed : config.isExpired context.now = true) :
      ChangeEffect context storage state storage state
  | authorized {after : AccountConfiguration} {next : AccountState} (actorId : B256)
      (config : ActorConfig) (policyData : Bytes) (hexpiry : config.expiry < 2 ^ 48)
      (hlocked : context.lockedRules storage actorId config policyData state = .ok ())
      (hwrite : ActorWrite storage context.account actorId config policyData state after next) :
      ChangeEffect context storage state after next
  | revoked {after : AccountConfiguration} {next : AccountState} (actorId : B256)
      (emptySlots : Nat) (hlocked : context.isLocked = false)
      (hrevocation : Revocation storage context.account actorId state emptySlots after next) :
      ChangeEffect context storage state after next
  | nextEpoch (hroom : state.localEpoch ≠ 2 ^ 32 - 1) :
      ChangeEffect context storage state storage
        { state with localEpoch := state.localEpoch + 1, localSequence := 0 }

variable {primitives : Primitives} {storage after : AccountConfiguration} {account : Address}
  {config : ActorConfig} {policyData : Bytes} {state next : AccountState} {context : BatchContext}

section Effects

theorem authorizeNonSelfActor_eq_ok
    (hgrant : authorizeNonSelfActor storage account actorId config policyData = .ok after) :
    actorId ≠ default ∧ config.authenticator ≠ default ∧
      ∃ manager commitment, slicePolicy policyData = .ok (manager, commitment) ∧
        after = (storage.setActorConfig account actorId config).setPolicy account actorId
          manager commitment := by
  obtain ⟨hid, hgrant⟩ := ensure_bind_eq_ok.mp hgrant
  obtain ⟨hauth, hgrant⟩ := ensure_bind_eq_ok.mp hgrant
  obtain ⟨⟨manager, commitment⟩, hpolicy, hgrant⟩ := bind_eq_ok.mp hgrant
  exact ⟨hid, hauth, manager, commitment, hpolicy, (Except.ok.inj hgrant).symm⟩

theorem authorizeActorWithAccountState_eq_ok
    (hgrant : authorizeActorWithAccountState storage account actorId config
      policyData state = .ok (after, next)) :
    ActorWrite storage account actorId config policyData state after next := by
  obtain ⟨hauth, hgrant⟩ := ensure_bind_eq_ok.mp hgrant
  by_cases hself : actorId = selfActorId account
  · rw [if_neg (not_not.mpr hself)] at hgrant
    obtain ⟨⟨manager, commitment⟩, hpolicy, hgrant⟩ := bind_eq_ok.mp hgrant
    dsimp only at hgrant
    by_cases hk1 : config.authenticator = k1Authenticator
    · rw [if_pos hk1] at hgrant
      cases hgrant
      exact .inline manager commitment hself hk1 hpolicy
    · rw [if_neg hk1] at hgrant
      cases hgrant
      exact .stored manager commitment hself hauth hk1 hpolicy
  · rw [if_pos hself] at hgrant
    obtain ⟨written, hwritten, hgrant⟩ := bind_eq_ok.mp hgrant
    cases hgrant
    obtain ⟨hid, -, manager, commitment, hpolicy, rfl⟩ := authorizeNonSelfActor_eq_ok hwritten
    exact .other manager commitment hid hself hauth hpolicy

variable {emptySlots : Nat}

theorem revokeActorWithAccountState_eq
    (hrevoke : revokeActorWithAccountState storage account actorId state =
      (emptySlots, after, next)) :
    Revocation storage account actorId state emptySlots after next := by
  unfold revokeActorWithAccountState at hrevoke
  by_cases hstored : (storage.actorConfigSlot account actorId).authenticator = default
  · rw [if_neg (not_not.mpr hstored)] at hrevoke
    by_cases habsent : ¬ actorId = selfActorId account ∨ state.defaultEoaRevoked = true
    · rw [if_pos habsent] at hrevoke
      obtain ⟨rfl, rfl, rfl⟩ := hrevoke
      exact .absent hstored fun hself => habsent.resolve_left (not_not.mpr hself)
    · rw [if_neg habsent] at hrevoke
      obtain ⟨hself, hlive⟩ := not_or.mp habsent
      obtain ⟨rfl, rfl, rfl⟩ := hrevoke
      exact .inline _ hstored (not_not.mp hself) (Bool.eq_false_iff.mpr hlive)
  · rw [if_pos hstored] at hrevoke
    unfold revokeExplicitActor at hrevoke
    rw [if_neg hstored] at hrevoke
    obtain ⟨rfl, rfl, rfl⟩ := hrevoke
    exact .stored hstored

theorem decodeAuthorize_eq_ok {payload : Bytes}
    (hdecode : decodeAuthorize primitives payload = .ok (actorId, config, policyData)) :
    config.expiry < 2 ^ 48 := by
  unfold decodeAuthorize at hdecode
  split at hdecode
  · cases hdecode
  · cases hdecode
    exact BitVec.isLt _

theorem applySignedChange_eq_ok {change : SignedChange}
    (happly : applySignedChange primitives context change storage state =
      .ok (emptySlots, after, next)) :
    ChangeEffect context storage state after next := by
  unfold applySignedChange at happly
  split at happly
  · obtain ⟨⟨actorId, config, policyData⟩, hdecode, happly⟩ := bind_eq_ok.mp happly
    dsimp only at happly
    split at happly
    · rename_i hskip
      cases happly
      exact .skipped config hskip.1 hskip.2
    · obtain ⟨⟨⟩, hlocked, happly⟩ := bind_eq_ok.mp happly
      obtain ⟨⟨written, updated⟩, hgrant, happly⟩ := bind_eq_ok.mp happly
      cases happly
      exact .authorized actorId config policyData (decodeAuthorize_eq_ok hdecode)
        hlocked (authorizeActorWithAccountState_eq_ok hgrant)
  · obtain ⟨hlocked, happly⟩ := ensure_bind_eq_ok.mp happly
    obtain ⟨actorId, -, happly⟩ := bind_eq_ok.mp happly
    exact .revoked actorId emptySlots hlocked
      (revokeActorWithAccountState_eq (Except.ok.inj happly))
  · obtain ⟨updated, hincrement, happly⟩ := bind_eq_ok.mp happly
    obtain ⟨-, hincrement⟩ := ensure_bind_eq_ok.mp hincrement
    obtain ⟨hroom, hincrement⟩ := ensure_bind_eq_ok.mp hincrement
    cases hincrement
    cases happly
    exact .nextEpoch hroom
  · cases happly
  · cases happly

/-- One operation of a batch, between pairs of a storage and a state in memory. -/
def BatchStep (context : BatchContext)
    (before after : AccountConfiguration × AccountState) : Prop :=
  ChangeEffect context before.1 before.2 after.1 after.2

theorem applySignedChanges_eq_ok {changes : List SignedChange} {discount total : Nat}
    (happly : applySignedChanges primitives context changes discount storage state =
      .ok (total, after, next)) :
    Relation.ReflTransGen (BatchStep context) (storage, state) (after, next) := by
  induction changes generalizing discount storage state with
  | nil =>
    cases happly
    exact .refl
  | cons _ _ ih =>
    obtain ⟨⟨emptySlots, written, updated⟩, hchange, hrest⟩ := bind_eq_ok.mp happly
    exact .head (applySignedChange_eq_ok hchange) (ih hrest)

end Effects

section Batches

variable {batch : SignedAccountChanges} {now : Nat}

/-- A batch that is current for its channel, and the state that it starts from. -/
inductive Admitted (batch : SignedAccountChanges) (state : AccountState) : AccountState → Prop
  | sequenced (hchannel : batch.channel = .localChain)
      (hepoch : batch.epoch = state.localEpoch)
      (hcurrent : batch.localSequence = state.localSequence)
      (hroom : batch.localSequence < unsequenced - 1) :
      Admitted batch state { state with localSequence := state.localSequence + 1 }
  | first (hchannel : batch.channel = .localChain)
      (hepoch : batch.epoch = state.localEpoch)
      (hfree : batch.localSequence = unsequenced)
      (hnew : state.isInitialized = false) :
      Admitted batch state { state with localSequence := 1 }
  | unsequenced (hchannel : batch.channel = .localChain)
      (hepoch : batch.epoch = state.localEpoch)
      (hfree : batch.localSequence = unsequenced)
      (hold : state.isInitialized = true) :
      Admitted batch state state
  | multichain (hchannel : batch.channel = .multichain)
      (hcurrent : batch.sequence.toNat = state.multichainSequence)
      (hroom : state.multichainSequence < 2 ^ 64 - 1) :
      Admitted batch state { state with multichainSequence := state.multichainSequence + 1 }

theorem admitted_of_check (hcheck : checkChannelSequence batch state = .ok ())
    (hadvance : advanceChannelSequence batch.channel batch.sequence state = .ok next) :
    Admitted batch state next := by
  unfold checkChannelSequence at hcheck
  cases hchan : batch.channel with
  | localChain =>
    rw [hchan] at hcheck hadvance
    obtain ⟨hepoch, hcheck⟩ := ensure_bind_eq_ok.mp hcheck
    change (if batch.localSequence ≠ unsequenced then
      add _ batch.localSequence 1 >>= _ else _) = _ at hadvance
    by_cases hfree : batch.localSequence = unsequenced
    · rw [if_neg (not_not.mpr hfree)] at hadvance
      cases hnew : state.isInitialized with
      | false =>
        rw [hnew] at hadvance
        cases hadvance
        exact .first hchan hepoch hfree hnew
      | true =>
        rw [hnew] at hadvance
        cases hadvance
        exact .unsequenced hchan hepoch hfree hnew
    · rw [if_pos hfree] at hcheck hadvance
      obtain ⟨hcurrent, hcheck⟩ := ensure_bind_eq_ok.mp hcheck
      have hroom := Nat.lt_of_not_le (ensure_eq_ok.mp hcheck)
      obtain ⟨-, hadvance⟩ := add_bind_eq_ok.mp hadvance
      cases hadvance
      rw [hcurrent]
      exact .sequenced hchan hepoch hcurrent hroom
  | multichain =>
    rw [hchan] at hcheck hadvance
    obtain ⟨hcurrent, hcheck⟩ := ensure_bind_eq_ok.mp hcheck
    have hmax := ensure_eq_ok.mp hcheck
    obtain ⟨-, hadvance⟩ := add_bind_eq_ok.mp hadvance
    cases hadvance
    exact .multichain hchan hcurrent (by omega)

end Batches

/-- One initial actor of a new account. -/
inductive InitialStep (account : Address) (storage : AccountConfiguration) :
    AccountConfiguration → Prop
  | own {written : AccountConfiguration} {next : AccountState} (actorId : B256)
      (config : ActorConfig) (policyData : Bytes) (hexpiry : config.expiry = 0)
      (hself : actorId = selfActorId account)
      (hwrite : ActorWrite storage account actorId config policyData
        (storage.getAccountState account) written next) :
      InitialStep account storage (written.setAccountState account next)
  | other (actorId : B256) (config : ActorConfig) (policyData : Bytes)
      (manager : Address) (commitment : B256) (hexpiry : config.expiry = 0)
      (hid : actorId ≠ default) (hother : actorId ≠ selfActorId account)
      (hauthenticator : config.authenticator ≠ default)
      (hpolicy : slicePolicy policyData = .ok (manager, commitment)) :
      InitialStep account storage
        ((storage.setActorConfig account actorId config).setPolicy account actorId
          manager commitment)

/-- The state with which a new account starts, before its initial actors. -/
def AccountState.created (state : AccountState) : AccountState :=
  { state with localSequence := 1, flags := defaultEoaRevokedFlag }

/-- Everything that a creation has passed; the ids of the initial actors ascend from
zero. -/
structure Creation (primitives : Primitives) (entry : CreateEntry) (account : Address)
    (storage after : AccountConfiguration) : Prop where
  runtime : validateCreateRuntime entry.code = .ok ()
  address : computeAddress primitives entry.userSalt entry.code entry.initialActors = .ok account
  absent : (storage.getAccountState account).isInitialized = false
  actors : entry.initialActors ≠ []
  sorted : List.IsChain (fun earlier later : B256 => beNat earlier.val < beNat later.val)
    (default :: entry.initialActors.map InitialActor.actorId)
  steps : Relation.ReflTransGen (InitialStep account)
    (storage.setAccountState account (storage.getAccountState account).created) after

section Creation

theorem authorizeActor_eq_ok {actorId : B256} {config : ActorConfig}
    {policyData : Bytes} (hexpiry : config.expiry = 0)
    (hgrant : authorizeActor storage account actorId config policyData =
      .ok after) : InitialStep account storage after := by
  unfold authorizeActor at hgrant
  split at hgrant
  · rename_i hself
    obtain ⟨⟨written, next⟩, hwrite, hgrant⟩ := bind_eq_ok.mp hgrant
    cases hgrant
    exact .own actorId config policyData hexpiry hself (authorizeActorWithAccountState_eq_ok hwrite)
  · rename_i hother
    obtain ⟨hid, hauth, manager, commitment, hpolicy, rfl⟩ :=
      authorizeNonSelfActor_eq_ok hgrant
    exact .other actorId config policyData manager commitment hexpiry hid hother
      hauth hpolicy

theorem initializeActorsFrom_eq_ok {initialActors : List InitialActor} {previous : B256}
    (hinit : initializeActorsFrom account initialActors previous storage = .ok after) :
    List.IsChain (fun earlier later : B256 => beNat earlier.val < beNat later.val)
        (previous :: initialActors.map InitialActor.actorId) ∧
      Relation.ReflTransGen (InitialStep account) storage after := by
  induction initialActors generalizing previous storage with
  | nil =>
    cases hinit
    exact ⟨.singleton previous, .refl⟩
  | cons _ _ ih =>
    obtain ⟨hafter, hinit⟩ := ensure_bind_eq_ok.mp hinit
    obtain ⟨written, hactor, hrest⟩ := bind_eq_ok.mp hinit
    obtain ⟨hsorted, hsteps⟩ := ih hrest
    exact ⟨.cons_cons (Nat.lt_of_not_le hafter) hsorted,
      .head (authorizeActor_eq_ok rfl hactor) hsteps⟩

theorem applyCreate_eq_ok {entry : CreateEntry} {created : CreatedAccount}
    (hcreate : applyCreate primitives storage entry = .ok (created, after)) :
    Creation primitives entry created.address storage after := by
  obtain ⟨⟨⟩, hruntime, hcreate⟩ := bind_eq_ok.mp hcreate
  obtain ⟨address, haddr, hcreate⟩ := bind_eq_ok.mp hcreate
  obtain ⟨habsent, hcreate⟩ := ensure_bind_eq_ok.mp hcreate
  obtain ⟨written, hinit, hcreate⟩ := bind_eq_ok.mp hcreate
  obtain ⟨hactors, hinit⟩ := ensure_bind_eq_ok.mp hinit
  cases hcreate
  obtain ⟨hsorted, hsteps⟩ := initializeActorsFrom_eq_ok hinit
  exact ⟨hruntime, haddr, habsent, hactors, hsorted, hsteps⟩

end Creation

section Frames

theorem ActorWrite.sameAccount
    (hwrite : ActorWrite storage account actorId config policyData state after next)
    (hne : other ≠ account) : SameAccount storage after other := by
  cases hwrite with
  | other | inline | stored => exact (SameAccount.refl.setActorConfig hne _).setPolicy hne _ _

theorem Revocation.sameAccount {emptySlots : Nat}
    (hrevoke : Revocation storage account actorId state emptySlots after next)
    (hne : other ≠ account) : SameAccount storage after other := by
  cases hrevoke with
  | stored => exact (SameAccount.refl.setActorConfig hne _).setPolicy hne _ _
  | absent => exact .refl
  | inline => exact (SameAccount.refl.setActorConfig hne _).setPolicy hne _ _

theorem ChangeEffect.sameAccount (heffect : ChangeEffect context storage state after next)
    (hne : other ≠ context.account) : SameAccount storage after other := by
  cases heffect with
  | skipped => exact .refl
  | authorized _ _ _ _ _ hwrite => exact hwrite.sameAccount hne
  | revoked _ _ _ hrevoke => exact hrevoke.sameAccount hne
  | nextEpoch => exact .refl

theorem batch_sameAccount {before final : AccountConfiguration × AccountState}
    (hsteps : Relation.ReflTransGen (BatchStep context) before final)
    (hne : other ≠ context.account) : SameAccount before.1 final.1 other := by
  induction hsteps with
  | refl => exact .refl
  | tail _ hstep ih => exact ih.trans (ChangeEffect.sameAccount hstep hne)

theorem InitialStep.sameAccount (hstep : InitialStep account storage after)
    (hne : other ≠ account) : SameAccount storage after other := by
  cases hstep with
  | own _ _ _ _ _ hwrite =>
    exact (hwrite.sameAccount hne).setAccountState hne _
  | other actorId config policyData manager commitment hexpiry hid hother hauth hpolicy =>
      exact (SameAccount.refl.setActorConfig hne _).setPolicy hne _ _

theorem initial_sameAccount (hsteps : Relation.ReflTransGen (InitialStep account) storage after)
    (hne : other ≠ account) : SameAccount storage after other := by
  induction hsteps with
  | refl => exact .refl
  | tail _ hstep ih => exact ih.trans (hstep.sameAccount hne)

end Frames

end Eip8130

end BaseChain
