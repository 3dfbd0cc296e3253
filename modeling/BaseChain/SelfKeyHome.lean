/-
The key of an account itself is kept either inline, in the state of the account, or in
the table of actors.  Along every run of accepted transactions it is in one of the two
places only, and what is stored for an actor that is not there is nothing.
-/
import BaseChain.AccountReplay
import BaseChain.ActorAuthentication

namespace BaseChain

open Checked Function Eip8130.AccountConfiguration Eip8130.ActorConfig

namespace Eip8130

/-- What is stored for one actor: nothing if it is absent, and for the own key of the
account only what has no place inline. -/
structure ActorHome (account : Address) (revoked : Bool) (actorId word : B256)
    (policy : Address × B256) : Prop where
  blank : (fromWord word).authenticator = default → word = default
  ungated : (fromWord word).authenticator = default →
    (actorId = selfActorId account → revoked = true) → policy = default
  nobody : actorId = default → (fromWord word).authenticator ≠ default →
    actorId = selfActorId account
  foreign : actorId = selfActorId account → (fromWord word).authenticator ≠ k1Authenticator
  superseded : actorId = selfActorId account →
    (fromWord word).authenticator ≠ default → revoked = true

/-- The actors of an account and its inline key.  The state may be one in memory that is
not written yet. -/
structure Homes (storage : AccountConfiguration) (account : Address)
    (state : AccountState) : Prop where
  actors : ∀ actorId, ActorHome account state.defaultEoaRevoked actorId
    (storage.actors actorId account) (storage.policy account actorId)
  bare : state.defaultEoaRevoked = true → state.defaultEoaScope = 0 ∧ state.defaultEoaExpiry = 0

/-- Nothing was ever stored for an account. -/
structure Unused (storage : AccountConfiguration) (account : Address) : Prop where
  state : storage.getAccountState account = .zero
  actors : ∀ actorId, storage.actors actorId account = default
  policy : ∀ actorId, storage.policy account actorId = default

theorem k1Authenticator_ne_default : k1Authenticator ≠ default := by decide

theorem ActorConfig.toWord_empty : ActorConfig.empty.toWord = default := by decide

variable {actorId : B256} {revoked : Bool} {policy : Address × B256} {account : Address}

theorem ActorHome.absent
    (hpolicy : (actorId = selfActorId account → revoked = true) → policy = default) :
    ActorHome account revoked actorId ActorConfig.empty.toWord policy := by
  have hempty : fromWord ActorConfig.empty.toWord = .empty := fromWord_toWord (by decide)
  refine ⟨fun _ => toWord_empty, fun _ => hpolicy, ?_, ?_, ?_⟩
  · exact fun _ hpres => absurd (congrArg authenticator hempty) hpres
  · exact fun _ hk1 => k1Authenticator_ne_default (hk1.symm.trans (congrArg authenticator hempty))
  · exact fun _ hpres => absurd (congrArg authenticator hempty) hpres

theorem ActorHome.present {config : ActorConfig} (hexpiry : config.expiry < 2 ^ 48)
    (hauth : config.authenticator ≠ default)
    (hid : actorId = default → actorId = selfActorId account)
    (hself : actorId = selfActorId account →
      config.authenticator ≠ k1Authenticator ∧ revoked = true) :
    ActorHome account revoked actorId config.toWord policy := by
  have hconfig := fromWord_toWord hexpiry
  refine ⟨?_, ?_, fun hzero _ => hid hzero, ?_, fun howner _ => (hself howner).2⟩
  · rw [hconfig]
    exact fun habsent => absurd habsent hauth
  · rw [hconfig]
    exact fun habsent => absurd habsent hauth
  · rw [hconfig]
    exact fun howner => (hself howner).1

variable {storage after : AccountConfiguration} {state next : AccountState}

section Homes

variable {config : ActorConfig} {policyData : Bytes} {context : BatchContext}

/-- Everything that an operation writes is one actor, its policy and, if it is the own
key of the account, the inline key. -/
theorem Homes.update (hhomes : Homes storage account state) {manager : Address} {commitment : B256}
    (hactor : ActorHome account next.defaultEoaRevoked actorId config.toWord (manager, commitment))
    (hother : actorId ≠ selfActorId account → next = state)
    (hbare : next.defaultEoaRevoked = true → next.defaultEoaScope = 0 ∧ next.defaultEoaExpiry = 0) :
    Homes ((storage.setActorConfig account actorId config).setPolicy account actorId
      manager commitment) account next := by
  refine ⟨fun otherId => ?_, hbare⟩
  by_cases hid : otherId = actorId
  · subst hid
    rw [policy_setPolicy]
    unfold setPolicy setActorConfig
    dsimp only
    rw [update_self, update_self]
    exact hactor
  · have hkept := hhomes.actors otherId
    rw [policy_setPolicy_of_ne _ _ _ _ _ _ hid]
    unfold setPolicy setActorConfig
    dsimp only
    rw [update_of_ne hid]
    by_cases howner : actorId = selfActorId account
    · -- the own key is the one that is written, so the flag is not about this actor
      have hstranger : otherId ≠ selfActorId account := howner ▸ hid
      exact ⟨hkept.blank, fun hempty _ => hkept.ungated hempty (absurd · hstranger),
        hkept.nobody, (absurd · hstranger), (absurd · hstranger)⟩
    · rw [hother howner]
      exact hkept

theorem ActorWrite.homes
    (hwrite : ActorWrite storage account actorId config policyData state after next)
    (hexpiry : config.expiry < 2 ^ 48) (hhomes : Homes storage account state) :
    Homes after account next := by
  cases hwrite with
  | other _ _ hid hother hauth =>
    exact hhomes.update (.present hexpiry hauth (absurd · hid)
      (absurd · hother)) (fun _ => rfl) hhomes.bare
  | inline _ _ hself =>
    have hlive : ({ state with
        defaultEoaScope := config.scope
        defaultEoaExpiry := config.expiry
        flags := state.flags &&& ~~~defaultEoaRevokedFlag } :
          AccountState).defaultEoaRevoked = false :=
      decide_eq_false (not_not.mpr (AccountState.not_revoked_and_not state.flags))
    refine hhomes.update (.absent fun hrevoked => ?_) (absurd hself) fun hrevoked => ?_
    · exact absurd (hrevoked hself) (Bool.eq_false_iff.mp hlive)
    · exact absurd hrevoked (Bool.eq_false_iff.mp hlive)
  | stored _ _ hself hauth hforeign =>
    exact hhomes.update (.present hexpiry hauth (fun _ => hself)
      fun _ => ⟨hforeign, decide_eq_true (AccountState.revoked_or _)⟩) (absurd hself)
      fun _ => ⟨rfl, rfl⟩

theorem Revocation.homes {emptySlots : Nat}
    (hrevoke : Revocation storage account actorId state emptySlots after next)
    (hhomes : Homes storage account state) : Homes after account next := by
  cases hrevoke with
  | stored =>
    refine hhomes.update (.absent fun _ => rfl) (if_neg ·) ?_
    split
    · exact fun _ => ⟨rfl, rfl⟩
    · exact hhomes.bare
  | absent => exact hhomes
  | inline _ _ hself =>
    exact hhomes.update (.absent fun _ => rfl) (absurd hself) fun _ => ⟨rfl, rfl⟩

theorem ChangeEffect.homes (heffect : ChangeEffect context storage state after next)
    (hhomes : Homes storage context.account state) :
    Homes after context.account next := by
  cases heffect with
  | skipped => exact hhomes
  | authorized _ _ _ hexpiry _ hwrite => exact hwrite.homes hexpiry hhomes
  | revoked _ _ _ hrevoke => exact hrevoke.homes hhomes
  | nextEpoch => exact ⟨hhomes.actors, hhomes.bare⟩

theorem batch_homes {before final : AccountConfiguration × AccountState}
    (hsteps : Relation.ReflTransGen (BatchStep context) before final)
    (hhomes : Homes before.1 context.account before.2) :
    Homes final.1 context.account final.2 := by
  induction hsteps with
  | refl => exact hhomes
  | tail _ hstep ih => exact ChangeEffect.homes hstep ih

end Homes

/-- What holds for every account: its actors are where they belong, and before its first
change nothing at all is stored for it. -/
structure Settled (storage : AccountConfiguration) (account : Address) : Prop where
  homes : Homes storage account (storage.getAccountState account)
  unused : (storage.getAccountState account).isInitialized = false → Unused storage account

variable {primitives : Primitives}

section Settled

variable {batch : SignedAccountChanges}

theorem Homes.flush (hhomes : Homes storage account state) (hfits : state.Fits) :
    Homes (storage.setAccountState account state) account
      ((storage.setAccountState account state).getAccountState account) := by
  rw [getAccountState_setAccountState _ _ hfits]
  exact ⟨hhomes.actors, hhomes.bare⟩

theorem Admitted.homes (hadmitted : Admitted batch state next)
    (hhomes : Homes storage account state) : Homes storage account next := by
  cases hadmitted with
  | sequenced hchan hepoch hcurrent hroom | first hchan hepoch hfree hnew =>
    exact ⟨hhomes.actors, hhomes.bare⟩
  | unsequenced => exact hhomes
  | multichain => exact ⟨hhomes.actors, hhomes.bare⟩

/-- A created account has no actors yet and its inline key is off. -/
theorem Unused.homes_created (hunused : Unused storage account) :
    Homes storage account (storage.getAccountState account).created := by
  rw [hunused.state]
  refine ⟨fun actorId => ?_, fun _ => ⟨rfl, rfl⟩⟩
  rw [hunused.actors, hunused.policy]
  exact .absent fun _ => rfl

theorem InitialStep.homes (hstep : InitialStep account storage after)
    (hhomes : Homes storage account (storage.getAccountState account)) :
    Homes after account (after.getAccountState account) := by
  cases hstep with
  | own _ config _ hexpiry _ hwrite =>
    have hlt : config.expiry < 2 ^ 48 := hexpiry.trans_lt (Nat.two_pow_pos 48)
    exact (hwrite.homes hlt hhomes).flush (hwrite.fits hlt fits_getAccountState)
  | other actorId config policyData manager commitment hexpiry hid hother hauth hpolicy =>
      have hlt : config.expiry < 2 ^ 48 := hexpiry.trans_lt (Nat.two_pow_pos 48)
      exact (ActorWrite.other manager commitment hid hother hauth hpolicy).homes hlt hhomes

theorem initial_homes (hsteps : Relation.ReflTransGen (InitialStep account) storage after)
    (hhomes : Homes storage account (storage.getAccountState account)) :
    Homes after account (after.getAccountState account) := by
  induction hsteps with
  | refl => exact hhomes
  | tail _ hstep ih => exact hstep.homes ih

theorem SameAccount.settled (hsame : SameAccount storage after account)
    (hdone : Settled storage account) : Settled after account := by
  obtain ⟨⟨hactors, hbare⟩, hunused⟩ := hdone
  constructor
  · rw [hsame.getAccountState]
    refine ⟨fun actorId => ?_, hbare⟩
    rw [hsame.actors, hsame.policy]
    exact hactors actorId
  · rw [hsame.getAccountState]
    intro hnew
    obtain ⟨hstate, hwords, hpolicy⟩ := hunused hnew
    refine ⟨hsame.getAccountState.trans hstate, fun actorId => ?_, fun actorId => ?_⟩
    · exact (hsame.actors actorId).trans (hwords actorId)
    · exact (hsame.policy actorId).trans (hpolicy actorId)

theorem EntryStep.settled {localChainId now : Nat} {owner : Address} {change : AccountChange}
    (hstep : EntryStep primitives localChainId now owner storage change after)
    (hdone : Settled storage account) : Settled after account := by
  by_cases hother : account = owner
  · subst hother
    have hinit := hstep.counts.initialized
    cases hstep with
    | create _ hmade =>
      have hcreated := (hdone.unused hmade.absent).homes_created.flush fits_getAccountState.created
      refine ⟨initial_homes hmade.steps hcreated, fun hnew => ?_⟩
      exact nomatch (hinit nofun).symm.trans hnew
    | config _ _ _ _ _ _ hadmitted hsteps =>
      have hfits := batch_fits hsteps (hadmitted.fits fits_getAccountState)
      have hhomes := batch_homes hsteps (hadmitted.homes hdone.homes)
      refine ⟨hhomes.flush hfits, fun hnew => ?_⟩
      exact nomatch (hinit nofun).symm.trans hnew
    | delegation => exact hdone
  · exact (hstep.sameAccount hother).settled hdone

theorem settled_empty : Settled .empty account := by
  have hstate : AccountConfiguration.empty.getAccountState account = .zero :=
    AccountState.fromWord_default
  refine ⟨⟨fun actorId => ?_, fun hrevoked => ?_⟩, fun _ => ⟨hstate, fun _ => rfl, fun _ => rfl⟩⟩
  · exact .absent fun _ => rfl
  · exact ⟨rfl, rfl⟩

theorem Accepted.settled {requests : List TxRequest}
    (hacc : Accepted primitives .empty requests storage) (account : Address) :
    Settled storage account :=
  hacc.run.invariant (motive := fun storage => Settled storage account)
    (fun hstep => hstep.settled) settled_empty

end Settled

/-- How many of the three slots of an actor hold nothing. -/
def AccountConfiguration.emptySlots (storage : AccountConfiguration) (account : Address)
    (actorId : B256) : Nat :=
  (if storage.actors actorId account = default then 1 else 0) +
    (if storage.policyManager account actorId = default then 1 else 0) +
    (if storage.policyCommitment account actorId = default then 1 else 0)

/-- No public key under which a signature verifies hashes to the id that stands for
nobody. -/
def Primitives.NamesKeys (primitives : Primitives) : Prop :=
  ∀ prehash r s x y, primitives.p256Verify prehash r s x y = .ok () →
    primitives.keccak256 (x ++ y) ≠ default

section Resolution

variable {storage : AccountConfiguration} {hash : B256} {now : Nat}
  {account authenticator : Address} {data : Bytes} {resolved : ResolvedActor}

theorem ActorConfig.isEmpty_eq_false {config : ActorConfig} :
    config.isEmpty = false ↔ config.authenticator ≠ default := decide_eq_false_iff_not

theorem resolveActorConfig_stored
    (hstored : (storage.actorConfigSlot account actorId).authenticator ≠ default) :
    storage.resolveActorConfig account actorId = storage.actorConfigSlot account actorId := by
  exact if_pos (isEmpty_eq_false.mpr hstored)

variable (hempty : (storage.actorConfigSlot account actorId).authenticator = default)

include hempty in
theorem resolveActorConfig_inline (hself : actorId = selfActorId account)
    (hlive : (storage.getAccountState account).defaultEoaRevoked = false) :
    storage.resolveActorConfig account actorId = inlineSelf (storage.getAccountState account) := by
  unfold resolveActorConfig
  rw [if_neg (fun hstored => isEmpty_eq_false.mp hstored hempty), if_pos hself, if_pos hlive]

/-- The three ways in which an actor is resolved. -/
theorem resolveActorConfig_cases (storage : AccountConfiguration) (account : Address)
    (actorId : B256) :
    (storage.actorConfigSlot account actorId).authenticator ≠ default ∧
        storage.resolveActorConfig account actorId = storage.actorConfigSlot account actorId ∨
      ((storage.actorConfigSlot account actorId).authenticator = default ∧
        actorId = selfActorId account ∧
        (storage.getAccountState account).defaultEoaRevoked = false ∧
        storage.resolveActorConfig account actorId = inlineSelf (storage.getAccountState account)) ∨
      (storage.actorConfigSlot account actorId).authenticator = default ∧
        (actorId = selfActorId account →
          (storage.getAccountState account).defaultEoaRevoked = true) ∧
        storage.resolveActorConfig account actorId = .empty := by
  by_cases hempty : (storage.actorConfigSlot account actorId).authenticator = default
  · by_cases hself : actorId = selfActorId account
    · cases hlive : (storage.getAccountState account).defaultEoaRevoked with
      | false =>
        exact .inr (.inl ⟨hempty, hself, rfl, resolveActorConfig_inline hempty hself hlive⟩)
      | true =>
        refine .inr (.inr ⟨hempty, fun _ => rfl, ?_⟩)
        unfold resolveActorConfig
        dsimp only
        rw [if_neg (fun hstored => isEmpty_eq_false.mp hstored hempty),
          if_pos hself, hlive, if_neg Bool.true_eq_false.mp]
    · refine .inr (.inr ⟨hempty, fun howner => absurd howner hself, ?_⟩)
      unfold resolveActorConfig
      rw [if_neg (fun hstored => isEmpty_eq_false.mp hstored hempty), if_neg hself]
  · exact .inl ⟨hempty, resolveActorConfig_stored hempty⟩

include hempty in
theorem revokeActorWithAccountState_absent {state : AccountState}
    (hrevoked : actorId = selfActorId account → state.defaultEoaRevoked = true) :
    revokeActorWithAccountState storage account actorId state = (3, storage, state) := by
  have habsent : ¬ actorId = selfActorId account ∨ state.defaultEoaRevoked = true :=
    Decidable.not_or_of_imp hrevoked
  unfold revokeActorWithAccountState
  rw [if_neg (not_not.mpr hempty), if_pos habsent]

variable (hhomes : Homes storage account (storage.getAccountState account))

include hhomes in
/-- An actor that resolves to nothing has three empty slots, and that is the number which
its revocation returns. -/
theorem Homes.revoke_absent
    (habsent : (storage.resolveActorConfig account actorId).isEmpty = true) :
    storage.policyManager account actorId = default ∧
      storage.policyCommitment account actorId = default ∧
      (revokeActorWithAccountState storage account actorId
          (storage.getAccountState account)).1 = storage.emptySlots account actorId := by
  obtain ⟨hempty, hrevoked⟩ : (storage.actorConfigSlot account actorId).authenticator = default ∧
        (actorId = selfActorId account →
          (storage.getAccountState account).defaultEoaRevoked = true) := by
    replace habsent := of_decide_eq_true habsent
    rcases resolveActorConfig_cases storage account actorId with
      ⟨hstored, hresolve⟩ | ⟨-, -, -, hresolve⟩ | ⟨hempty, hrevoked, -⟩
    · rw [hresolve] at habsent
      exact absurd habsent hstored
    · rw [hresolve] at habsent
      exact absurd habsent k1Authenticator_ne_default
    · exact ⟨hempty, hrevoked⟩
  have hhome := hhomes.actors actorId
  have hword := hhome.blank hempty
  obtain ⟨hmanager, hcommitment⟩ := Prod.mk.inj (hhome.ungated hempty hrevoked)
  refine ⟨hmanager, hcommitment, ?_⟩
  unfold emptySlots
  rw [if_pos hword, if_pos hmanager, if_pos hcommitment,
    revokeActorWithAccountState_absent hempty hrevoked]

theorem p256_eq_ok (hverify : p256 primitives hash data = .ok actorId) :
    ∃ prehash r s x y, primitives.p256Verify prehash r s x y = .ok () ∧
      actorId = primitives.keccak256 (x ++ y) := by
  obtain ⟨-, hverify⟩ := ensure_bind_eq_ok.mp hverify
  obtain ⟨⟨⟩, hpoint, hverify⟩ := bind_eq_ok.mp hverify
  exact ⟨_, _, _, _, _, hpoint, (Except.ok.inj hverify).symm⟩

theorem webauthn_eq_ok (hverify : webauthn primitives hash data = .ok actorId) :
    ∃ prehash r s x y, primitives.p256Verify prehash r s x y = .ok () ∧
      actorId = primitives.keccak256 (x ++ y) := by
  unfold webauthn at hverify
  split at hverify
  · cases hverify
  obtain ⟨-, hverify⟩ := ensure_bind_eq_ok.mp hverify
  obtain ⟨-, hverify⟩ := ensure_bind_eq_ok.mp hverify
  obtain ⟨⟨⟩, -, hverify⟩ := bind_eq_ok.mp hverify
  obtain ⟨⟨⟩, -, hverify⟩ := bind_eq_ok.mp hverify
  obtain ⟨-, hverify⟩ := ensure_bind_eq_ok.mp hverify
  obtain ⟨-, hverify⟩ := ensure_bind_eq_ok.mp hverify
  obtain ⟨⟨⟩, hpoint, hverify⟩ := bind_eq_ok.mp hverify
  exact ⟨_, _, _, _, _, hpoint, (Except.ok.inj hverify).symm⟩

/-- A verified public key is somebody. -/
theorem Primitives.NamesKeys.somebody (hkeys : primitives.NamesKeys)
    (hcall : dispatchAuthenticate primitives hash authenticator data =
      .ok (.authenticated actorId))
    (hk1 : authenticator ≠ k1Authenticator) : actorId ≠ default := by
  have hverifier := isVerifier_of_dispatch hcall
  unfold dispatchAuthenticate at hcall
  rcases hverifier with hverifier | rfl | rfl
  · exact absurd hverifier hk1
  · rw [if_pos rfl] at hcall
    obtain ⟨id, hverify, hcall⟩ := bind_eq_ok.mp hcall
    cases hcall
    obtain ⟨prehash, r, s, x, y, hpoint, rfl⟩ := p256_eq_ok hverify
    exact hkeys prehash r s x y hpoint
  · rw [if_neg (by decide), if_pos rfl] at hcall
    obtain ⟨id, hverify, hcall⟩ := bind_eq_ok.mp hcall
    cases hcall
    obtain ⟨prehash, r, s, x, y, hpoint, rfl⟩ := webauthn_eq_ok hverify
    exact hkeys prehash r s x y hpoint

theorem Bound.resolves (hbound : Bound storage account actorId authenticator now resolved)
    (hauth : authenticator ≠ default) :
    storage.resolveActorConfig account resolved.actorId =
        ⟨authenticator, resolved.expiry, resolved.scope⟩ ∧
      (storage.resolveActorConfig account resolved.actorId).isExpired now = false := by
  obtain ⟨-, rfl, hcurrent, rfl⟩ := hbound
  rw [resolveActorConfig_stored hauth]
  exact ⟨rfl, hcurrent⟩

/-- An actor is authenticated as what it resolves to. -/
theorem Authenticated.resolves
    (hproven : Authenticated primitives storage hash now account authenticator data
      (storage.getAccountState account) resolved)
    (hhomes : Homes storage account (storage.getAccountState account)) :
    storage.resolveActorConfig account resolved.actorId =
        ⟨authenticator, resolved.expiry, resolved.scope⟩ ∧
      (storage.resolveActorConfig account resolved.actorId).isExpired now = false := by
  cases hproven with
  | own recovered _ hself hlive hcurrent =>
    have hempty : (storage.actorConfigSlot account
        (selfActorId recovered)).authenticator = default := by
      by_contra hstored
      have hrevoked := (hhomes.actors (selfActorId recovered)).superseded hself hstored
      exact nomatch hlive.symm.trans hrevoked
    rw [resolveActorConfig_inline hempty hself hlive]
    exact ⟨rfl, decide_eq_false hcurrent⟩
  | bound _ hcall _ hbound =>
    exact hbound.resolves (isVerifier_of_dispatch hcall).ne_default
  | delegated _ _ _ _ hbound =>
    exact hbound.resolves (by decide)

include hhomes in
/-- An actor that resolves and whose signature verifies is authenticated. -/
theorem Homes.authenticated (hkeys : primitives.NamesKeys)
    (hcall : dispatchAuthenticate primitives hash authenticator data =
      .ok (.authenticated actorId))
    (hauth : (storage.resolveActorConfig account actorId).authenticator = authenticator)
    (hcurrent : (storage.resolveActorConfig account actorId).isExpired now = false) :
    ∃ resolved, Authenticated primitives storage hash now account authenticator data
      (storage.getAccountState account) resolved ∧ resolved.actorId = actorId := by
  have hverifier := isVerifier_of_dispatch hcall
  have hhome := hhomes.actors actorId
  rcases resolveActorConfig_cases storage account actorId with
    ⟨hstored, hresolve⟩ | ⟨-, hself, hlive, hresolve⟩ | ⟨-, -, hresolve⟩
  · rw [hresolve] at hauth hcurrent
    have hother : authenticator = k1Authenticator → actorId ≠ selfActorId account :=
      fun hk1 hself => hhome.foreign hself (hauth.trans hk1)
    have hsomebody : actorId ≠ default := by
      by_cases hk1 : authenticator = k1Authenticator
      · exact fun hzero => hother hk1 (hhome.nobody hzero hstored)
      · exact hkeys.somebody hcall hk1
    exact ⟨_, .bound actorId hcall hother ⟨hsomebody, hauth, hcurrent, rfl⟩, rfl⟩
  · rw [hresolve] at hauth hcurrent
    subst hauth
    obtain ⟨recovered, hrecovered, rfl⟩ := dispatch_k1_eq_ok hcall
    exact ⟨_, .own recovered hrecovered hself hlive (of_decide_eq_false hcurrent), rfl⟩
  · rw [hresolve] at hauth
    exact absurd hauth.symm hverifier.ne_default

end Resolution

/-- An account that moves its own key from the inline place into the table. -/
def ownKeyRequests : List TxRequest :=
  let account := addressOf 0xA1
  [⟨⟨⟨some account, 0, [ownBatch account .localChain 0
      [authorizeChange (selfActorId account) ⟨p256Authenticator, 0, 0⟩,
        authorizeChange (padded 32 [1]) ⟨p256Authenticator, 0, 0⟩]], none⟩,
    p256Authenticator.val ++ List.replicate 129 0, []⟩, 8453, 100⟩]

end Eip8130

end BaseChain
