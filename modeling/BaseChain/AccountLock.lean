/-
A locked account.  Until it is unlocked its actors stay as they are, apart from leases
that are extended and actors that are added for longer than the lock lasts.
-/
import BaseChain.AccountReplay

namespace BaseChain

open Eip8130.AccountConfiguration

namespace Eip8130

namespace AccountState

/-- Two states say the same about the lock. -/
structure SameLock (before after : AccountState) : Prop where
  locked : after.flags &&& flagLocked = before.flags &&& flagLocked
  initiated : after.flags &&& flagUnlockInitiated = before.flags &&& flagUnlockInitiated
  lockUnion : after.lockUnion = before.lockUnion

namespace SameLock

variable {before middle after : AccountState}

theorem refl : SameLock before before := ⟨rfl, rfl, rfl⟩

theorem trans (hfirst : SameLock before middle) (hsecond : SameLock middle after) :
    SameLock before after where
  locked := hsecond.locked.trans hfirst.locked
  initiated := hsecond.initiated.trans hfirst.initiated
  lockUnion := hsecond.lockUnion.trans hfirst.lockUnion

theorem isLocked (hlock : SameLock before after) (now : Nat) :
    after.isLocked now = before.isLocked now := by
  unfold AccountState.isLocked
  rw [hlock.locked, hlock.initiated, hlock.lockUnion]

theorem unlockFloor (hlock : SameLock before after) (now : Nat) :
    after.unlockFloor now = before.unlockFloor now := by
  unfold AccountState.unlockFloor
  rw [hlock.initiated, hlock.lockUnion]

end SameLock

variable (state : AccountState)

/-- The bit of the inline key is none of the bits of the lock. -/
theorem sameLock_disableInlineSelf : SameLock state state.disableInlineSelf := by
  have hbits : ∀ flags : BitVec 8,
      (flags ||| defaultEoaRevokedFlag) &&& flagLocked = flags &&& flagLocked ∧
        (flags ||| defaultEoaRevokedFlag) &&& flagUnlockInitiated =
          flags &&& flagUnlockInitiated := by decide
  exact ⟨(hbits state.flags).1, (hbits state.flags).2, rfl⟩

theorem sameLock_enableInlineSelf (expiry : Nat) (scope : BitVec 16) : SameLock state
      { state with
        defaultEoaScope := scope
        defaultEoaExpiry := expiry
        flags := state.flags &&& ~~~defaultEoaRevokedFlag } := by
  have hbits : ∀ flags : BitVec 8,
      (flags &&& ~~~defaultEoaRevokedFlag) &&& flagLocked = flags &&& flagLocked ∧
        (flags &&& ~~~defaultEoaRevokedFlag) &&& flagUnlockInitiated =
          flags &&& flagUnlockInitiated := by decide
  exact ⟨(hbits state.flags).1, (hbits state.flags).2, rfl⟩

/-- What outlives the lock has not lapsed. -/
theorem lt_of_unlockFloor_lt {state : AccountState} {expiry now : Nat}
    (hlocked : state.isLocked now = true) (hexpiry : expiry < 2 ^ 48)
    (hfloor : state.unlockFloor now < expiry) : now < expiry := by
  unfold isLocked at hlocked
  unfold unlockFloor at hfloor
  split at hlocked
  · cases hlocked
  split at hlocked
  · rename_i hhard
    rw [if_neg (not_not.mpr hhard)] at hfloor
    omega
  · rename_i hpend
    rw [if_pos hpend] at hfloor
    have hpast := of_decide_eq_true hlocked
    omega

end AccountState

variable {storage after : AccountConfiguration} {account : Address} {config : ActorConfig}
  {policyData : Bytes} {state next : AccountState} {now : Nat}

section Writes

variable {actorId otherId : B256}

theorem resolveLiveActorConfigWithState_stored
    (hstored : (storage.actorConfigSlot account actorId).authenticator ≠ default) :
    storage.resolveLiveActorConfigWithState account actorId state now =
      if (storage.actorConfigSlot account actorId).isExpired now then .empty
      else storage.actorConfigSlot account actorId := by
  have hfull : (storage.actorConfigSlot account actorId).isEmpty = false := decide_eq_false hstored
  unfold resolveLiveActorConfigWithState
  dsimp only
  rw [if_pos hfull]

theorem resolveLiveActorConfigWithState_inline
    (hempty : (storage.actorConfigSlot account actorId).authenticator = default)
    (hself : actorId = selfActorId account) (hlive : state.defaultEoaRevoked = false) :
    storage.resolveLiveActorConfigWithState account actorId state now =
      if (inlineSelf state).isExpired now then .empty
      else inlineSelf state := by
  have hslot : ¬ (storage.actorConfigSlot account actorId).isEmpty = false :=
    fun hfull => of_decide_eq_false hfull hempty
  have hinline : actorId = selfActorId account ∧ state.defaultEoaRevoked = false := ⟨hself, hlive⟩
  unfold resolveLiveActorConfigWithState
  dsimp only
  rw [if_neg hslot, if_pos hinline]

/-- What is live depends on the slot of the actor and, for the own key of the account, on
its inline part. -/
theorem resolveLiveActorConfigWithState_congr
    (hslot : after.actorConfigSlot account actorId = storage.actorConfigSlot account actorId)
    (hstate : actorId = selfActorId account → next = state) :
    after.resolveLiveActorConfigWithState account actorId next now =
      storage.resolveLiveActorConfigWithState account actorId state now := by
  unfold resolveLiveActorConfigWithState
  rw [hslot]
  by_cases hself : actorId = selfActorId account
  · rw [hstate hself]
  · simp [hself]

section

variable (hwrite : ActorWrite storage account actorId config policyData state after next)
include hwrite

theorem ActorWrite.sameLock : state.SameLock next := by
  cases hwrite with
  | other => exact .refl
  | inline => exact state.sameLock_enableInlineSelf config.expiry config.scope
  | stored => exact state.sameLock_disableInlineSelf

/-- A written actor is live with what was written, unless that has lapsed. -/
theorem ActorWrite.live (hexpiry : config.expiry < 2 ^ 48) :
    after.resolveLiveActorConfigWithState account actorId next now =
      if config.isExpired now then .empty else config := by
  cases hwrite with
  | other manager commitment _ _ hauth | stored manager commitment _ hauth =>
    have hslot := actorConfigSlot_setActorConfig storage account actorId hexpiry
    rw [← actorConfigSlot_setPolicy _ account account actorId actorId manager commitment] at hslot
    rw [resolveLiveActorConfigWithState_stored (hslot.symm ▸ hauth), hslot]
  | inline manager commitment hself hauth =>
    have hslot := actorConfigSlot_clearActorConfig storage account actorId
    have hlive : (AccountState.defaultEoaRevoked { state with
        defaultEoaScope := config.scope
        defaultEoaExpiry := config.expiry
        flags := state.flags &&& ~~~defaultEoaRevokedFlag }) = false :=
      decide_eq_false (not_not.mpr (AccountState.not_revoked_and_not state.flags))
    have hconfig : inlineSelf { state with
        defaultEoaScope := config.scope
        defaultEoaExpiry := config.expiry
        flags := state.flags &&& ~~~defaultEoaRevokedFlag } = config :=
      ActorConfig.ext hauth.symm rfl rfl
    rw [resolveLiveActorConfigWithState_inline (hslot.symm ▸ rfl) hself hlive, hconfig]

theorem ActorWrite.live_of_ne (hne : otherId ≠ actorId) :
    after.resolveLiveActorConfigWithState account otherId next now =
      storage.resolveLiveActorConfigWithState account otherId state now := by
  cases hwrite with
  | other =>
    refine resolveLiveActorConfigWithState_congr ?_ fun _ => rfl
    exact actorConfigSlot_setActorConfig_of_ne storage account actorId otherId _ hne
  | inline manager commitment hself | stored manager commitment hself =>
    refine resolveLiveActorConfigWithState_congr ?_ fun hown => absurd (hown.trans hself.symm) hne
    exact actorConfigSlot_setActorConfig_of_ne storage account actorId otherId _ hne

theorem ActorWrite.policy : slicePolicy policyData = .ok (after.policy account actorId) := by
  cases hwrite with
  | other _ _ _ _ _ hpolicy
  | inline _ _ _ _ hpolicy
  | stored _ _ _ _ _ hpolicy =>
    rw [policy_setPolicy]
    exact hpolicy

theorem ActorWrite.policy_of_ne (hne : otherId ≠ actorId) :
    after.policy account otherId = storage.policy account otherId := by
  cases hwrite with
  | other | inline | stored =>
    rw [policy_setPolicy_of_ne _ _ _ _ _ _ hne]
    exact policy_setActorConfig ..

end

end Writes

/-- A lease that never ends, or ends only after a time. -/
def Outlives (floor expiry : Nat) : Prop := expiry = 0 ∨ floor < expiry

/-- What a locked account keeps from one pair of a storage and a state in memory to a
later one. -/
structure LockKept (account : Address) (now : Nat)
    (before after : AccountConfiguration × AccountState) : Prop where
  lock : before.2.SameLock after.2
  kept : ∀ actorId old,
    before.1.resolveLiveActorConfigWithState account actorId before.2 now = old →
    old.isEmpty = false →
    ∃ expiry, after.1.resolveLiveActorConfigWithState account actorId after.2 now =
        ⟨old.authenticator, expiry, old.scope⟩ ∧
      after.1.policy account actorId = before.1.policy account actorId ∧
      (expiry = old.expiry ∨ Outlives (before.2.unlockFloor now) expiry)
  added : ∀ actorId new,
    (before.1.resolveLiveActorConfigWithState account actorId before.2 now).isEmpty = true →
    after.1.resolveLiveActorConfigWithState account actorId after.2 now = new →
    new.isEmpty = false → Outlives (before.2.unlockFloor now) new.expiry

namespace LockKept

variable {before middle after : AccountConfiguration × AccountState}

/-- Nothing that is read of the actors has changed. -/
theorem of_same (hlock : before.2.SameLock after.2) (hlive : ∀ actorId,
      after.1.resolveLiveActorConfigWithState account actorId after.2 now =
        before.1.resolveLiveActorConfigWithState account actorId before.2 now)
    (hpolicy : ∀ actorId, after.1.policy account actorId = before.1.policy account actorId) :
    LockKept account now before after where
  lock := hlock
  kept actorId old hold _ := ⟨old.expiry, (hlive actorId).trans hold, hpolicy actorId, .inl rfl⟩
  added actorId new hempty hnew hfull := by
    rw [hlive actorId] at hnew
    rw [hnew, hfull] at hempty
    cases hempty

theorem refl : LockKept account now before before := .of_same .refl (fun _ => rfl) fun _ => rfl

theorem trans (hfirst : LockKept account now before middle)
    (hsecond : LockKept account now middle after) :
    LockKept account now before after where
  lock := hfirst.lock.trans hsecond.lock
  kept actorId old hold hfull := by
    obtain ⟨leased, hmiddle, hpolicy, hlease⟩ := hfirst.kept actorId old hold hfull
    obtain ⟨expiry, hafter, hlater, hextended⟩ := hsecond.kept actorId _ hmiddle hfull
    refine ⟨expiry, hafter, hlater.trans hpolicy, ?_⟩
    rw [hfirst.lock.unlockFloor] at hextended
    rcases hextended with rfl | hextended
    · exact hlease
    · exact .inr hextended
  added actorId new hempty hnew hfull := by
    cases hmiddle : (middle.1.resolveLiveActorConfigWithState account actorId middle.2
        now).isEmpty with
    | true =>
      have hadded := hsecond.added actorId new hmiddle hnew hfull
      rwa [hfirst.lock.unlockFloor] at hadded
    | false =>
      have hadded := hfirst.added actorId _ hempty rfl hmiddle
      obtain ⟨expiry, hafter, -, hextended⟩ := hsecond.kept actorId _ rfl hmiddle
      rw [← hnew, hafter]
      rw [hfirst.lock.unlockFloor] at hextended
      rcases hextended with rfl | hextended
      · exact hadded
      · exact hextended

end LockKept

section Steps

variable {primitives : Primitives} {actorId : B256} {context : BatchContext}
  (hrules : enforceLockedAuthorizeRules storage account actorId config policyData state now = .ok ())

include hrules in
theorem enforceLockedAuthorizeRules_eq_ok :
    Outlives (state.unlockFloor now) config.expiry ∧
      ∀ old, storage.resolveLiveActorConfigWithState account actorId state now = old →
        old.isEmpty = false →
        slicePolicy policyData = .ok (storage.policy account actorId) ∧
          config.authenticator = old.authenticator ∧ config.scope = old.scope := by
  obtain ⟨hfloor, hrules⟩ := Checked.ensure_bind_eq_ok.mp hrules
  refine ⟨?_, fun old hold hfull => ?_⟩
  · by_cases hforever : config.expiry = 0
    · exact .inl hforever
    · exact .inr (Nat.lt_of_not_le fun hle => hfloor ⟨hforever, hle⟩)
  · rw [hold, if_neg (ne_true_of_eq_false hfull)] at hrules
    obtain ⟨⟨manager, commitment⟩, hpolicy, hrules⟩ := Checked.bind_eq_ok.mp hrules
    have hsame := Checked.ensure_eq_ok.mp hrules
    simp only [not_or, not_not] at hsame
    obtain ⟨hauth, hscope, rfl, rfl⟩ := hsame
    exact ⟨hpolicy, hauth, hscope⟩

include hrules in
/-- An actor that is written under the rules of a lock is live at once. -/
theorem ActorWrite.lockKept
    (hwrite : ActorWrite storage account actorId config policyData state after next)
    (hexpiry : config.expiry < 2 ^ 48) (hlocked : state.isLocked now = true) :
    LockKept account now (storage, state) (after, next) := by
  obtain ⟨houtlives, hsame⟩ := enforceLockedAuthorizeRules_eq_ok hrules
  have hcurrent : ¬ config.isExpired now = true := by
    intro hlapsed
    obtain ⟨hleased, hpast⟩ := of_decide_eq_true hlapsed
    have hfuture := AccountState.lt_of_unlockFloor_lt hlocked hexpiry
      (houtlives.resolve_left hleased)
    omega
  have hlive : after.resolveLiveActorConfigWithState account actorId next now = config :=
    (hwrite.live hexpiry).trans (if_neg hcurrent)
  refine ⟨hwrite.sameLock, fun otherId old hold hfull => ?_,
    fun otherId new hempty hnew hfull => ?_⟩
  · by_cases hid : otherId = actorId
    · subst hid
      obtain ⟨hpolicy, hauth, hscope⟩ := hsame old hold hfull
      refine ⟨config.expiry, hlive.trans ?_, ?_, .inr houtlives⟩
      · exact ActorConfig.ext hauth rfl hscope
      · exact Except.ok.inj (hwrite.policy.symm.trans hpolicy)
    · exact ⟨old.expiry, (hwrite.live_of_ne hid).trans hold, hwrite.policy_of_ne hid, .inl rfl⟩
  · by_cases hid : otherId = actorId
    · subst hid
      rw [← hnew, hlive]
      exact houtlives
    · rw [← hwrite.live_of_ne hid, hnew, hfull] at hempty
      cases hempty

theorem ChangeEffect.lockKept (heffect : ChangeEffect context storage state after next)
    (hcontext : context.isLocked = true) (hlocked : state.isLocked context.now = true) :
    LockKept context.account context.now (storage, state) (after, next) := by
  cases heffect with
  | skipped => exact .refl
  | authorized _ _ _ hexpiry hrules hwrite =>
    unfold BatchContext.lockedRules at hrules
    rw [if_pos hcontext] at hrules
    exact hwrite.lockKept hrules hexpiry hlocked
  | revoked _ _ hunlocked =>
    rw [hcontext] at hunlocked
    cases hunlocked
  | nextEpoch => exact .of_same ⟨rfl, rfl, rfl⟩ (fun _ => rfl) fun _ => rfl

theorem batch_lockKept {before final : AccountConfiguration × AccountState}
    (hsteps : Relation.ReflTransGen (BatchStep context) before final)
    (hcontext : context.isLocked = true)
    (hlocked : before.2.isLocked context.now = true) :
    LockKept context.account context.now before final := by
  induction hsteps with
  | refl => exact .refl
  | tail _ hstep ih =>
    have hstill := ih.lock.isLocked context.now
    exact ih.trans (ChangeEffect.lockKept hstep hcontext (hstill.trans hlocked))

theorem Admitted.lockKept {batch : SignedAccountChanges} (hadmitted : Admitted batch state next) :
    LockKept account now (storage, state) (storage, next) := by
  cases hadmitted <;> exact .of_same ⟨rfl, rfl, rfl⟩ (fun _ => rfl) fun _ => rfl

/-- The state of an account with its storage, as transactions find it. -/
def AccountConfiguration.flushed (storage : AccountConfiguration) (account : Address) :
    AccountConfiguration × AccountState :=
  (storage, storage.getAccountState account)

theorem lockKept_setAccountState (hfits : next.Fits) : LockKept account now (storage, next)
      ((storage.setAccountState account next).flushed account) := by
  unfold flushed
  rw [getAccountState_setAccountState storage account hfits]
  exact .of_same .refl (fun _ => rfl) fun _ => rfl

theorem SameAccount.lockKept (hsame : SameAccount storage after account) :
    LockKept account now (storage.flushed account) (after.flushed account) := by
  unfold flushed
  rw [hsame.getAccountState]
  refine .of_same .refl (fun actorId => ?_) hsame.policy
  exact resolveLiveActorConfigWithState_congr (hsame.actorConfigSlot actorId) fun _ => rfl

variable {localChainId : Nat} {owner : Address}

theorem EntryStep.lockKept {change : AccountChange}
    (hstep : EntryStep primitives localChainId now owner storage change after)
    (hinit : storage.isInitialized account = true)
    (hlocked : storage.isLocked account now = true) :
    LockKept account now (storage.flushed account) (after.flushed account) := by
  by_cases hne : account = owner
  · subst hne
    cases hstep with
    | create _ hmade => exact absurd hinit (ne_true_of_eq_false hmade.absent)
    | @config advanced next written discount batch resolved hproof hadmin happlied
        hchanges hadmitted hsteps =>
        have hadvanced : LockKept account now (storage.flushed account)
            (storage, advanced) := hadmitted.lockKept
        have hstill := (hadvanced.lock.isLocked now).trans hlocked
        have hbatch := batch_lockKept hsteps hstill hstill
        have hfits := batch_fits hsteps (hadmitted.fits fits_getAccountState)
        exact (hadvanced.trans hbatch).trans (lockKept_setAccountState hfits)
    | delegation => exact .refl
  · exact (hstep.sameAccount hne).lockKept

theorem Entries.lockKept {changes : List AccountChange}
    (hentries : Entries primitives localChainId now owner storage changes after)
    (hinit : storage.isInitialized account = true)
    (hlocked : storage.isLocked account now = true) :
    LockKept account now (storage.flushed account) (after.flushed account) := by
  induction hentries with
  | nil => exact .refl
  | cons hstep _ ih =>
    have hkept := hstep.lockKept hinit hlocked
    have hlater := (hstep.advances account).isInitialized hinit
    exact hkept.trans (ih hlater ((hkept.lock.isLocked now).trans hlocked))

end Steps

/-- While an account is locked, an accepted transaction takes no actor away and changes
none but for its lease, adds no actor that lapses before the unlock, brings no delegation
into effect and leaves the lock as it is. -/
theorem locked_account_kept {primitives : Primitives} {signed : Eip8130Signed}
    {storage after : AccountConfiguration} {localChainId now : Nat}
    {result : AppliedTransaction} {account : Address}
    (hinitialized : storage.isInitialized account = true)
    (hlocked : storage.isLocked account now = true)
    (hauthorize : authorizeAndApply primitives signed storage localChainId now =
      .ok (result, after)) :
    (∀ actorId old new,
      storage.resolveLiveActorConfigWithState account actorId
        (storage.getAccountState account) now = old →
      after.resolveLiveActorConfigWithState account actorId
        (after.getAccountState account) now = new →
      old.isEmpty = false →
      new.isEmpty = false ∧ new.authenticator = old.authenticator ∧
        new.scope = old.scope ∧
        after.policyManager account actorId = storage.policyManager account actorId ∧
        after.policyCommitment account actorId =
          storage.policyCommitment account actorId ∧
        (new.expiry = old.expiry ∨ new.expiry = 0 ∨
          (storage.getAccountState account).unlockFloor now < new.expiry)) ∧
    (∀ actorId new,
      (storage.resolveLiveActorConfigWithState account actorId
        (storage.getAccountState account) now).isEmpty = true →
      after.resolveLiveActorConfigWithState account actorId
        (after.getAccountState account) now = new →
      new.isEmpty = false →
      new.expiry = 0 ∨ (storage.getAccountState account).unlockFloor now < new.expiry) ∧
    (senderAccount primitives signed = .ok account → result.applied.delegation = none) ∧
    (after.getAccountState account).flags &&& flagLocked =
      (storage.getAccountState account).flags &&& flagLocked ∧
    (after.getAccountState account).flags &&& flagUnlockInitiated =
      (storage.getAccountState account).flags &&& flagUnlockInitiated ∧
    (after.getAccountState account).lockUnion =
      (storage.getAccountState account).lockUnion := by
  obtain ⟨sender, haccepted⟩ := authorizeAndApply_eq_ok hauthorize
  have hkept := haccepted.entries.lockKept hinitialized hlocked
  refine ⟨fun actorId old new hold hnew hfull => ?_, hkept.added, fun hsender => ?_,
    hkept.lock.locked, hkept.lock.initiated, hkept.lock.lockUnion⟩
  · obtain ⟨expiry, hafter, hpolicy, hextended⟩ := hkept.kept actorId old hold hfull
    cases hnew.symm.trans hafter
    exact ⟨hfull, rfl, rfl, congrArg Prod.fst hpolicy, congrArg Prod.snd hpolicy, hextended⟩
  · cases hsender.symm.trans haccepted.sender
    have hstill := (hkept.lock.isLocked now).trans hlocked
    cases hdelegation : result.applied.delegation with
    | none => rfl
    | some =>
      have hunlocked := haccepted.unlocked (hdelegation ▸ rfl)
      exact absurd hunlocked (ne_false_of_eq_true hstill)

section LockedOwner

/-- An account that is locked, with an hour between the call for its unlock and the
unlock. -/
def lockedStorage : AccountConfiguration :=
  AccountConfiguration.empty.setAccountState (addressOf 0xA1)
    { AccountState.zero with localSequence := 1, flags := flagLocked, lockUnion := 3600 }

/-- It leases its own key until a day later and adds another key for good. -/
def lockedRequest : TxRequest :=
  let account := addressOf 0xA1
  ownRequest account [ownBatch account .localChain 1
    [authorizeChange (selfActorId account) ⟨k1Authenticator, 86400, 0⟩,
      authorizeChange (padded 32 [1]) ⟨p256Authenticator, 0, 0⟩]]

theorem locked_account_kept_leased :
    ∃ result after,
      lockedStorage.isInitialized (addressOf 0xA1) = true ∧
      lockedStorage.isLocked (addressOf 0xA1) lockedRequest.now = true ∧
      authorizeAndApply transparentPrimitives lockedRequest.signed lockedStorage
        lockedRequest.localChainId lockedRequest.now = .ok (result, after) ∧
      after.actorConfigSlot (addressOf 0xA1) (padded 32 [1]) =
        ⟨p256Authenticator, 0, 0⟩ ∧
      (after.getAccountState (addressOf 0xA1)).lockUnion = 3600 := by
  have hrun : (match authorizeAndApply transparentPrimitives lockedRequest.signed
      lockedStorage lockedRequest.localChainId lockedRequest.now with
      | .ok (_, after) => decide (after.actorConfigSlot (addressOf 0xA1) (padded 32 [1]) =
          ⟨p256Authenticator, 0, 0⟩)
      | .error _ => false) = true := by decide +kernel
  have hinitialized : lockedStorage.isInitialized (addressOf 0xA1) = true := by
    decide +kernel
  have hlocked : lockedStorage.isLocked (addressOf 0xA1) lockedRequest.now = true := by
    decide +kernel
  split at hrun
  · rename_i result after hauthorize
    have hkept := locked_account_kept hinitialized hlocked hauthorize
    exact ⟨result, after, hinitialized, hlocked, hauthorize, of_decide_eq_true hrun,
      hkept.2.2.2.2.2.trans (by decide +kernel)⟩
  · cases hrun

end LockedOwner

end Eip8130

end BaseChain
