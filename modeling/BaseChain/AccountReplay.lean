/-
The counters of an account along every run of accepted transactions: no counter goes
back, so that what a batch has consumed is never accepted again.
-/
import BaseChain.AccountRuns

namespace BaseChain

open Eip8130.AppliedEntry

namespace Eip8130

namespace AccountState

def counters (state : AccountState) : Nat × Nat × Nat :=
  (state.multichainSequence, state.localEpoch, state.localSequence)

/-- No counter goes back; the local word is compared by its epoch first. -/
structure Advances (before after : AccountState) : Prop where
  word : before.localEpoch < after.localEpoch ∨
    before.localEpoch = after.localEpoch ∧ before.localSequence ≤ after.localSequence
  multichain : before.multichainSequence ≤ after.multichainSequence

namespace Advances

variable {before middle after : AccountState}

theorem refl : Advances before before := ⟨.inr ⟨rfl, le_rfl⟩, le_rfl⟩

theorem trans (hfirst : Advances before middle) (hsecond : Advances middle after) :
    Advances before after where
  word := by
    have hearlier := hfirst.word
    have hlater := hsecond.word
    omega
  multichain := hfirst.multichain.trans hsecond.multichain

theorem of_counters (hcounters : after.counters = before.counters) : Advances before after := by
  simp only [counters, Prod.mk.injEq] at hcounters
  obtain ⟨hmultichain, hepoch, hsequence⟩ := hcounters
  exact ⟨.inr ⟨hepoch.symm, hsequence.ge⟩, hmultichain.ge⟩

theorem isInitialized (hmoves : Advances before after)
    (hinit : before.isInitialized = true) : after.isInitialized = true := by
  have hword := hmoves.word
  have hmultichain := hmoves.multichain
  simp only [AccountState.isInitialized, decide_eq_true_eq] at hinit ⊢
  omega

end Advances

theorem Fits.disableInlineSelf {state : AccountState} (hfits : state.Fits) :
    state.disableInlineSelf.Fits :=
  ⟨hfits.multichainSequence, hfits.localSequence, hfits.localEpoch, hfits.lockUnion,
    Nat.two_pow_pos 48⟩

end AccountState

variable {storage after : AccountConfiguration} {account : Address} {batch : SignedAccountChanges}

section Effects

variable {actorId : B256} {config : ActorConfig} {policyData : Bytes} {state next : AccountState}
  {context : BatchContext}

section

variable (hwrite : ActorWrite storage account actorId config policyData state after next)
include hwrite

theorem ActorWrite.counters : next.counters = state.counters := by
  cases hwrite <;> rfl

theorem ActorWrite.fits (hexpiry : config.expiry < 2 ^ 48) (hfits : state.Fits) : next.Fits := by
  cases hwrite with
  | other => exact hfits
  | inline =>
    exact ⟨hfits.multichainSequence, hfits.localSequence, hfits.localEpoch,
      hfits.lockUnion, hexpiry⟩
  | stored => exact hfits.disableInlineSelf

end

variable {emptySlots : Nat}
  (hrevoke : Revocation storage account actorId state emptySlots after next)

include hrevoke in
theorem Revocation.counters : next.counters = state.counters := by
  cases hrevoke with
  | stored => split <;> rfl
  | absent hempty habsent | inline emptySlots hempty hself hlive => rfl

include hrevoke in
theorem Revocation.fits (hfits : state.Fits) : next.Fits := by
  cases hrevoke with
  | stored =>
    split
    · exact hfits.disableInlineSelf
    · exact hfits
  | absent => exact hfits
  | inline => exact hfits.disableInlineSelf

theorem ChangeEffect.advances (heffect : ChangeEffect context storage state after next) :
    state.Advances next := by
  cases heffect with
  | skipped => exact .refl
  | authorized _ _ _ _ _ hwrite =>
    exact .of_counters hwrite.counters
  | revoked _ _ _ hrevoke => exact .of_counters hrevoke.counters
  | nextEpoch => exact ⟨.inl (Nat.lt_succ_self _), le_rfl⟩

theorem ChangeEffect.fits (heffect : ChangeEffect context storage state after next)
    (hfits : state.Fits) : next.Fits := by
  cases heffect with
  | skipped => exact hfits
  | authorized _ _ _ hexpiry _ hwrite => exact hwrite.fits hexpiry hfits
  | revoked _ _ _ hrevoke => exact hrevoke.fits hfits
  | nextEpoch =>
    have hepoch := hfits.localEpoch
    exact ⟨hfits.multichainSequence, Nat.two_pow_pos 32, by dsimp only; omega,
      hfits.lockUnion, hfits.defaultEoaExpiry⟩

variable {before final : AccountConfiguration × AccountState}
  (hsteps : Relation.ReflTransGen (BatchStep context) before final)

include hsteps in
theorem batch_advances : before.2.Advances final.2 := by
  induction hsteps with
  | refl => exact .refl
  | tail _ hstep ih => exact ih.trans (ChangeEffect.advances hstep)

include hsteps in
theorem batch_fits (hfits : before.2.Fits) : final.2.Fits := by
  induction hsteps with
  | refl => exact hfits
  | tail _ hstep ih => exact ChangeEffect.fits hstep ih

section

variable (hadmitted : Admitted batch state next)
include hadmitted

theorem Admitted.advances : state.Advances next := by
  cases hadmitted with
  | sequenced => exact ⟨.inr ⟨rfl, Nat.le_succ _⟩, le_rfl⟩
  | first _ _ _ hnew =>
    simp only [AccountState.isInitialized, decide_eq_false_iff_not] at hnew
    exact ⟨.inr ⟨rfl, by omega⟩, le_rfl⟩
  | unsequenced => exact .refl
  | multichain => exact ⟨.inr ⟨rfl, le_rfl⟩, Nat.le_succ _⟩

theorem Admitted.fits (hfits : state.Fits) : next.Fits := by
  cases hadmitted with
  | sequenced _ _ hcurrent hroom =>
    unfold Eip8130.unsequenced at hroom
    exact ⟨hfits.multichainSequence, by dsimp only; omega, hfits.localEpoch,
      hfits.lockUnion, hfits.defaultEoaExpiry⟩
  | first =>
    exact ⟨hfits.multichainSequence, Nat.one_lt_two_pow (by decide), hfits.localEpoch,
      hfits.lockUnion, hfits.defaultEoaExpiry⟩
  | unsequenced => exact hfits
  | multichain =>
    exact ⟨by dsimp only; omega, hfits.localSequence, hfits.localEpoch,
      hfits.lockUnion, hfits.defaultEoaExpiry⟩

/-- An accepted batch leaves its account initialized. -/
theorem Admitted.isInitialized : next.isInitialized = true := by
  cases hadmitted with
  | sequenced => exact decide_eq_true (.inl (Nat.succ_pos _))
  | first => exact decide_eq_true (.inl Nat.one_pos)
  | unsequenced _ _ _ hold => exact hold
  | multichain => exact decide_eq_true (.inr (.inr (Nat.succ_pos _)))

end

end Effects

variable {primitives : Primitives} {localChainId now : Nat} {change : AccountChange}

section Entries

theorem fits_getAccountState : (storage.getAccountState account).Fits :=
  AccountState.fits_fromWord _

theorem InitialStep.counters (hstep : InitialStep account storage after) :
    (after.getAccountState account).counters = (storage.getAccountState account).counters := by
  cases hstep with
  | own _ _ _ hexpiry _ hwrite =>
    have hfits := hwrite.fits (hexpiry.trans_lt (Nat.two_pow_pos 48)) fits_getAccountState
    rw [getAccountState_setAccountState _ _ hfits]
    exact hwrite.counters
  | other actorId config policyData manager commitment hexpiry hid hother hauth hpolicy => rfl

theorem initial_counters (hsteps : Relation.ReflTransGen (InitialStep account) storage after) :
    (after.getAccountState account).counters = (storage.getAccountState account).counters := by
  induction hsteps with
  | refl => rfl
  | tail _ hstep ih => exact hstep.counters.trans ih

theorem AccountState.Fits.created {state : AccountState} (hfits : state.Fits) :
    state.created.Fits :=
  ⟨hfits.multichainSequence, Nat.one_lt_two_pow (by decide), hfits.localEpoch,
    hfits.lockUnion, hfits.defaultEoaExpiry⟩

/-- A new account starts with the counters that were packed for it. -/
theorem Creation.counters {entry : CreateEntry}
    (hmade : Creation primitives entry account storage after) :
    (after.getAccountState account).counters =
      (storage.getAccountState account).created.counters := by
  have hcounters := initial_counters hmade.steps
  rwa [getAccountState_setAccountState _ _ fits_getAccountState.created] at hcounters

/-- No account change takes a counter of any account back. -/
theorem EntryStep.advances
    (hstep : EntryStep primitives localChainId now account storage change after)
    (other : Address) :
    (storage.getAccountState other).Advances (after.getAccountState other) := by
  by_cases hother : other = account
  · subst hother
    cases hstep with
    | create _ hmade =>
      have hnew := hmade.absent
      simp only [AccountState.isInitialized, decide_eq_false_iff_not] at hnew
      have hcreated : (storage.getAccountState other).Advances
          (storage.getAccountState other).created := ⟨.inr ⟨rfl, by omega⟩, le_rfl⟩
      exact hcreated.trans (.of_counters hmade.counters)
    | config _ _ _ _ _ _ hadmitted hsteps =>
      have hfits := batch_fits hsteps (hadmitted.fits fits_getAccountState)
      rw [getAccountState_setAccountState _ _ hfits]
      exact hadmitted.advances.trans (batch_advances hsteps)
    | delegation => exact .refl
  · rw [(hstep.sameAccount hother).getAccountState]
    exact .refl

end Entries

/-- What an accepted batch uses up: a multichain sequence or a local word. -/
inductive ReplayKey where
  | multichain (account : Address) (sequence : Nat)
  | word (account : Address) (epoch sequence : Nat)
deriving DecidableEq

variable {key : ReplayKey}

namespace ReplayKey

def IsCurrent (storage : AccountConfiguration) : ReplayKey → Prop
  | .multichain account sequence =>
    sequence = (storage.getAccountState account).multichainSequence
  | .word account epoch sequence =>
    epoch = (storage.getAccountState account).localEpoch ∧
      sequence = (storage.getAccountState account).localSequence

/-- The counters have gone past it. -/
def IsSpent (storage : AccountConfiguration) : ReplayKey → Prop
  | .multichain account sequence =>
    sequence < (storage.getAccountState account).multichainSequence
  | .word account epoch sequence =>
    epoch < (storage.getAccountState account).localEpoch ∨
      epoch = (storage.getAccountState account).localEpoch ∧
        sequence < (storage.getAccountState account).localSequence

theorem IsSpent.not_current (hspent : key.IsSpent storage) : ¬ key.IsCurrent storage := by
  cases key with
  | multichain => exact ne_of_lt hspent
  | word =>
    rintro ⟨hepoch, hsequence⟩
    rcases hspent with hlt | ⟨-, hlt⟩
    · exact ne_of_lt hlt hepoch
    · exact ne_of_lt hlt hsequence

theorem IsSpent.of_advances (hspent : key.IsSpent storage) (hmoves : ∀ account,
      (storage.getAccountState account).Advances (after.getAccountState account)) :
    key.IsSpent after := by
  cases key with
  | multichain account => exact lt_of_lt_of_le hspent (hmoves account).multichain
  | word account =>
    have hword := (hmoves account).word
    rcases hspent with hlt | ⟨hepoch, hlt⟩
    · exact .inl (by omega)
    · rcases hword with hnext | ⟨hsame, hle⟩
      · exact .inl (by omega)
      · exact .inr ⟨hepoch.trans hsame, lt_of_lt_of_le hlt hle⟩

end ReplayKey

/-- A batch that is not sequenced uses nothing up. -/
def SignedAccountChanges.replayKey (batch : SignedAccountChanges) (account : Address) :
    Option ReplayKey :=
  match batch.channel with
  | .multichain => some (.multichain account batch.sequence.toNat)
  | .localChain =>
    if batch.localSequence = unsequenced then none
    else some (.word account batch.epoch batch.localSequence)

def AppliedEntry.replayKey (entry : AppliedEntry) : Option ReplayKey := match entry.change with
  | .configChange batch => batch.replayKey entry.account
  | .create _ | .delegation _ => none

/-- What one accepted account change does to the counters, and that what is packed of
them is read back. -/
structure AppliedEntry.Counts (primitives : Primitives) (entry : AppliedEntry) : Prop where
  advances : ∀ account, (entry.before.getAccountState account).Advances
    (entry.after.getAccountState account)
  batch : ∀ batch, entry.change = .configChange batch → ∃ discount written next,
      applyConfigChangeWithAccountState primitives entry.before entry.account batch
        (entry.before.getAccountState entry.account) entry.now = .ok (discount, written, next) ∧
      entry.after = written.setAccountState entry.account next ∧ next.Fits ∧
      entry.after.getAccountState entry.account = next
  created : ∀ creation, entry.change = .create creation →
    (entry.before.getAccountState entry.account).created.Fits ∧
      (entry.after.getAccountState entry.account).counters =
        (entry.before.getAccountState entry.account).created.counters
  initialized : (∀ target, entry.change ≠ .delegation target) →
    (entry.after.getAccountState entry.account).isInitialized = true

/-- What an accepted account change leaves for every later one. -/
structure AppliedEntry.Precedes (earlier later : AppliedEntry) : Prop where
  advances : ∀ account, (earlier.after.getAccountState account).Advances
    (later.before.getAccountState account)
  epoch : ∀ batch, later.change = .configChange batch → batch.channel = .localChain →
    (earlier.after.getAccountState later.account).localEpoch ≤ batch.epoch
  initialized : ∀ account, (earlier.after.getAccountState account).isInitialized = true →
    (later.after.getAccountState account).isInitialized = true
  created : ∀ creation, later.change = .create creation →
    (earlier.after.getAccountState later.account).isInitialized = false

section Keys

variable {next : AccountState} {entries : List AppliedEntry} {entry : AppliedEntry}

section

variable (hadmitted : Admitted batch (storage.getAccountState account) next)
include hadmitted

theorem Admitted.replayKey (hkey : batch.replayKey account = some key)
    (hafter : next.Advances (after.getAccountState account)) :
    key.IsCurrent storage ∧ key.IsSpent after := by
  have hword := hafter.word
  unfold SignedAccountChanges.replayKey at hkey
  cases hadmitted with
  | sequenced hchan hepoch hcurrent hroom =>
    have hsequenced : batch.localSequence ≠ Eip8130.unsequenced := by
      omega
    rw [hchan] at hkey
    dsimp only at hkey hword
    rw [if_neg hsequenced] at hkey
    cases hkey
    refine ⟨⟨hepoch, hcurrent⟩, ?_⟩
    unfold ReplayKey.IsSpent
    omega
  | first hchan hepoch hfree hnew | unsequenced hchan hepoch hfree hold =>
    rw [hchan] at hkey
    rw [if_pos hfree] at hkey
    cases hkey
  | multichain hchan hcurrent =>
    have hmultichain := hafter.multichain
    rw [hchan] at hkey
    cases hkey
    refine ⟨hcurrent, ?_⟩
    unfold ReplayKey.IsSpent
    dsimp only at hmultichain ⊢
    omega

theorem Admitted.epoch (hlocal : batch.channel = .localChain) :
    batch.epoch = (storage.getAccountState account).localEpoch := by
  cases hadmitted with
  | sequenced hchan hepoch hcurrent hroom | first hchan hepoch hfree hnew
  | unsequenced _ hepoch => exact hepoch
  | multichain hchan => exact nomatch hlocal.symm.trans hchan

end

section

variable (hstep : EntryStep primitives localChainId now account storage change after)
include hstep

theorem EntryStep.replayKey
    (hchange : change = .configChange batch) (hkey : batch.replayKey account = some key) :
    key.IsCurrent storage ∧ key.IsSpent after := by
  cases hstep with
  | create => cases hchange
  | config _ _ _ _ _ _ hadmitted hsteps =>
    cases hchange
    have hfits := batch_fits hsteps (hadmitted.fits fits_getAccountState)
    apply hadmitted.replayKey hkey
    rw [getAccountState_setAccountState _ _ hfits]
    exact batch_advances hsteps
  | delegation => cases hchange

theorem EntryStep.epoch
    (hchange : change = .configChange batch) (hlocal : batch.channel = .localChain) :
    batch.epoch = (storage.getAccountState account).localEpoch := by
  cases hstep with
  | create => cases hchange
  | config _ _ _ _ _ _ hadmitted =>
    cases hchange
    exact hadmitted.epoch hlocal
  | delegation => cases hchange

theorem EntryStep.absent {creation : CreateEntry} (hchange : change = .create creation) :
    (storage.getAccountState account).isInitialized = false := by
  cases hstep with
  | create _ hmade => exact hmade.absent
  | config | delegation => cases hchange

theorem EntryStep.counts :
    AppliedEntry.Counts primitives ⟨localChainId, now, account, change, storage, after⟩ := by
  have hmoves := hstep.advances
  cases hstep with
  | create _ hmade =>
    have hinit : (storage.getAccountState account).created.isInitialized = true :=
      decide_eq_true (.inl Nat.one_pos)
    refine ⟨hmoves, fun _ hchange => (nomatch hchange), fun _ _ =>
      ⟨fits_getAccountState.created, hmade.counters⟩, fun _ => ?_⟩
    exact (AccountState.Advances.of_counters hmade.counters).isInitialized hinit
  | config _ _ _ _ happlied _ hadmitted hsteps =>
    have hfits := batch_fits hsteps (hadmitted.fits fits_getAccountState)
    refine ⟨hmoves, fun _ hchange => ?_, fun _ hchange => (nomatch hchange), fun _ => ?_⟩
    · cases hchange
      exact ⟨_, _, _, happlied, rfl, hfits, getAccountState_setAccountState _ _ hfits⟩
    · rw [getAccountState_setAccountState _ _ hfits]
      exact (batch_advances hsteps).isInitialized hadmitted.isInitialized
  | delegation target =>
    exact ⟨hmoves, fun _ hchange => (nomatch hchange),
      fun _ hchange => (nomatch hchange), fun hchange => absurd rfl (hchange target)⟩

end

variable (hrun : Run primitives storage entries after)

include hrun in
/-- Everything later starts from counters that are at least as far. -/
theorem Run.advances : ∀ entry ∈ entries, ∀ account, (storage.getAccountState account).Advances
      (entry.before.getAccountState account) := by
  apply Run.before (motive := fun later => ∀ account,
    (storage.getAccountState account).Advances (later.getAccountState account)) _ hrun
  · exact fun account => .refl
  · intro localChainId now account middle change after hstep hmoves other
    exact (hmoves other).trans (hstep.advances other)

theorem EntryStep.precedes {earlier later : AppliedEntry}
    (hstep : EntryStep primitives later.localChainId later.now later.account
      later.before later.change later.after)
    (hmoves : ∀ account, (earlier.after.getAccountState account).Advances
      (later.before.getAccountState account)) : earlier.Precedes later where
  advances := hmoves
  epoch batch hchange hlocal := by
    have hword := (hmoves later.account).word
    rw [hstep.epoch hchange hlocal]
    omega
  initialized account hinit := ((hmoves account).trans (hstep.advances account)).isInitialized hinit
  created creation hchange := by
    have habsent := hstep.absent hchange
    by_contra hinit
    rw [(hmoves later.account).isInitialized (Bool.eq_true_of_not_eq_false hinit)] at habsent
    cases habsent

include hrun in
theorem Run.precedes : entries.Pairwise AppliedEntry.Precedes := by
  induction hrun with
  | nil => exact .nil
  | cons _ hrest ih =>
    refine .cons (fun later hlater => ?_) ih
    exact (hrest.step later hlater).precedes (hrest.advances later hlater)

theorem AppliedEntry.replayKey_eq_some (hkey : entry.replayKey = some key) :
    ∃ batch, entry.change = .configChange batch ∧ batch.replayKey entry.account = some key := by
  unfold replayKey at hkey
  split at hkey
  · rename_i batch hchange
    exact ⟨batch, hchange, hkey⟩
  · cases hkey
  · cases hkey

include hrun in
/-- A key is current where it is used up and spent ever after. -/
theorem Run.replayKeys_nodup : (entries.filterMap replayKey).Nodup := by
  unfold List.Nodup
  rw [List.pairwise_filterMap]
  refine hrun.precedes.imp_of_mem ?_
  rintro earlier later hearlier hlater hprecedes key hkey _ hagain rfl
  obtain ⟨batch, hchange, hkey⟩ := replayKey_eq_some hkey
  obtain ⟨replay, hreplay, hagain⟩ := replayKey_eq_some hagain
  have hspent := ((hrun.step earlier hearlier).replayKey hchange hkey).2
  have hcurrent := ((hrun.step later hlater).replayKey hreplay hagain).1
  exact (hspent.of_advances hprecedes.advances).not_current hcurrent

end Keys

/-- Over every sequence of accepted transactions from empty storage, nothing that a batch
has used up is accepted again, no counter goes back, a batch for an earlier epoch is
never accepted, and an account is created at most once. -/
theorem account_changes_not_replayed {primitives : Primitives}
    {requests : List TxRequest} {storage : AccountConfiguration}
    (haccepted : Accepted primitives .empty requests storage) :
    ((history primitives requests .empty).filterMap AppliedEntry.replayKey).Nodup ∧
      (history primitives requests .empty).Pairwise AppliedEntry.Precedes ∧
      (∀ entry ∈ history primitives requests .empty, entry.Counts primitives) ∧
      ∀ account, (storage.getAccountState account).Fits := by
  have hrun := haccepted.run
  refine ⟨hrun.replayKeys_nodup, hrun.precedes, fun entry hentry => ?_, fun account => ?_⟩
  · exact (hrun.step entry hentry).counts
  · exact fits_getAccountState

/-- Two transactions of one account: a sequenced batch, then a multichain one and one that
starts a new epoch. -/
def epochRequests : List TxRequest :=
  let account := addressOf 0xA1
  [ownRequest account [ownBatch account .localChain 0
      [authorizeChange (padded 32 [7]) ⟨p256Authenticator, 0, scopeOperator⟩]],
    ownRequest account [ownBatch account .multichain 0 [⟨.revokeActor, [7]⟩],
      ownBatch account .localChain 1 [⟨.incrementLocalEpoch, []⟩]]]

theorem account_changes_not_replayed_epoch :
    (history transparentPrimitives epochRequests .empty).filterMap
        AppliedEntry.replayKey =
      [.word (addressOf 0xA1) 0 0, .multichain (addressOf 0xA1) 0,
        .word (addressOf 0xA1) 0 1] ∧
      Accepted transparentPrimitives .empty epochRequests
        (finalStorage transparentPrimitives epochRequests .empty) ∧
      (history transparentPrimitives epochRequests .empty).Pairwise
        AppliedEntry.Precedes := by
  have haccepted : Accepted transparentPrimitives .empty epochRequests _ :=
    accepted_of_accepts (by decide +kernel)
  exact ⟨by decide +kernel, haccepted, (account_changes_not_replayed haccepted).2.1⟩

end Eip8130

end BaseChain
