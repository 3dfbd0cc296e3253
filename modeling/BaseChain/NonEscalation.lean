/-
Keys that are not unrestricted actors of a set of accounts, directly or through a
delegate, change nothing of these accounts, whatever else they sign.
-/
import BaseChain.AccountRuns
import BaseChain.ActorAuthentication

namespace BaseChain

open Checked List

namespace Eip8130

/-- A key is known by the authenticator that verifies it and the id it has there. -/
structure SigningKey where
  authenticator : Address
  actorId : B256
deriving DecidableEq

/-- A signature verifies for a key only if that key made it. -/
def Unforgeable (primitives : Primitives) (made : SigningKey → B256 → Bytes → Prop) :
    Prop :=
  ∀ hash authenticator data actorId, dispatchAuthenticate primitives hash authenticator data =
      .ok (.authenticated actorId) → made ⟨authenticator, actorId⟩ hash data

/-- The signature in a blob, which for a delegate is the one of the nested blob. -/
def signaturePart (auth : Bytes) : Bytes :=
  if addressPrefix auth = delegateAuthenticator then ((auth.drop 20).drop 20).drop 20
  else auth.drop 20

/-- A sender that is not named signs without naming an authenticator. -/
def Eip8130Signed.senderSignature (signed : Eip8130Signed) : Bytes :=
  if signed.tx.sender.isSome then signaturePart signed.senderAuth else signed.senderAuth

/-- None of the keys is an unrestricted actor of one of the accounts, and their
unrestricted delegates are among the accounts themselves. -/
structure Guarded (keys : Set SigningKey) (accounts : Set Address)
    (storage : AccountConfiguration) : Prop where
  stored : ∀ account ∈ accounts, ∀ actorId,
    (storage.actorConfigSlot account actorId).isEmpty = false →
    (storage.actorConfigSlot account actorId).scope = 0 →
    ⟨(storage.actorConfigSlot account actorId).authenticator, actorId⟩ ∉ keys
  inline : ∀ account ∈ accounts, (storage.getAccountState account).defaultEoaRevoked = false →
    (storage.getAccountState account).defaultEoaScope = 0 →
    ⟨k1Authenticator, selfActorId account⟩ ∉ keys
  delegates : ∀ account ∈ accounts, ∀ delegateAccount,
    (storage.actorConfigSlot account (selfActorId delegateAccount)).authenticator =
      delegateAuthenticator →
    (storage.actorConfigSlot account (selfActorId delegateAccount)).scope = 0 →
    delegateAccount ∈ accounts

/-- A transaction that only the keys have signed and that creates none of the
accounts. -/
structure TxRequest.SignedWithin (primitives : Primitives)
    (made : SigningKey → B256 → Bytes → Prop) (keys : Set SigningKey)
    (accounts : Set Address) (request : TxRequest) : Prop where
  sender : ∀ key, made key (primitives.senderSignatureHash request.signed.tx)
    request.signed.senderSignature → key ∈ keys
  batches : ∀ account batch, senderAccount primitives request.signed = .ok account →
    .configChange batch ∈ request.signed.tx.accountChanges →
    ∀ key, made key (changesDigest primitives account request.localChainId batch)
      (signaturePart batch.signature) → key ∈ keys
  creations : ∀ entry address, .create entry ∈ request.signed.tx.accountChanges →
    computeAddress primitives entry.userSalt entry.code entry.initialActors =
      .ok address → address ∉ accounts

variable {primitives : Primitives} {made : SigningKey → B256 → Bytes → Prop} {keys : Set SigningKey}
  {accounts : Set Address} {now : Nat}

section Guarded

variable {storage after : AccountConfiguration} {account authenticator : Address} {hash : B256}
  {data auth : Bytes} {resolved : ResolvedActor}

theorem Guarded.of_sameAccount (hguarded : Guarded keys accounts storage)
    (hsame : ∀ owner ∈ accounts, SameAccount storage after owner) :
    Guarded keys accounts after where
  stored owner howner actorId := by
    rw [(hsame owner howner).actorConfigSlot]
    exact hguarded.stored owner howner actorId
  inline owner howner := by
    rw [(hsame owner howner).getAccountState]
    exact hguarded.inline owner howner
  delegates owner howner delegateAccount := by
    rw [(hsame owner howner).actorConfigSlot]
    exact hguarded.delegates owner howner delegateAccount

/-- A key that authenticates for one of the accounts itself is not unrestricted. -/
theorem Authenticated.not_admin_direct (hsound : Unforgeable primitives made)
    (hguarded : Guarded keys accounts storage) (haccount : account ∈ accounts)
    (hproven : Authenticated primitives storage hash now account authenticator data
      (storage.getAccountState account) resolved)
    (hdirect : authenticator ≠ delegateAuthenticator)
    (hmade : ∀ key, made key hash data → key ∈ keys) : resolved.scope ≠ 0 := by
  intro hadmin
  cases hproven with
  | own _ hrecovered hself hlive =>
    have hkey := hmade _ (hsound _ _ _ _ (dispatch_k1 hrecovered))
    rw [hself] at hkey
    exact hguarded.inline account haccount hlive hadmin hkey
  | bound actorId hcall _ hbound =>
    have hkey := hmade _ (hsound _ _ _ _ hcall)
    obtain ⟨-, rfl, -, rfl⟩ := hbound
    exact hguarded.stored account haccount actorId
      (decide_eq_false (isVerifier_of_dispatch hcall).ne_default) hadmin hkey
  | delegated => exact hdirect rfl

/-- Nor is a delegate for which such a key signs. -/
theorem Guarded.not_admin (hguarded : Guarded keys accounts storage)
    (hsound : Unforgeable primitives made) (haccount : account ∈ accounts)
    (hproven : Authenticated primitives storage hash now account
      (addressPrefix auth) (auth.drop 20) (storage.getAccountState account) resolved)
    (hmade : ∀ key, made key hash (signaturePart auth) → key ∈ keys) :
    resolved.scope ≠ 0 := by
  unfold signaturePart at hmade
  by_cases hdelegate : addressPrefix auth = delegateAuthenticator
  · rw [if_pos hdelegate] at hmade
    rw [hdelegate] at hproven
    cases hproven with
    | bound _ hcall => exact absurd rfl (isVerifier_of_dispatch hcall).ne_delegate
    | delegated _ hsingle hnested hadmin hbound =>
      intro hscope
      obtain ⟨-, hauth, -, rfl⟩ := hbound
      have hmember := hguarded.delegates account haccount _ hauth hscope
      exact hnested.not_admin_direct hsound hguarded hmember hsingle hmade hadmin
  · rw [if_neg hdelegate] at hmade
    exact hproven.not_admin_direct hsound hguarded haccount hdelegate hmade

end Guarded

section Transactions

variable {storage middle after : AccountConfiguration} {account : Address} {request : TxRequest}

theorem recoverK1_of_raw {hash : B256} {raw : Bytes} {recovered : Address}
    (hraw : recoverRawK1 primitives hash raw = some recovered) :
    recoverK1 primitives hash raw = .ok recovered := by
  unfold recoverK1
  by_cases hlength : raw.length ≠ 65
  · unfold recoverRawK1 at hraw
    rw [if_pos (.inl hlength)] at hraw
    cases hraw
  · rw [if_neg hlength, hraw]

theorem senderAccount_recovered {signed : Eip8130Signed} (hunnamed : signed.tx.sender = none)
    (hsender : senderAccount primitives signed = .ok account) :
    recoverK1 primitives (primitives.senderSignatureHash signed.tx) signed.senderAuth =
      .ok account := by
  unfold senderAccount recoverEoaSender at hsender
  rw [hunnamed] at hsender
  cases hraw : recoverRawK1 primitives (primitives.senderSignatureHash signed.tx)
    signed.senderAuth with
  | none =>
    rw [hraw] at hsender
    cases hsender
  | some =>
    rw [hraw] at hsender
    cases hsender
    exact recoverK1_of_raw hraw

section Signed

variable (hsound : Unforgeable primitives made) (hguarded : Guarded keys accounts storage)
  (hsigned : request.SignedWithin primitives made keys accounts)
  (hsender : senderAccount primitives request.signed = .ok account)
include hsound hguarded hsigned hsender

/-- One account change that the keys have signed leaves the accounts alone. -/
theorem EntryStep.keeps {change : AccountChange}
    (hstep : EntryStep primitives request.localChainId now account storage change after)
    (hchange : change ∈ request.signed.tx.accountChanges) :
    ∀ owner ∈ accounts, SameAccount storage after owner := by
  intro owner howner
  by_cases hother : owner = account
  · subst hother
    cases hstep with
    | create entry hmade =>
      exact absurd howner (hsigned.creations entry owner hchange hmade.address)
    | config batch _ hproof hadmin =>
      have hproven := (authenticateActorWithAccountState_eq_ok.mp hproof).2
      exact absurd hadmin (hguarded.not_admin hsound howner hproven
        (hsigned.batches owner batch hsender hchange))
    | delegation => exact .refl
  · exact hstep.sameAccount hother

theorem Entries.keeps {changes : List AccountChange}
    (hentries : Entries primitives request.localChainId now account storage changes after)
    (hchanges : ∀ change ∈ changes, change ∈ request.signed.tx.accountChanges) :
    ∀ owner ∈ accounts, SameAccount storage after owner := by
  induction hentries with
  | nil => exact fun owner _ => .refl
  | cons hstep _ ih =>
    have hfirst := hstep.keeps hsound hguarded hsigned hsender (hchanges _ mem_cons_self)
    have hlater := ih (hguarded.of_sameAccount hfirst)
      fun change hmem => hchanges change (mem_cons_of_mem _ hmem)
    exact fun owner howner => (hfirst owner howner).trans (hlater owner howner)

/-- The sender that one of the keys authenticates is not unrestricted. -/
theorem verifySender_not_admin {sender : AuthorizedActor}
    (hverify : verifySender primitives storage request.signed now account = .ok sender)
    (haccount : account ∈ accounts) : sender.resolved.scope ≠ 0 := by
  have hmade := hsigned.sender
  unfold Eip8130Signed.senderSignature at hmade
  unfold verifySender at hverify
  cases hnamed : request.signed.tx.sender with
  | some named =>
    have hsame : named = account := by
      unfold senderAccount at hsender
      rw [hnamed] at hsender
      exact Except.ok.inj hsender
    subst hsame
    rw [hnamed, Option.isSome_some] at hmade
    rw [hnamed] at hverify
    obtain ⟨resolved, hscoped, hverify⟩ := bind_eq_ok.mp hverify
    obtain ⟨-, hverify⟩ := ensure_bind_eq_ok.mp hverify
    cases hverify
    obtain ⟨actor, hactor, hscoped⟩ := bind_eq_ok.mp hscoped
    obtain ⟨-, hscoped⟩ := ensure_bind_eq_ok.mp hscoped
    cases hscoped
    have hproven := (authenticateActorWithAccountState_eq_ok.mp (mapError_eq_ok.mp hactor)).2
    exact hguarded.not_admin hsound haccount hproven hmade
  | none =>
    rw [hnamed, Option.isSome_none] at hmade
    rw [hnamed] at hverify
    obtain ⟨resolved, hresolved, hverify⟩ := bind_eq_ok.mp hverify
    obtain ⟨-, hverify⟩ := ensure_bind_eq_ok.mp hverify
    obtain ⟨-, hverify⟩ := ensure_bind_eq_ok.mp hverify
    cases hverify
    have hproven := authorizeK1WithAccountState_eq_ok
      (senderAccount_recovered hnamed hsender) (mapError_eq_ok.mp hresolved)
    exact hproven.not_admin_direct hsound hguarded haccount (by decide) hmade

omit hsender in
/-- One accepted transaction that the keys have signed. -/
theorem authorizeAndApply_keeps {result : AppliedTransaction}
    (hgrant : authorizeAndApply primitives request.signed storage
      request.localChainId request.now = .ok (result, after)) :
    (∀ owner ∈ accounts, SameAccount storage after owner) ∧
      ∀ effect, result.applied.delegation = some effect → effect.account ∉ accounts := by
  obtain ⟨account, hacc⟩ := authorizeAndApply_eq_ok hgrant
  have hsame := hacc.entries.keeps hsound hguarded hsigned hacc.sender fun _ hmem => hmem
  refine ⟨hsame, fun effect heffect haccount => ?_⟩
  obtain ⟨rfl, hadmin⟩ := hacc.delegation effect heffect
  exact verifySender_not_admin hsound (hguarded.of_sameAccount hsame) hsigned hacc.sender
    hacc.verified haccount hadmin

end Signed

theorem Accepted.keeps {requests : List TxRequest}
    (hacc : Accepted primitives storage requests after)
    (hsound : Unforgeable primitives made) (hguarded : Guarded keys accounts storage)
    (hsigned : ∀ request ∈ requests, request.SignedWithin primitives made keys accounts) :
    ∀ owner ∈ accounts, SameAccount storage after owner := by
  induction hacc with
  | nil => exact fun owner _ => .refl
  | cons request hgrant _ ih =>
    have hfirst := (authorizeAndApply_keeps hsound hguarded
      (hsigned request mem_cons_self) hgrant).1
    have hlater := ih (hguarded.of_sameAccount hfirst)
      fun later hmem => hsigned later (mem_cons_of_mem _ hmem)
    exact fun owner howner => (hfirst owner howner).trans (hlater owner howner)

/-- Keys without unrestricted authority over a set of accounts change nothing of them and
delegate none of them, in any accepted transaction of any sequence that they sign. -/
theorem no_escalation (hsound : Unforgeable primitives made)
    (hguarded : Guarded keys accounts storage) {requests : List TxRequest}
    (haccepted : Accepted primitives storage requests middle)
    (hearlier : ∀ earlier ∈ requests,
      earlier.SignedWithin primitives made keys accounts)
    {result : AppliedTransaction}
    (hauthorize : authorizeAndApply primitives request.signed middle
      request.localChainId request.now = .ok (result, after))
    (hsigned : request.SignedWithin primitives made keys accounts) :
    (∀ owner ∈ accounts, SameAccount storage middle owner ∧
      SameAccount storage after owner) ∧
      ∀ effect, result.applied.delegation = some effect → effect.account ∉ accounts := by
  have hbefore := haccepted.keeps hsound hguarded hearlier
  obtain ⟨hlast, hdelegation⟩ := authorizeAndApply_keeps hsound
    (hguarded.of_sameAccount hbefore) hsigned hauthorize
  exact ⟨fun owner howner => ⟨hbefore owner howner,
    (hbefore owner howner).trans (hlast owner howner)⟩, hdelegation⟩

end Transactions

section Operator

/-- One account that has granted a key of another one to send for it, and nothing
more. -/
def operatorStorage : AccountConfiguration :=
  (AccountConfiguration.empty.setActorConfig (addressOf 0xA1)
      (selfActorId (addressOf 0xB2)) ⟨k1Authenticator, 0, scopeOperator⟩).setAccountState
    (addressOf 0xA1) { AccountState.zero with localSequence := 1 }

def operatorKeys : Set SigningKey := {⟨k1Authenticator, selfActorId (addressOf 0xB2)⟩}

/-- A key has made every signature that verifies for it. -/
def verified (key : SigningKey) (hash : B256) (data : Bytes) : Prop :=
  dispatchAuthenticate transparentPrimitives hash key.authenticator data =
    .ok (.authenticated key.actorId)

theorem operatorKeys_of_verified {key : SigningKey} {hash : B256}
    (hmade : verified key hash (transparentSignature (addressOf 0xB2))) :
    key ∈ operatorKeys := by
  obtain ⟨authenticator, actorId⟩ := key
  rcases isVerifier_of_dispatch hmade with hk1 | hp256 | hwebauthn
  · subst hk1
    obtain ⟨recovered, hrecovered, rfl⟩ := dispatch_k1_eq_ok hmade
    have hsigner : recoverK1 transparentPrimitives hash
        (transparentSignature (addressOf 0xB2)) = .ok (addressOf 0xB2) := rfl
    rw [← Except.ok.inj (hsigner.symm.trans hrecovered)]
    rfl
  · subst hp256
    have hmalformed : dispatchAuthenticate transparentPrimitives hash p256Authenticator
        (transparentSignature (addressOf 0xB2)) = .error .malformedAuth := rfl
    exact nomatch hmalformed.symm.trans hmade
  · subst hwebauthn
    have hmalformed : dispatchAuthenticate transparentPrimitives hash
        webauthnAuthenticator (transparentSignature (addressOf 0xB2)) = .error .malformedAuth := rfl
    exact nomatch hmalformed.symm.trans hmade

theorem operatorStorage_slot (actorId : B256) :
    operatorStorage.actorConfigSlot (addressOf 0xA1) actorId =
      if actorId = selfActorId (addressOf 0xB2) then ⟨k1Authenticator, 0, scopeOperator⟩
      else .empty := by
  unfold operatorStorage
  rw [actorConfigSlot_setAccountState]
  split
  · rename_i hid
    subst hid
    exact actorConfigSlot_setActorConfig _ _ _ (by decide)
  · rename_i hid
    rw [actorConfigSlot_setActorConfig_of_ne _ _ _ _ _ hid]
    exact ActorConfig.fromWord_default

theorem guarded_operatorStorage : Guarded operatorKeys {addressOf 0xA1} operatorStorage where
  stored := by
    rintro account rfl actorId hstored hscope
    rw [operatorStorage_slot] at hstored hscope
    split at hstored
    · rename_i hid
      rw [if_pos hid] at hscope
      exact absurd hscope (by decide)
    · exact absurd hstored (by decide)
  inline := by
    rintro account rfl _ _ hkey
    exact absurd hkey (by unfold operatorKeys; decide)
  delegates := by
    rintro account rfl delegateAccount hauth hscope
    rw [operatorStorage_slot] at hauth
    split at hauth
    · exact absurd hauth (by decide)
    · exact absurd hauth (by decide)

/-- The operator sends for the account and pays. -/
def operatorRequest : TxRequest :=
  ⟨⟨⟨some (addressOf 0xA1), nonceKeyMax, [], some (addressOf 0xB2)⟩,
    k1Authenticator.val ++ transparentSignature (addressOf 0xB2),
    k1Authenticator.val ++ transparentSignature (addressOf 0xB2)⟩, 8453, 100⟩

/-- The operator delegates its own account. -/
def ownDelegation : TxRequest := ownRequest (addressOf 0xB2) [.delegation (addressOf 0xC3)]

theorem no_escalation_operator :
    ∃ result after,
      authorizeAndApply transparentPrimitives ownDelegation.signed
        (finalStorage transparentPrimitives [operatorRequest] operatorStorage)
        ownDelegation.localChainId ownDelegation.now = .ok (result, after) ∧
      result.applied.delegation.isSome = true ∧
      SameAccount operatorStorage after (addressOf 0xA1) := by
  have hoperator : Accepted transparentPrimitives operatorStorage [operatorRequest] _ :=
    accepted_of_accepts (by decide +kernel)
  have hdelegated : (match authorizeAndApply transparentPrimitives ownDelegation.signed
      (finalStorage transparentPrimitives [operatorRequest] operatorStorage)
      ownDelegation.localChainId ownDelegation.now with
      | .ok (result, _) => result.applied.delegation.isSome
      | .error _ => false) = true := by decide +kernel
  split at hdelegated
  · rename_i result after hauthorize
    have hkept := no_escalation (fun _ _ _ _ hdispatch => hdispatch)
      guarded_operatorStorage hoperator (List.forall_mem_singleton.mpr
        ⟨fun _ => operatorKeys_of_verified, fun _ _ _ => nofun, fun _ _ => nofun⟩) hauthorize
      ⟨fun _ => operatorKeys_of_verified, fun _ _ _ hmem => (nomatch mem_singleton.mp hmem),
        fun _ _ hmem => nomatch mem_singleton.mp hmem⟩
    exact ⟨result, after, hauthorize, hdelegated, (hkept.1 _ rfl).2⟩
  · cases hdelegated

end Operator

end Eip8130

end BaseChain
