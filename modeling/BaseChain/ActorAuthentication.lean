/-
What an authentication that succeeds has checked: whose signature it was and where the
actor is configured.
-/
import BaseChain.ActorAuthorizer

namespace BaseChain

open Checked List

namespace Eip8130

/-- The authenticators that verify a signature themselves. -/
def IsVerifier (authenticator : Address) : Prop :=
  authenticator = k1Authenticator ∨ authenticator = p256Authenticator ∨
    authenticator = webauthnAuthenticator

variable {authenticator : Address}

theorem IsVerifier.ne_delegate (hverifier : IsVerifier authenticator) :
    authenticator ≠ delegateAuthenticator := by
  rcases hverifier with rfl | rfl | rfl
  · decide
  · decide
  · decide

theorem IsVerifier.ne_default (hverifier : IsVerifier authenticator) : authenticator ≠ default := by
  rcases hverifier with rfl | rfl | rfl
  · decide
  · decide
  · decide

variable {primitives : Primitives} {hash : B256} {data : Bytes} {actorId : B256}

section Dispatch

variable {delegateAccount : Address}

theorem isVerifier_of_dispatch
    (hcall : dispatchAuthenticate primitives hash authenticator data =
      .ok (.authenticated actorId)) : IsVerifier authenticator := by
  unfold dispatchAuthenticate at hcall
  by_cases hk1 : authenticator = k1Authenticator
  · exact .inl hk1
  rw [if_neg hk1] at hcall
  by_cases hp256 : authenticator = p256Authenticator
  · exact .inr (.inl hp256)
  rw [if_neg hp256] at hcall
  by_cases hwebauthn : authenticator = webauthnAuthenticator
  · exact .inr (.inr hwebauthn)
  rw [if_neg hwebauthn] at hcall
  split at hcall
  · obtain ⟨-, hcall⟩ := ensure_bind_eq_ok.mp hcall
    obtain ⟨-, hcall⟩ := ensure_bind_eq_ok.mp hcall
    cases hcall
  · cases hcall

theorem dispatch_k1_eq_ok (hcall : dispatchAuthenticate primitives hash k1Authenticator data =
      .ok (.authenticated actorId)) :
    ∃ recovered, recoverK1 primitives hash data = .ok recovered ∧
      actorId = selfActorId recovered := by
  obtain ⟨recovered, hrecovered, hcall⟩ := bind_eq_ok.mp hcall
  cases hcall
  exact ⟨recovered, hrecovered, rfl⟩

theorem dispatch_k1 {recovered : Address}
    (hrecovered : recoverK1 primitives hash data = .ok recovered) :
    dispatchAuthenticate primitives hash k1Authenticator data =
      .ok (.authenticated (selfActorId recovered)) := by
  unfold dispatchAuthenticate
  rw [if_pos rfl, hrecovered]
  rfl

/-- Only a blob for the delegate authenticator is delegated, to the account that it
starts with. -/
theorem dispatch_delegated_eq_ok
    (hcall : dispatchAuthenticate primitives hash authenticator data =
      .ok (.delegated actorId delegateAccount)) :
    authenticator = delegateAuthenticator ∧ 40 ≤ data.length ∧
      delegateAccount = addressPrefix data ∧ actorId = selfActorId delegateAccount ∧
      addressPrefix (data.drop 20) ≠ delegateAuthenticator := by
  unfold dispatchAuthenticate at hcall
  split at hcall
  · obtain ⟨recovered, -, hcall⟩ := bind_eq_ok.mp hcall
    cases hcall
  split at hcall
  · obtain ⟨id, -, hcall⟩ := bind_eq_ok.mp hcall
    cases hcall
  split at hcall
  · obtain ⟨id, -, hcall⟩ := bind_eq_ok.mp hcall
    cases hcall
  split at hcall
  · rename_i hdelegate
    obtain ⟨hlength, hcall⟩ := ensure_bind_eq_ok.mp hcall
    obtain ⟨hnested, hcall⟩ := ensure_bind_eq_ok.mp hcall
    cases hcall
    exact ⟨hdelegate, Nat.le_of_not_lt hlength, rfl, rfl, hnested⟩
  · cases hcall

end Dispatch

/-- An actor that the table binds to an authenticator, and that has not lapsed. -/
structure Bound (storage : AccountConfiguration) (account : Address) (actorId : B256)
    (authenticator : Address) (now : Nat) (resolved : ResolvedActor) : Prop where
  somebody : actorId ≠ default
  authenticator : (storage.actorConfigSlot account actorId).authenticator = authenticator
  current : (storage.actorConfigSlot account actorId).isExpired now = false
  resolved : resolved = ⟨actorId, (storage.actorConfigSlot account actorId).scope,
    policyTarget storage account actorId (storage.actorConfigSlot account actorId).scope,
    (storage.actorConfigSlot account actorId).expiry⟩

/-- A successful authentication: by the inline key of the account, by an actor of the
table that signed, or by a delegate for which an unrestricted actor signed. -/
inductive Authenticated (primitives : Primitives) (storage : AccountConfiguration)
    (hash : B256) (now : Nat) :
    (account authenticator : Address) → Bytes → AccountState → ResolvedActor → Prop
  | own {account : Address} {data : Bytes} {state : AccountState} (recovered : Address)
      (hrecovered : recoverK1 primitives hash data = .ok recovered)
      (hself : selfActorId recovered = selfActorId account)
      (hlive : state.defaultEoaRevoked = false)
      (hcurrent : ¬ (state.defaultEoaExpiry ≠ 0 ∧ state.defaultEoaExpiry < now)) :
      Authenticated primitives storage hash now account k1Authenticator data state
        ⟨selfActorId recovered, state.defaultEoaScope,
          policyTarget storage account (selfActorId recovered) state.defaultEoaScope,
          state.defaultEoaExpiry⟩
  | bound {account authenticator : Address} {data : Bytes} {state : AccountState}
      {resolved : ResolvedActor} (actorId : B256)
      (hdispatch : dispatchAuthenticate primitives hash authenticator data =
        .ok (.authenticated actorId))
      (hother : authenticator = k1Authenticator → actorId ≠ selfActorId account)
      (hbound : Bound storage account actorId authenticator now resolved) :
      Authenticated primitives storage hash now account authenticator data state resolved
  | delegated {account : Address} {data : Bytes} {state : AccountState}
      {nested resolved : ResolvedActor} (hlength : 40 ≤ data.length)
      (hsingle : addressPrefix (data.drop 20) ≠ delegateAuthenticator)
      (hnested : Authenticated primitives storage hash now (addressPrefix data)
        (addressPrefix (data.drop 20)) ((data.drop 20).drop 20)
        (storage.getAccountState (addressPrefix data)) nested)
      (hadmin : nested.scope = 0)
      (hbound : Bound storage account (selfActorId (addressPrefix data))
        delegateAuthenticator now resolved) :
      Authenticated primitives storage hash now account delegateAuthenticator data state resolved

section Inversion

variable {storage : AccountConfiguration} {now depth : Nat}
  {account authenticator recovered : Address} {accountState : Option AccountState}
  {resolved : ResolvedActor}

theorem resolveBound_eq_ok : resolveBound storage account actorId authenticator now = .ok resolved ↔
      Bound storage account actorId authenticator now resolved := by
  constructor
  · intro hbound
    obtain ⟨hsomebody, hbound⟩ := ensure_bind_eq_ok.mp hbound
    obtain ⟨hauth, hbound⟩ := ensure_bind_eq_ok.mp hbound
    obtain ⟨hcurrent, hbound⟩ := ensure_bind_eq_ok.mp hbound
    exact ⟨hsomebody, hauth, hcurrent, (Except.ok.inj hbound).symm⟩
  · rintro ⟨hsomebody, hauth, hcurrent, rfl⟩
    apply ensure_bind_eq_ok.mpr ⟨hsomebody, _⟩
    apply ensure_bind_eq_ok.mpr ⟨hauth, _⟩
    exact ensure_bind_eq_ok.mpr ⟨hcurrent, rfl⟩

theorem authorizeK1WithAccountState_eq_ok
    (hrecovered : recoverK1 primitives hash data = .ok recovered) :
    authorizeK1WithAccountState storage account recovered now accountState = .ok resolved →
      Authenticated primitives storage hash now account k1Authenticator data
        (accountState.getD (storage.getAccountState account)) resolved := by
  intro hgrant
  unfold authorizeK1WithAccountState at hgrant
  split at hgrant
  · rename_i hself
    obtain ⟨hlive, hgrant⟩ := ensure_bind_eq_ok.mp hgrant
    obtain ⟨hcurrent, hgrant⟩ := ensure_bind_eq_ok.mp hgrant
    cases hgrant
    exact .own recovered hrecovered hself hlive hcurrent
  · rename_i hother
    exact .bound (selfActorId recovered) (dispatch_k1 hrecovered) (fun _ => hother)
      (resolveBound_eq_ok.mp hgrant)

theorem authenticate_eq_ok
    (hproof : authenticate primitives storage hash now depth account authenticator
      data accountState = .ok resolved) :
    Authenticated primitives storage hash now account authenticator data
      (accountState.getD (storage.getAccountState account)) resolved := by
  induction depth generalizing account authenticator data accountState resolved with
  | zero => cases hproof
  | succ depth ih =>
    unfold authenticate at hproof
    by_cases hk1 : authenticator = k1Authenticator
    · subst hk1
      obtain ⟨recovered, hrecovered, hproof⟩ := bind_eq_ok.mp hproof
      exact authorizeK1WithAccountState_eq_ok (mapError_eq_ok.mp hrecovered) hproof
    · rw [if_neg hk1] at hproof
      obtain ⟨outcome, hcall, hproof⟩ := bind_eq_ok.mp hproof
      replace hcall := mapError_eq_ok.mp hcall
      cases outcome with
      | authenticated actorId =>
        exact .bound actorId hcall (absurd · hk1) (resolveBound_eq_ok.mp hproof)
      | delegated =>
        obtain ⟨rfl, hlength, rfl, rfl, hsingle⟩ := dispatch_delegated_eq_ok hcall
        obtain ⟨-, hproof⟩ := ensure_bind_eq_ok.mp hproof
        obtain ⟨-, hproof⟩ := ensure_bind_eq_ok.mp hproof
        obtain ⟨nested, hnested, hproof⟩ := bind_eq_ok.mp hproof
        obtain ⟨hadmin, hproof⟩ := ensure_bind_eq_ok.mp hproof
        exact .delegated hlength hsingle (ih hnested) hadmin (resolveBound_eq_ok.mp hproof)

theorem recoverK1_bind {result : Except AuthorizeError ResolvedActor}
    (hrecovered : recoverK1 primitives hash data = .ok recovered)
    (hgrant : authorizeK1WithAccountState storage account recovered now accountState = result) :
    authenticate primitives storage hash now (depth + 1) account k1Authenticator data
      accountState = result := by
  unfold authenticate
  rw [if_pos rfl, hrecovered]
  exact hgrant

/-- What a signature itself is checked for takes no recursion. -/
theorem Authenticated.authenticate_succ {state : AccountState}
    (hproven : Authenticated primitives storage hash now account authenticator data
      state resolved)
    (hstate : state = accountState.getD (storage.getAccountState account))
    (hdirect : authenticator ≠ delegateAuthenticator) :
    authenticate primitives storage hash now (depth + 1) account authenticator data
      accountState = .ok resolved := by
  cases hproven with
  | own recovered hrecovered hself hlive hcurrent =>
    subst hstate
    apply recoverK1_bind hrecovered
    unfold authorizeK1WithAccountState
    rw [if_pos hself]
    apply ensure_bind_eq_ok.mpr ⟨hlive, _⟩
    exact ensure_bind_eq_ok.mpr ⟨hcurrent, rfl⟩
  | bound actorId hcall hother hbound =>
    by_cases hk1 : authenticator = k1Authenticator
    · subst hk1
      obtain ⟨recovered, hrecovered, rfl⟩ := dispatch_k1_eq_ok hcall
      apply recoverK1_bind hrecovered
      unfold authorizeK1WithAccountState
      rw [if_neg (hother rfl)]
      exact resolveBound_eq_ok.mpr hbound
    · unfold authenticate
      rw [if_neg hk1, hcall]
      exact resolveBound_eq_ok.mpr hbound
  | delegated => exact absurd rfl hdirect

/-- A delegate is asked once, so that a depth of two is enough. -/
theorem authenticate_iff (hdepth : 2 ≤ depth) :
    authenticate primitives storage hash now depth account authenticator data
        accountState = .ok resolved ↔
      Authenticated primitives storage hash now account authenticator data
        (accountState.getD (storage.getAccountState account)) resolved := by
  refine ⟨authenticate_eq_ok, fun hproven => ?_⟩
  obtain ⟨depth, rfl⟩ := Nat.exists_eq_add_of_le' hdepth
  by_cases hdelegate : authenticator = delegateAuthenticator
  · cases hproven with
    | own => exact absurd hdelegate (by decide)
    | bound actorId hcall =>
      exact absurd hdelegate (isVerifier_of_dispatch hcall).ne_delegate
    | delegated hlength hsingle hnested hadmin hbound =>
      have hcall : dispatchAuthenticate primitives hash delegateAuthenticator data =
          .ok (.delegated (selfActorId (addressPrefix data)) (addressPrefix data)) := by
        have hblob : delegate data =
            .ok (.delegated (selfActorId (addressPrefix data)) (addressPrefix data)) := by
          apply ensure_bind_eq_ok.mpr ⟨Nat.not_lt_of_le hlength, _⟩
          exact ensure_bind_eq_ok.mpr ⟨hsingle, rfl⟩
        unfold dispatchAuthenticate
        rw [if_neg (by decide), if_neg (by decide), if_neg (by decide), if_pos rfl, hblob]
      have hlong : ¬ (data.drop 20).length < 20 := by
        rw [length_drop]
        omega
      unfold authenticate
      rw [if_neg (by decide), hcall]
      apply ensure_bind_eq_ok.mpr ⟨hsingle, _⟩
      apply ensure_bind_eq_ok.mpr ⟨hlong, _⟩
      apply bind_eq_ok.mpr ⟨_, hnested.authenticate_succ rfl hsingle, _⟩
      exact ensure_bind_eq_ok.mpr ⟨hadmin, resolveBound_eq_ok.mpr hbound⟩
  · exact hproven.authenticate_succ rfl hdelegate

theorem authenticateActorWithAccountState_eq_ok {auth : Bytes} :
    authenticateActorWithAccountState primitives storage account hash auth now
        accountState = .ok resolved ↔
      20 ≤ auth.length ∧ Authenticated primitives storage hash now account (addressPrefix auth)
          (auth.drop 20) (accountState.getD (storage.getAccountState account))
          resolved := by
  unfold authenticateActorWithAccountState
  rw [ensure_bind_eq_ok, authenticate_iff le_rfl, Nat.not_lt]

end Inversion

end Eip8130

end BaseChain
