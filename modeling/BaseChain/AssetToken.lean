/-
The asset variant of the B-20 token in the Denim version: the core storage with a
multiplier for displayed balances, its scheduled change, metadata entries and
announcements.  Event logs and gas are not part of the model.
-/
import BaseChain.B20Token
import Mathlib.Logic.Relation

namespace BaseChain

open Checked List

namespace B20

def wad : Nat := 10 ^ 18

def maxUiMultiplier : Nat := 2 ^ 128 - 1

def operatorRole : B256 := .ofNat 0x97667070c54ef182b0f5858b034beac1b6f3089aa2d3188bb1e8929f4fa9b929

/-- The storage of an asset token.  An entry of the metadata that was never written,
or was removed, is the empty string. -/
structure AssetStorage where
  core : CoreStorage
  multiplierSlot : Nat
  pendingMultiplier : Nat
  pendingEffectiveAt : Nat
  usedAnnouncementIds : Bytes → Bool
  extraMetadata : Bytes → Bytes

namespace AssetStorage

variable (token : AssetStorage)

/-- An unset multiplier reads as one. -/
def multiplier : Nat := if token.multiplierSlot = 0 then wad else token.multiplierSlot

/-- The multiplier now: a pending one counts from its time on. -/
def effectiveMultiplier (now : Nat) : Nat :=
  if token.pendingEffectiveAt ≠ 0 ∧ token.pendingEffectiveAt ≤ now then
    token.pendingMultiplier
  else token.multiplier

def clearPending : AssetStorage := { token with pendingMultiplier := 0, pendingEffectiveAt := 0 }

end AssetStorage

variable (context : Context)

section Reads

variable (token : AssetStorage)

def toScaledBalance (balance : Nat) : Except TokenError Nat := do
  let product ← checkedMul balance (token.effectiveMultiplier context.timestamp)
  return product / wad

def scaledBalanceOf (account : Address) : Except TokenError Nat :=
  toScaledBalance context token (token.core.balances account)

def balanceOfUi (account : Address) : Except TokenError Nat := scaledBalanceOf context token account

def totalSupplyUi : Except TokenError Nat := do
  let product ← checkedMul token.core.totalSupply (token.effectiveMultiplier context.timestamp)
  return product / wad

end Reads

section AssetOperations

variable (token : AssetStorage) (caller : Address) (privileged : Bool)

def ensureOperatorRole : Except TokenError Unit :=
  if privileged then .ok () else ensureRole token.core caller operatorRole

def updateMultiplier (newMultiplier : Nat) : Except TokenError AssetStorage := do
  ensureOperatorRole token caller privileged
  ensure (newMultiplier ≠ 0 ∧ newMultiplier ≤ maxUiMultiplier) .invalidMultiplier
  let updated := { token with multiplierSlot := newMultiplier }
  if token.pendingEffectiveAt ≠ 0 then return updated.clearPending
  else return updated

def updateExtraMetadata (key value : Bytes) : Except TokenError AssetStorage := do
  ensureTokenRoleUnless token.core privileged caller .metadata
  ensure (key ≠ []) .invalidMetadataKey
  return { token with
    extraMetadata := Function.update token.extraMetadata key value }

/-- The mints of a batch, in order; the batch has been authorized. -/
def mintAll (core : CoreStorage) : List (Address × Nat) → Except TokenError CoreStorage
  | [] => return core
  | (recipient, amount) :: rest => do
      let minted ← mint context core caller true recipient amount
      mintAll minted rest

def batchMint (recipients : List Address) (amounts : List Nat) :
    Except TokenError AssetStorage := do
  ensureNotPaused token.core .mint
  ensureTokenRoleUnless token.core privileged caller .mint
  ensure (recipients.length = amounts.length) (.lengthMismatch recipients.length amounts.length)
  ensure (recipients ≠ []) .emptyBatch
  let core ← mintAll context caller token.core (recipients.zip amounts)
  return { token with core }

def updateUiMultiplier (newMultiplier effectiveAt : Nat) : Except TokenError AssetStorage := do
  ensureOperatorRole token caller privileged
  ensure (newMultiplier ≠ 0 ∧ newMultiplier ≤ maxUiMultiplier) .invalidMultiplier
  ensure (context.timestamp < effectiveAt) (.effectiveAtInPast effectiveAt)
  ensure (effectiveAt ≤ 2 ^ 64 - 1) (.effectiveAtTooFar effectiveAt)
  ensure (token.pendingEffectiveAt ≤ context.timestamp)
    (.uiMultiplierUpdateExists token.pendingEffectiveAt)
  -- a matured schedule becomes the current multiplier before it is overwritten
  let folded := if token.pendingEffectiveAt ≠ 0 then
      { token with multiplierSlot := token.pendingMultiplier }
    else token
  return { folded with
    pendingMultiplier := newMultiplier, pendingEffectiveAt := effectiveAt }

def cancelUiMultiplierUpdate : Except TokenError AssetStorage := do
  ensureOperatorRole token caller privileged
  ensure (context.timestamp < token.pendingEffectiveAt) .uiMultiplierUpdateDoesNotExist
  return token.clearPending

end AssetOperations

/-- The operations that change an asset token, announcements apart. -/
inductive AssetOperation where
  | common (operation : Operation)
  | updateMultiplier (newMultiplier : Nat)
  | updateExtraMetadata (key value : Bytes)
  | batchMint (recipients : List Address) (amounts : List Nat)
  | updateUiMultiplier (newMultiplier effectiveAt : Nat)
  | cancelUiMultiplierUpdate

def AssetOperation.perform (context : Context) (token : AssetStorage)
    (caller : Address) (privileged : Bool) :
    AssetOperation → Except TokenError AssetStorage
  | .common operation => do
      let core ← operation.perform context token.core caller privileged
      return { token with core }
  | .updateMultiplier newMultiplier =>
    B20.updateMultiplier token caller privileged newMultiplier
  | .updateExtraMetadata key value =>
    B20.updateExtraMetadata token caller privileged key value
  | .batchMint recipients amounts =>
    B20.batchMint context token caller privileged recipients amounts
  | .updateUiMultiplier newMultiplier effectiveAt =>
    B20.updateUiMultiplier context token caller privileged newMultiplier effectiveAt
  | .cancelUiMultiplierUpdate =>
    B20.cancelUiMultiplierUpdate context token caller privileged

/-- An entry of an announcement's calls, by what its selector says. -/
inductive InternalCall where
  | malformed (call : Bytes)
  | announce
  | operation (call : Bytes) (operation : AssetOperation)

section Announcements

variable (token : AssetStorage) (caller : Address) (privileged : Bool)

def beginAnnounce (id : Bytes) : Except TokenError AssetStorage := do
  ensureOperatorRole token caller privileged
  ensure (token.usedAnnouncementIds id = false) (.announcementIdAlreadyUsed id)
  return { token with
    usedAnnouncementIds := Function.update token.usedAnnouncementIds id true }

/-- What an announcement makes of the error of one of its calls. -/
def internalCallError (call : Bytes) (error : TokenError) : TokenError :=
  if error.isSystemError then error else .internalCallFailed call

/-- The calls of an announcement, each one dispatched by `route`. -/
def runInternalCalls (route : AssetStorage → AssetOperation → Except TokenError AssetStorage)
    (token : AssetStorage) : List InternalCall → Except TokenError AssetStorage
  | [] => return token
  | .malformed call :: _ => .error (.internalCallMalformed call)
  | .announce :: _ => .error .announcementInProgress
  | .operation call operation :: rest => do
      let after ← (route token operation).mapError (internalCallError call)
      runInternalCalls route after rest

/-- An announcement runs its calls between its two events. -/
def announce (route : AssetStorage → AssetOperation → Except TokenError AssetStorage)
    (id : Bytes) (calls : List InternalCall) : Except TokenError AssetStorage := do
  let begun ← beginAnnounce token caller privileged id
  runInternalCalls route begun calls

end Announcements

/-- A call to an asset token that may change it. -/
inductive AssetCall where
  | operation (action : AssetOperation)
  | announce (id : Bytes) (calls : List InternalCall)

/-- A call, with the dispatch of its operations left open. -/
def AssetCall.dispatch (route : AssetStorage → AssetOperation → Except TokenError AssetStorage)
    (token : AssetStorage) (caller : Address) (privileged : Bool) :
    AssetCall → Except TokenError AssetStorage
  | .operation action => route token action
  | .announce id calls => B20.announce token caller privileged route id calls

/-- A call for one caller; an announcement's calls are for the same one. -/
def AssetCall.perform (context : Context) (token : AssetStorage) (caller : Address)
    (privileged : Bool) (call : AssetCall) : Except TokenError AssetStorage :=
  call.dispatch (fun token action => action.perform context token caller privileged)
    token caller privileged

/-- One change of an asset token: a successful operation, or the announcement
ids alone. -/
inductive RouteStep (route : AssetStorage → AssetOperation → Except TokenError AssetStorage) :
    AssetStorage → AssetStorage → Prop
  | operation {token after : AssetStorage} (operation : AssetOperation)
      (hroute : route token operation = .ok after) : RouteStep route token after
  | announced (token : AssetStorage) (usedAnnouncementIds : Bytes → Bool) :
      RouteStep route token { token with usedAnnouncementIds }

abbrev AssetStep (context : Context) (caller : Address) (privileged : Bool) :
    AssetStorage → AssetStorage → Prop :=
  RouteStep fun token action => action.perform context token caller privileged

variable {route : AssetStorage → AssetOperation → Except TokenError AssetStorage}
  {token after : AssetStorage} {caller : Address} {privileged : Bool}

section Steps

theorem runInternalCalls_steps {calls : List InternalCall}
    (hcalls : runInternalCalls route token calls = .ok after) :
    Relation.ReflTransGen (RouteStep route) token after := by
  induction calls generalizing token with
  | nil =>
    cases hcalls
    exact .refl
  | cons call rest ih =>
    cases call with
    | malformed call | announce => cases hcalls
    | operation call operation =>
      obtain ⟨middle, hmapped, hrest⟩ := bind_eq_ok.mp hcalls
      have hroute := mapError_eq_ok.mp hmapped
      exact (ih hrest).head (.operation operation hroute)

variable {call : AssetCall}

/-- A successful call makes its changes one step after the other. -/
theorem AssetCall.dispatch_steps (hcall : call.dispatch route token caller privileged = .ok after) :
    Relation.ReflTransGen (RouteStep route) token after := by
  cases call with
  | operation action => exact .single (.operation action hcall)
  | announce =>
    obtain ⟨begun, hbegin, hcalls⟩ := bind_eq_ok.mp hcall
    obtain ⟨-, -, hbegin⟩ := bind_eq_ok.mp hbegin
    obtain ⟨-, hbegin⟩ := ensure_bind_eq_ok.mp hbegin
    cases hbegin
    exact (runInternalCalls_steps hcalls).head (.announced token _)

theorem AssetCall.perform_steps {context : Context}
    (hperf : call.perform context token caller privileged = .ok after) :
    Relation.ReflTransGen (AssetStep context caller privileged) token after :=
  AssetCall.dispatch_steps hperf

end Steps

/-- Every operation of a call is of a kind. -/
def InternalCall.Only (allowed : AssetOperation → Prop) : InternalCall → Prop
  | .operation _ action => allowed action
  | _ => True

def AssetCall.Only (allowed : AssetOperation → Prop) : AssetCall → Prop
  | .operation action => allowed action
  | .announce _ calls => ∀ call ∈ calls, call.Only allowed

section Induction

variable {allowed : AssetOperation → Prop} {motive : AssetStorage → Prop}

section

variable (hroute : ∀ {token action after}, allowed action → motive token →
  route token action = .ok after → motive after)
include hroute

theorem runInternalCalls_induction {calls : List InternalCall}
    (honly : ∀ call ∈ calls, call.Only allowed)
    (hcalls : runInternalCalls route token calls = .ok after)
    (hbefore : motive token) : motive after := by
  induction calls generalizing token with
  | nil =>
    cases hcalls
    exact hbefore
  | cons call rest ih =>
    cases call with
    | malformed call | announce => cases hcalls
    | operation call action =>
      obtain ⟨middle, hmapped, hrest⟩ := bind_eq_ok.mp hcalls
      have hallowed : allowed action := honly _ mem_cons_self
      have hmiddle := hroute hallowed hbefore (mapError_eq_ok.mp hmapped)
      exact ih (fun later hlater => honly later (mem_cons_of_mem _ hlater)) hrest hmiddle

/-- What the allowed operations keep, and the announcement ids have no part in, a
call of such operations keeps. -/
theorem AssetCall.dispatch_induction {call : AssetCall}
    (hids : ∀ {token : AssetStorage} (usedAnnouncementIds : Bytes → Bool),
      motive token → motive { token with usedAnnouncementIds })
    (honly : call.Only allowed)
    (hcall : call.dispatch route token caller privileged = .ok after)
    (hbefore : motive token) : motive after := by
  cases call with
  | operation => exact hroute honly hbefore hcall
  | announce =>
    obtain ⟨begun, hbegin, hcalls⟩ := bind_eq_ok.mp hcall
    obtain ⟨-, -, hbegin⟩ := bind_eq_ok.mp hbegin
    obtain ⟨-, hbegin⟩ := ensure_bind_eq_ok.mp hbegin
    cases hbegin
    exact runInternalCalls_induction hroute honly hcalls (hids _ hbefore)

end

end Induction

end B20

end BaseChain
