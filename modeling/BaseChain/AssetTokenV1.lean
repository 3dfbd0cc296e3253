/-
The asset token of the Beryl version, which the Denim version follows on the same
storage, and what the reads of the later version find there.
-/
import BaseChain.B20Roles

namespace BaseChain

open Checked B20.LedgerEffect

namespace B20

variable {context : Context} {caller : Address} {privileged : Bool} {amount : Nat}

namespace V1

section Operations

variable (context : Context) (token : CoreStorage) (caller : Address) (privileged : Bool)
  (source target : Address)

def transferInner (amount : Nat) : Except TokenError CoreStorage := do
  ensure (target ≠ default) (.invalidReceiver target)
  ensure (source ≠ default) (.invalidSender source)
  if privileged = false then
    ensurePolicyType context token .transferSender source
    ensurePolicyType context token .transferReceiver target
  moveBalance token source target amount

def transfer (target : Address) (amount : Nat) : Except TokenError CoreStorage := do
  ensureNotPaused token .transfer
  transferInner context token privileged caller target amount

def transferFrom (amount : Nat) : Except TokenError CoreStorage := do
  ensureNotPaused token .transfer
  ensure (target ≠ default) (.invalidReceiver target)
  ensure (source ≠ default) (.invalidSender source)
  let allowance := token.allowances source caller
  let isInfinite := allowance = u256Max
  ensure (isInfinite ∨ amount ≤ allowance) (.insufficientAllowance caller allowance amount)
  -- the executor policy is for spenders only in this version
  if privileged = false ∧ caller ≠ source then
    ensurePolicyType context token .transferExecutor caller
  let moved ← transferInner context token privileged source target amount
  if isInfinite then return moved
  else return moved.setAllowance source caller (allowance - amount)

/-- A mint may credit the token itself in this version. -/
def mint (target : Address) (amount : Nat) : Except TokenError CoreStorage := do
  ensureNotPaused token .mint
  ensureTokenRoleUnless token privileged caller .mint
  ensure (target ≠ default) (.invalidReceiver target)
  ensurePolicyType context token .mintReceiver target
  let newSupply ← checkedAdd token.totalSupply amount
  ensure (newSupply ≤ token.supplyCap) (.supplyCapExceeded token.supplyCap newSupply)
  let minted := { token with totalSupply := newSupply }
  let newBalance ← checkedAdd (minted.balances target) amount
  return minted.setBalance target newBalance

def pausableFeatures : List PausableFeature := [.transfer, .mint, .burn]

def policyTypes : List PolicyType :=
  [.transferSender, .transferReceiver, .transferExecutor, .mintReceiver]

/-- The operations both versions have; seizing came later. -/
def perform : Operation → Except TokenError CoreStorage
  | .transfer target amount => transfer context token caller privileged target amount
  | .transferFrom source target amount =>
    transferFrom context token caller privileged source target amount
  | .mint target amount => mint context token caller privileged target amount
  | .seizeWithMemo _ _ _ => .error .unknownFunctionSelector
  | .pause features => B20.pause token caller privileged pausableFeatures features
  | .unpause features =>
    B20.unpause token caller privileged pausableFeatures features
  | .updatePolicy policyScope newPolicyId =>
    B20.updatePolicy context token caller privileged policyTypes policyScope newPolicyId
  | operation => operation.perform context token caller privileged

end Operations

section AssetOperations

variable (context : Context) (token : AssetStorage) (caller : Address) (privileged : Bool)

/-- The multiplier has no upper bound in this version. -/
def updateMultiplier (newMultiplier : Nat) : Except TokenError AssetStorage := do
  ensureOperatorRole token caller privileged
  ensure (newMultiplier ≠ 0) .invalidMultiplier
  return { token with multiplierSlot := newMultiplier }

def mintAll (core : CoreStorage) : List (Address × Nat) → Except TokenError CoreStorage
  | [] => return core
  | (recipient, amount) :: rest => do
      let minted ← mint context core caller true recipient amount
      mintAll minted rest

def batchMint (recipients : List Address) (amounts : List Nat) :
    Except TokenError AssetStorage := do
  ensureNotPaused token.core .mint
  ensureTokenRoleUnless token.core privileged caller .mint
  ensure (recipients.length = amounts.length) (.lengthMismatch recipients.length amounts.length)
  ensure (recipients ≠ []) .emptyBatch
  let core ← mintAll context caller token.core (recipients.zip amounts)
  return { token with core }

/-- Scheduled multipliers came later. -/
def route : AssetOperation → Except TokenError AssetStorage
  | .common operation => do
      let core ← perform context token.core caller privileged operation
      return { token with core }
  | .updateMultiplier newMultiplier =>
    updateMultiplier token caller privileged newMultiplier
  | .updateExtraMetadata key value =>
    updateExtraMetadata token caller privileged key value
  | .batchMint recipients amounts =>
    batchMint context token caller privileged recipients amounts
  | .updateUiMultiplier _ _ => .error .unknownFunctionSelector
  | .cancelUiMultiplierUpdate => .error .unknownFunctionSelector

def performCall (call : AssetCall) : Except TokenError AssetStorage :=
  call.dispatch (fun token => route context token caller privileged) token caller privileged

end AssetOperations

/-- The requests of the time of this version. -/
def run : AssetStorage → List (Request AssetCall) → AssetStorage := Checked.run fun token request =>
    performCall request.context token request.caller request.privileged request.action

section Effects

variable {token after : CoreStorage} {target source : Address}

theorem transferInner_eq_ok
    (hinner : transferInner context token privileged source target amount = .ok after) :
    moveBalance token source target amount = .ok after := by
  obtain ⟨-, hinner⟩ := ensure_bind_eq_ok.mp hinner
  obtain ⟨-, hinner⟩ := ensure_bind_eq_ok.mp hinner
  cases privileged with
  | true => exact hinner
  | false =>
    obtain ⟨-, hinner⟩ := ensure_bind_eq_ok.mp hinner
    exact (ensure_bind_eq_ok.mp hinner).2

theorem transferFrom_eq_ok
    (htransfer : transferFrom context token caller privileged source target amount = .ok after) :
    ∃ moved allowances, moveBalance token source target amount = .ok moved ∧
      after = { moved with allowances } := by
  obtain ⟨-, htransfer⟩ := ensureNotPaused_bind.mp htransfer
  obtain ⟨-, htransfer⟩ := ensure_bind_eq_ok.mp htransfer
  obtain ⟨-, htransfer⟩ := ensure_bind_eq_ok.mp htransfer
  obtain ⟨-, htransfer⟩ := ensure_bind_eq_ok.mp htransfer
  obtain ⟨-, htransfer⟩ := ensureIf_bind_eq_ok.mp htransfer
  obtain ⟨moved, hinner, hafter⟩ := bind_eq_ok.mp htransfer
  refine ⟨moved, after.allowances, transferInner_eq_ok hinner, ?_⟩
  split at hafter
  · cases hafter
    rfl
  · cases hafter
    rfl

theorem mint_eq_ok (hmint : mint context token caller privileged target amount = .ok after) :
    token.totalSupply + amount ≤ token.supplyCap ∧
      after = { token with
        totalSupply := token.totalSupply + amount,
        balances := Function.update token.balances target (token.balances target + amount) } := by
  obtain ⟨-, hmint⟩ := ensureNotPaused_bind.mp hmint
  obtain ⟨-, hmint⟩ := ensureTokenRoleUnless_bind.mp hmint
  obtain ⟨-, hmint⟩ := ensure_bind_eq_ok.mp hmint
  obtain ⟨-, hmint⟩ := ensure_bind_eq_ok.mp hmint
  obtain ⟨supply, hsupply, hmint⟩ := bind_eq_ok.mp hmint
  obtain ⟨-, rfl⟩ := checkedAdd_eq_ok.mp hsupply
  obtain ⟨hroom, hmint⟩ := ensure_bind_eq_ok.mp hmint
  obtain ⟨balance, hbalance, hafter⟩ := bind_eq_ok.mp hmint
  obtain ⟨-, rfl⟩ := checkedAdd_eq_ok.mp hbalance
  exact ⟨hroom, (Except.ok.inj hafter).symm⟩

/-- The operations of this version keep the ledger conserved as the later ones do. -/
theorem perform_conserved {operation : Operation}
    (hperf : perform context token caller privileged operation = .ok after)
    (hbefore : Conserved token) : Conserved after := by
  cases operation with
  | transfer =>
    obtain ⟨-, hinner⟩ := ensureNotPaused_bind.mp hperf
    exact (of_moveBalance (transferInner_eq_ok hinner)).conserved hbefore
  | transferFrom =>
    obtain ⟨moved, allowances, hmove, rfl⟩ := transferFrom_eq_ok hperf
    have hmoved := (of_moveBalance hmove).conserved hbefore
    exact ⟨hmoved.total, hmoved.withinCap, hmoved.capped⟩
  | mint =>
    obtain ⟨hroom, hafter⟩ := mint_eq_ok hperf
    exact (of_minted hroom hafter).conserved hbefore
  | seizeWithMemo => cases hperf
  | pause =>
    obtain ⟨paused, rfl⟩ := pause_eq_ok hperf
    exact ⟨hbefore.total, hbefore.withinCap, hbefore.capped⟩
  | unpause =>
    obtain ⟨paused, rfl⟩ := unpause_eq_ok hperf
    exact ⟨hbefore.total, hbefore.withinCap, hbefore.capped⟩
  | updatePolicy =>
    obtain ⟨policyIds, rfl⟩ := updatePolicy_eq_ok hperf
    exact ⟨hbefore.total, hbefore.withinCap, hbefore.capped⟩
  | _ =>
    unfold perform at hperf
    exact (Operation.ledgerEffect hperf).conserved hbefore

theorem mintAll_conserved {mints : List (Address × Nat)}
    (hmints : mintAll context caller token mints = .ok after)
    (hbefore : Conserved token) : Conserved after := by
  induction mints generalizing token with
  | nil =>
    cases hmints
    exact hbefore
  | cons mint rest ih =>
    obtain ⟨minted, hmint, hrest⟩ := bind_eq_ok.mp hmints
    obtain ⟨hroom, hminted⟩ := mint_eq_ok hmint
    exact ih hrest ((of_minted hroom hminted).conserved hbefore)

end Effects

end V1

/-- The state in which no scaled read can fail. -/
structure ScalesWithin (token : AssetStorage) : Prop where
  conserved : Conserved token.core
  multiplier : token.multiplierSlot ≤ maxUiMultiplier
  pending : token.pendingMultiplier ≤ maxUiMultiplier
  scheduled : token.pendingEffectiveAt ≠ 0 → token.pendingMultiplier ≠ 0

/-- A multiplier that the later version would accept. -/
def AssetOperation.MultiplierBounded : AssetOperation → Prop
  | .updateMultiplier newMultiplier => newMultiplier ≤ maxUiMultiplier
  | _ => True

section Scales

variable {token after : AssetStorage}

theorem ScalesWithin.withIds (usedAnnouncementIds : Bytes → Bool) (hbefore : ScalesWithin token) :
    ScalesWithin { token with usedAnnouncementIds } :=
  ⟨hbefore.conserved, hbefore.multiplier, hbefore.pending, hbefore.scheduled⟩

variable (hbefore : ScalesWithin token)
include hbefore

theorem ScalesWithin.withCore {core : CoreStorage} (hcore : Conserved core) :
    ScalesWithin { token with core } :=
  ⟨hcore, hbefore.multiplier, hbefore.pending, hbefore.scheduled⟩

theorem updateExtraMetadata_scales {key value : Bytes}
    (hupdate : updateExtraMetadata token caller privileged key value = .ok after) :
    ScalesWithin after := by
  obtain ⟨-, -, rfl⟩ := updateExtraMetadata_eq_ok hupdate
  exact ⟨hbefore.conserved, hbefore.multiplier, hbefore.pending, hbefore.scheduled⟩

variable {operation : AssetOperation}

theorem AssetOperation.scales
    (hperf : operation.perform context token caller privileged = .ok after) :
    ScalesWithin after := by
  have hkeep := (operation.conserved hperf hbefore.conserved).1
  cases operation with
  | common =>
    obtain ⟨core, hcore, hafter⟩ := bind_eq_ok.mp hperf
    cases hafter
    exact hbefore.withCore hkeep
  | updateMultiplier =>
    obtain ⟨-, ⟨-, hle⟩, rfl⟩ := updateMultiplier_eq_ok hperf
    refine ⟨hkeep, hle, ?_, fun hscheduled => absurd rfl hscheduled⟩
    split
    · exact Nat.zero_le _
    · exact hbefore.pending
  | updateExtraMetadata => exact updateExtraMetadata_scales hbefore hperf
  | batchMint =>
    obtain ⟨-, -, -, -, core, -, rfl⟩ := batchMint_eq_ok hperf
    exact hbefore.withCore hkeep
  | updateUiMultiplier =>
    obtain ⟨-, ⟨hnonzero, hle⟩, -, -, -, rfl⟩ := updateUiMultiplier_eq_ok hperf
    refine ⟨hkeep, ?_, hle, fun _ => hnonzero⟩
    split
    · exact hbefore.pending
    · exact hbefore.multiplier
  | cancelUiMultiplierUpdate =>
    obtain ⟨-, -, rfl⟩ := cancelUiMultiplierUpdate_eq_ok hperf
    exact ⟨hkeep, hbefore.multiplier, Nat.zero_le _, fun hscheduled => absurd rfl hscheduled⟩

theorem V1.route_scales (hroute : V1.route context token caller privileged operation = .ok after)
    (hbound : operation.MultiplierBounded) : ScalesWithin after := by
  cases operation with
  | common =>
    obtain ⟨core, hcore, hafter⟩ := bind_eq_ok.mp hroute
    cases hafter
    exact hbefore.withCore (V1.perform_conserved hcore hbefore.conserved)
  | updateMultiplier =>
    obtain ⟨-, hupdate⟩ := ensureOperatorRole_bind.mp hroute
    obtain ⟨-, hupdate⟩ := ensure_bind_eq_ok.mp hupdate
    cases hupdate
    exact ⟨hbefore.conserved, hbound, hbefore.pending, hbefore.scheduled⟩
  | updateExtraMetadata => exact updateExtraMetadata_scales hbefore hroute
  | batchMint =>
    obtain ⟨-, hbatch⟩ := ensureNotPaused_bind.mp hroute
    obtain ⟨-, hbatch⟩ := ensureTokenRoleUnless_bind.mp hbatch
    obtain ⟨-, hbatch⟩ := ensure_bind_eq_ok.mp hbatch
    obtain ⟨-, hbatch⟩ := ensure_bind_eq_ok.mp hbatch
    obtain ⟨core, hmints, hafter⟩ := bind_eq_ok.mp hbatch
    cases hafter
    exact hbefore.withCore (V1.mintAll_conserved hmints hbefore.conserved)
  | updateUiMultiplier newMultiplier effectiveAt | cancelUiMultiplierUpdate => cases hroute

theorem AssetStorage.run_scales (requests : List (Request AssetCall)) :
    ScalesWithin (token.run requests) := by
  refine run_invariant ?_ requests hbefore
  intro state request after hstate hperf
  have hany : request.action.Only fun _ => True := by
    cases request.action with
    | operation => trivial
    | announce =>
      intro call _
      cases call with
      | _ => trivial
  exact AssetCall.dispatch_induction (fun _ hscales hroute => AssetOperation.scales hscales hroute)
    ScalesWithin.withIds hany hperf hstate

theorem V1.run_scales {requests : List (Request AssetCall)} (hbound : ∀ request ∈ requests,
      request.action.Only AssetOperation.MultiplierBounded) :
    ScalesWithin (V1.run token requests) := by
  refine run_invariant_of_mem ?_ hbefore
  intro request hmem state after hstate hperf
  refine AssetCall.dispatch_induction ?_ ScalesWithin.withIds (hbound request hmem) hperf hstate
  intro token action next hallowed hscales hroute
  exact V1.route_scales hscales hroute hallowed

end Scales

section Reads

variable {token : AssetStorage}

section

variable (hscales : ScalesWithin token)
include hscales

theorem ScalesWithin.effective_le (now : Nat) :
    token.effectiveMultiplier now ≤ maxUiMultiplier := by
  unfold AssetStorage.effectiveMultiplier AssetStorage.multiplier
  split
  · exact hscales.pending
  split
  · decide
  · exact hscales.multiplier

theorem ScalesWithin.effective_ne_zero (now : Nat) : token.effectiveMultiplier now ≠ 0 := by
  unfold AssetStorage.effectiveMultiplier AssetStorage.multiplier
  split
  · rename_i hmatured
    exact hscales.scheduled hmatured.1
  · split
    · decide
    · assumption

/-- The product of a part of the supply and the multiplier fits into 256 bits. -/
theorem ScalesWithin.checkedMul_eq_ok (hamount : amount ≤ token.core.totalSupply) (now : Nat) :
    checkedMul amount (token.effectiveMultiplier now) =
      .ok (amount * token.effectiveMultiplier now) := by
  have hproduct : amount * token.effectiveMultiplier now ≤ maxSupplyCap * maxUiMultiplier :=
    Nat.mul_le_mul (hamount.trans hscales.conserved.supply_le) (hscales.effective_le now)
  have hfits : maxSupplyCap * maxUiMultiplier ≤ u256Max := by decide
  exact if_neg (not_lt.mpr (hproduct.trans hfits))

theorem ScalesWithin.toScaledBalance_eq_ok (hamount : amount ≤ token.core.totalSupply) :
    toScaledBalance context token amount =
      .ok (amount * token.effectiveMultiplier context.timestamp / wad) :=
  bind_ok (hscales.checkedMul_eq_ok hamount context.timestamp)

theorem ScalesWithin.held_le (account : Address) :
    token.core.balances account ≤ token.core.totalSupply :=
  hscales.conserved.total ▸ balance_le_total token.core.balances account

end

end Reads

/-- Every read of a balance or the supply, scaled by the multiplier, has a value. -/
structure ReadsTotal (context : Context) (token : AssetStorage) : Prop where
  scaled (account : Address) (balance : Nat) : balance ≤ token.core.balances account →
    toScaledBalance context token balance =
      .ok (balance * token.effectiveMultiplier context.timestamp / wad)
  scaledOf (account : Address) : scaledBalanceOf context token account =
      .ok (token.core.balances account * token.effectiveMultiplier context.timestamp / wad)
  ui (account : Address) : balanceOfUi context token account = .ok (token.core.balances account *
        token.effectiveMultiplier context.timestamp / wad)
  supplyUi : totalSupplyUi context token = .ok (token.core.totalSupply *
      token.effectiveMultiplier context.timestamp / wad)
  divisor : wad ≠ 0 ∧ token.effectiveMultiplier context.timestamp ≠ 0

theorem ScalesWithin.readsTotal {token : AssetStorage} (hscales : ScalesWithin token)
    (context : Context) : ReadsTotal context token where
  scaled account _ hbalance :=
    hscales.toScaledBalance_eq_ok (hbalance.trans (hscales.held_le account))
  scaledOf account := hscales.toScaledBalance_eq_ok (hscales.held_le account)
  ui account := hscales.toScaledBalance_eq_ok (hscales.held_le account)
  supplyUi := bind_ok (hscales.checkedMul_eq_ok le_rfl context.timestamp)
  divisor := ⟨by decide, hscales.effective_ne_zero context.timestamp⟩

theorem created_scales {name symbol : Bytes} {initialAdmin : Address} {core : CoreStorage}
    (hadmin : grantInitialAdmin ( AssetStorage.initialize name symbol).core
      initialAdmin = .ok core) :
    ScalesWithin { AssetStorage.initialize name symbol with core } := by
  have hempty : Conserved ( AssetStorage.initialize name symbol).core :=
    ⟨emptyCore_conserved.total, emptyCore_conserved.withinCap, emptyCore_conserved.capped⟩
  refine ⟨?_, Nat.zero_le _, Nat.zero_le _, fun habsurd => absurd rfl habsurd⟩
  unfold grantInitialAdmin at hadmin
  split at hadmin
  · exact (of_sameLedger (.of_grant hadmin)).conserved hempty
  · cases hadmin
    exact hempty

/-- A token that came through the upgrade has total reads in every state, if no
multiplier was set under the old version that the new one would have refused. -/
theorem upgraded_reads_total {name symbol : Bytes} {initialAdmin : Address}
    {core : CoreStorage}
    (hadmin : grantInitialAdmin ( AssetStorage.initialize name symbol).core
      initialAdmin = .ok core)
    {old : List (Request AssetCall)}
    (hbounded : ∀ request ∈ old,
      request.action.Only AssetOperation.MultiplierBounded)
    (recent : List (Request AssetCall)) (context : Context) :
    ReadsTotal context ((V1.run
      { AssetStorage.initialize name symbol with core } old).run recent) :=
  (AssetStorage.run_scales (V1.run_scales (created_scales hadmin) hbounded) recent).readsTotal
    context

section Sample

/-- The factory's call while it creates a token. -/
def initCall (action : AssetOperation) : Request AssetCall where
  context := mintFive.context
  caller := default
  privileged := true
  action := .operation action

/-- A new token whose multiplier was set and whose admin got two units, all under
the old version. -/
def scaledBy (multiplier : Nat) : AssetStorage :=
  V1.run { AssetStorage.initialize [] [] with core := administered.core }
    [initCall (.updateMultiplier multiplier), initCall (.common (.mint firstAdmin 2))]

/-- The old version takes any multiplier, and the new one reads with it. -/
theorem legacy_multiplier_overflows :
    scaledBalanceOf mintFive.context ((scaledBy u256Max).run []) firstAdmin =
        .error .underOverflow ∧
      totalSupplyUi mintFive.context ((scaledBy u256Max).run []) =
        .error .underOverflow ∧
      ((scaledBy u256Max).run []).core.totalSupply = 2 := by
  decide +kernel

theorem upgraded_reads_total_sample :
    (scaledBy (3 * wad)).core.totalSupply = 2 ∧
      ReadsTotal mintFive.context ((scaledBy (3 * wad)).run []) := by
  refine ⟨by decide +kernel, ?_⟩
  refine @upgraded_reads_total [] [] firstAdmin administered.core (by rfl)
    [initCall (.updateMultiplier (3 * wad)),
      initCall (.common (.mint firstAdmin 2))] ?_ [] mintFive.context
  intro request hrequest
  simp only [List.mem_cons, List.not_mem_nil, or_false] at hrequest
  rcases hrequest with rfl | rfl
  · change 3 * wad ≤ maxUiMultiplier
    decide
  · trivial

end Sample

end B20

end BaseChain
