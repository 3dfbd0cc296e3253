/-
The supply of a B-20 token over whole runs: every operation keeps the sum of the
balances equal to the total supply and the supply within its cap.
-/
import BaseChain.AssetEffects
import Mathlib.Algebra.BigOperators.Group.Finset.Piecewise
import Mathlib.Algebra.Order.BigOperators.Group.Finset
import Mathlib.Data.Fintype.Vector
import Mathlib.Data.UInt

namespace BaseChain

open Checked Function List

instance FixedBytes.finite {width : Nat} : Finite (FixedBytes width) :=
  haveI : Finite UInt8 := Finite.of_injective UInt8.toFin fun _ _ => UInt8.toFin_inj.mp
  inferInstanceAs (Finite (List.Vector UInt8 width))

noncomputable instance FixedBytes.fintype {width : Nat} :
    Fintype (FixedBytes width) :=
  Fintype.ofFinite _

/-- The sum after one value of a function was replaced. -/
theorem sum_update_add_old {ι : Type} [Fintype ι] [DecidableEq ι] (values : ι → Nat)
    (index : ι) (value : Nat) :
    ∑ other, update values index value other + values index = ∑ other, values other + value := by
  have hsplit := Finset.sum_erase_add Finset.univ values (Finset.mem_univ index)
  rw [Finset.sum_update_of_mem (Finset.mem_univ index), Finset.sdiff_singleton_eq_erase]
  omega

namespace B20

noncomputable def totalBalance (balances : Address → Nat) : Nat :=
  ∑ account, balances account

theorem balance_le_total (balances : Address → Nat) (account : Address) :
    balances account ≤ totalBalance balances :=
  Finset.single_le_sum (fun _ _ => Nat.zero_le _) (Finset.mem_univ account)

theorem totalBalance_update (balances : Address → Nat) (account : Address) (balance : Nat) :
    totalBalance (update balances account balance) + balances account =
      totalBalance balances + balance :=
  sum_update_add_old balances account balance

variable {amount : Nat}

theorem totalBalance_moved {balances : Address → Nat} {source : Address}
    (target : Address) (henough : amount ≤ balances source) :
    totalBalance (movedBalances balances source target amount) = totalBalance balances := by
  unfold movedBalances
  have hdebit := totalBalance_update balances source (balances source - amount)
  have hcredit := totalBalance_update (update balances source (balances source - amount)) target
    (update balances source (balances source - amount) target + amount)
  dsimp only
  omega

variable {account : Address}

theorem movedBalances_self {balances : Address → Nat} (henough : amount ≤ balances account) :
    movedBalances balances account account amount = balances := by
  unfold movedBalances
  dsimp only
  rw [update_self, Nat.sub_add_cancel henough, update_idem, update_eq_self]

/-- The supply is what the accounts hold, and within a cap that 128 bits hold. -/
structure Conserved (token : CoreStorage) : Prop where
  total : totalBalance token.balances = token.totalSupply
  withinCap : token.totalSupply ≤ token.supplyCap
  capped : token.supplyCap ≤ maxSupplyCap

/-- What an operation does to balances, supply and cap; the last two arguments are
the amounts that it mints and burns. -/
inductive LedgerEffect (token after : CoreStorage) : Nat → Nat → Prop
  | move (source target : Address) (amount : Nat)
      (henough : amount ≤ token.balances source)
      (hbalances : after.balances = movedBalances token.balances source target amount)
      (hsupply : after.totalSupply = token.totalSupply)
      (hcap : after.supplyCap = token.supplyCap) : LedgerEffect token after 0 0
  | mint (target : Address) (amount : Nat)
      (hroom : token.totalSupply + amount ≤ token.supplyCap)
      (hbalances : after.balances = update token.balances target (token.balances target + amount))
      (hsupply : after.totalSupply = token.totalSupply + amount)
      (hcap : after.supplyCap = token.supplyCap) :
      LedgerEffect token after amount 0
  | burn (source : Address) (amount : Nat)
      (henough : amount ≤ token.balances source)
      (hburned : amount ≤ token.totalSupply)
      (hbalances : after.balances = update token.balances source (token.balances source - amount))
      (hsupply : after.totalSupply = token.totalSupply - amount)
      (hcap : after.supplyCap = token.supplyCap) :
      LedgerEffect token after 0 amount
  | quiet (hbalances : after.balances = token.balances)
      (hsupply : after.totalSupply = token.totalSupply)
      (hcap : after.supplyCap = token.supplyCap ∨
        token.totalSupply ≤ after.supplyCap ∧ after.supplyCap ≤ maxSupplyCap) :
      LedgerEffect token after 0 0

/-- The amount that a successful operation creates. -/
def Operation.minted : Operation → Nat
  | .mint _ amount => amount
  | _ => 0

/-- The amount that a successful operation destroys. -/
def Operation.burned : Operation → Nat
  | .burn amount => amount
  | .burnBlocked _ amount => amount
  | _ => 0

variable {context : Context} {caller : Address} {privileged : Bool}

section Effects

variable {token after : CoreStorage} {target source : Address}

theorem LedgerEffect.of_moveBalance (hmove : moveBalance token source target amount = .ok after) :
    LedgerEffect token after 0 0 := by
  obtain ⟨henough, -, rfl⟩ := moveBalance_eq_ok.mp hmove
  exact .move source target amount henough rfl rfl rfl

theorem LedgerEffect.of_burnInner (hburn : burnInner token source amount = .ok after) :
    LedgerEffect token after 0 amount := by
  obtain ⟨henough, hburned, rfl⟩ := burnInner_eq_ok hburn
  exact .burn source amount henough hburned rfl rfl rfl

theorem LedgerEffect.of_minted (hroom : token.totalSupply + amount ≤ token.supplyCap)
    (hafter : after = { token with
      totalSupply := token.totalSupply + amount,
      balances := update token.balances target (token.balances target + amount) }) :
    LedgerEffect token after amount 0 := by
  subst hafter
  exact .mint target amount hroom rfl rfl rfl

theorem LedgerEffect.of_mint
    (hmint : B20.mint context token caller privileged target amount = .ok after) :
    LedgerEffect token after amount 0 := by
  obtain ⟨-, -, -, -, hroom, hafter⟩ := mint_eq_ok hmint
  exact .of_minted hroom hafter

theorem LedgerEffect.of_transferFrom
    (htransfer : transferFrom context token caller privileged source target amount = .ok after) :
    LedgerEffect token after 0 0 := by
  obtain ⟨-, -, -, -, moved, hmove, rfl⟩ := transferFrom_eq_ok htransfer
  obtain ⟨henough, -, rfl⟩ := moveBalance_eq_ok.mp hmove
  exact .move source target amount henough rfl rfl rfl

theorem LedgerEffect.of_sameLedger (hsame : SameLedger token after) :
    LedgerEffect token after 0 0 :=
  .quiet hsame.balances hsame.totalSupply hsame.supplyCap

theorem Operation.ledgerEffect {operation : Operation}
    (hperf : operation.perform context token caller privileged = .ok after) :
    LedgerEffect token after operation.minted operation.burned := by
  cases operation with
  | transfer => exact .of_moveBalance (transfer_eq_ok hperf).2.2.2
  | transferFrom => exact .of_transferFrom hperf
  | approve =>
    obtain ⟨-, -, rfl⟩ := approve_eq_ok hperf
    exact .quiet rfl rfl (.inl rfl)
  | mint => exact .of_mint hperf
  | burn => exact .of_burnInner (burn_eq_ok hperf).2.2
  | burnBlocked => exact .of_burnInner (burnBlocked_eq_ok hperf).2.2.2
  | seizeWithMemo => exact .of_moveBalance (seizeWithMemo_eq_ok hperf).2.2.2.2.2.2
  | permit =>
    obtain ⟨-, rfl⟩ := permit_eq_ok hperf
    exact .quiet rfl rfl (.inl rfl)
  | _ => exact .of_sameLedger (Operation.sameLedger hperf trivial)

/-- An effect keeps the ledger conserved. -/
theorem LedgerEffect.conserved {minted burned : Nat}
    (heffect : LedgerEffect token after minted burned) (hbefore : Conserved token) :
    Conserved after := by
  have htotal := hbefore.total
  have hwithin := hbefore.withinCap
  have hcapped := hbefore.capped
  cases heffect with
  | move _ target _ henough hbalances hsupply hcap =>
    refine ⟨?_, hsupply ▸ hcap ▸ hwithin, hcap ▸ hcapped⟩
    rw [hbalances, totalBalance_moved target henough, htotal, hsupply]
  | mint target _ hroom hbalances hsupply hcap =>
    refine ⟨?_, hsupply ▸ hcap ▸ hroom, hcap ▸ hcapped⟩
    have hupdate := totalBalance_update token.balances target (token.balances target + minted)
    rw [hbalances]
    omega
  | burn source _ _ _ hbalances hsupply hcap =>
    refine ⟨?_, ?_, hcap ▸ hcapped⟩
    · have hupdate := totalBalance_update token.balances source (token.balances source - burned)
      rw [hbalances]
      omega
    · rw [hsupply, hcap]
      exact (Nat.sub_le _ _).trans hwithin
  | quiet hbalances hsupply hcap =>
    rcases hcap with hcap | ⟨hroom, hnew⟩
    · exact ⟨by rw [hbalances, hsupply, htotal], hsupply ▸ hcap ▸ hwithin, hcap ▸ hcapped⟩
    · exact ⟨by rw [hbalances, hsupply, htotal], hsupply ▸ hroom, hnew⟩

theorem LedgerEffect.supply {minted burned : Nat}
    (heffect : LedgerEffect token after minted burned) :
    after.totalSupply + burned = token.totalSupply + minted := by
  cases heffect with
  | move _ _ _ _ _ hsupply => rw [hsupply]
  | mint _ _ _ _ hsupply => rw [hsupply]; rfl
  | burn _ _ _ hburned _ hsupply =>
    rw [hsupply, Nat.sub_add_cancel hburned]
    rfl
  | quiet _ hsupply => rw [hsupply]

end Effects

def AssetOperation.minted : AssetOperation → Nat
  | .common operation => operation.minted
  | .batchMint _ amounts => amounts.sum
  | _ => 0

def AssetOperation.burned : AssetOperation → Nat
  | .common operation => operation.burned
  | _ => 0

section AssetEffects

variable {token after : AssetStorage}

theorem mintAll_conserved {core final : CoreStorage} {mints : List (Address × Nat)}
    (hmints : mintAll context caller core mints = .ok final)
    (hbefore : Conserved core) :
    Conserved final ∧ final.totalSupply = core.totalSupply + (mints.map Prod.snd).sum := by
  induction mints generalizing core with
  | nil =>
    cases hmints
    exact ⟨hbefore, rfl⟩
  | cons _ _ ih =>
    obtain ⟨minted, hmint, hrest⟩ := bind_eq_ok.mp hmints
    have heffect := LedgerEffect.of_mint hmint
    obtain ⟨hafter, hsupply⟩ := ih hrest (heffect.conserved hbefore)
    have hone := heffect.supply
    refine ⟨hafter, ?_⟩
    rw [map_cons, sum_cons]
    omega

variable {operation : AssetOperation}

theorem AssetOperation.Own.minted (hown : operation.Own) :
    operation.minted = 0 ∧ operation.burned = 0 := by
  cases operation with
  | common operation | batchMint recipients amounts => exact hown.elim
  | updateMultiplier newMultiplier | updateExtraMetadata key value
  | updateUiMultiplier newMultiplier effectiveAt | cancelUiMultiplierUpdate => exact ⟨rfl, rfl⟩

/-- A successful operation keeps the ledger conserved and changes the supply by
what it mints and burns. -/
theorem AssetOperation.conserved
    (hperf : operation.perform context token caller privileged = .ok after)
    (hbefore : Conserved token.core) :
    Conserved after.core ∧ after.core.totalSupply + operation.burned =
        token.core.totalSupply + operation.minted := by
  cases operation.coreEffect hperf with
  | common _ hcommon =>
    have heffect := Operation.ledgerEffect hcommon
    exact ⟨heffect.conserved hbefore, heffect.supply⟩
  | batchMint _ _ _ hlength hmints =>
    obtain ⟨hafter, hsupply⟩ := mintAll_conserved hmints hbefore
    rw [map_snd_zip hlength.ge] at hsupply
    exact ⟨hafter, hsupply⟩
  | own _ hown hcore =>
    obtain ⟨hminted, hburned⟩ := hown.minted
    rw [hminted, hburned, hcore]
    exact ⟨hbefore, rfl⟩

theorem AssetStep.conserved (hstep : AssetStep context caller privileged token after)
    (hbefore : Conserved token.core) : Conserved after.core := by
  cases hstep with
  | operation operation hperf => exact (operation.conserved hperf hbefore).1
  | announced => exact hbefore

theorem AssetCall.conserved {call : AssetCall}
    (hperf : call.perform context token caller privileged = .ok after)
    (hbefore : Conserved token.core) : Conserved after.core := by
  have hsteps := AssetCall.perform_steps hperf
  clear hperf
  induction hsteps with
  | refl => exact hbefore
  | tail _ hstep ih => exact hstep.conserved ih

end AssetEffects

/-- A request as it reaches a token. -/
structure Request (α : Type) where
  context : Context
  caller : Address
  privileged : Bool
  action : α

/-- The requests to a stablecoin one after the other; it has no operations of its
own. -/
def CoreStorage.run : CoreStorage → List (Request Operation) → CoreStorage :=
  Checked.run fun token request =>
    request.action.perform request.context token request.caller request.privileged

def AssetStorage.run : AssetStorage → List (Request AssetCall) → AssetStorage :=
  Checked.run fun token request =>
    request.action.perform request.context token request.caller request.privileged

variable {token : CoreStorage}

theorem CoreStorage.run_conserved (requests : List (Request Operation))
    (hbefore : Conserved token) :
    Conserved (token.run requests) :=
  run_invariant (fun hkeep hperf =>
      (Operation.ledgerEffect hperf).conserved hkeep)
    requests hbefore

theorem AssetStorage.run_conserved {token : AssetStorage}
    (requests : List (Request AssetCall)) (hbefore : Conserved token.core) :
    Conserved (token.run requests).core :=
  run_invariant (motive := fun token => Conserved token.core)
    (fun hkeep hperf => AssetCall.conserved hperf hkeep) requests hbefore

section Overflow

theorem Conserved.supply_le (hkeep : Conserved token) : token.totalSupply ≤ maxSupplyCap :=
  hkeep.withinCap.trans hkeep.capped

theorem Conserved.credit_le (hkeep : Conserved token) {source : Address}
    (target : Address) (henough : amount ≤ token.balances source) :
    update token.balances source (token.balances source - amount) target + amount ≤ u256Max := by
  have hmoved := balance_le_total (movedBalances token.balances source target amount) target
  rw [totalBalance_moved target henough, hkeep.total] at hmoved
  unfold movedBalances at hmoved
  rw [update_self] at hmoved
  exact (hmoved.trans hkeep.supply_le).trans (by decide)

/-- The addition to the receiver's balance always has room. -/
theorem Conserved.moveBalance_ne_overflow (hkeep : Conserved token)
    (source target : Address) (amount : Nat) :
    moveBalance token source target amount ≠ .error .underOverflow := by
  intro herror
  have hother : TokenError.insufficientBalance source (token.balances source)
      amount ≠ .underOverflow := nofun
  have henough := ((ensure_bind_eq_error hother).mp herror).1
  have hok := moveBalance_eq_ok.mpr ⟨henough, hkeep.credit_le target henough, rfl⟩
  rw [hok] at herror
  cases herror

theorem checkedAdd_eq_error {left right : Nat} {error : TokenError}
    (herror : checkedAdd left right = .error error) : u256Max < left + right := by
  unfold checkedAdd at herror
  split at herror
  · assumption
  · cases herror

theorem ensureTokenRoleUnless_ne_overflow {role : TokenRole} :
    ensureTokenRoleUnless token privileged caller role ≠ .error .underOverflow := by
  unfold ensureTokenRoleUnless ensureTokenRole ensureRole ensure
  split
  · exact nofun
  split
  · exact nofun
  · exact nofun

variable {target : Address}

theorem creditRecipient_ne_overflow : creditRecipient context target ≠ .error .underOverflow := by
  unfold creditRecipient Checked.get
  split
  · exact nofun
  · exact nofun

/-- A mint overflows in the supply only, never in the receiver's balance. -/
theorem Conserved.mint_overflow (hkeep : Conserved token)
    (herror : mint context token caller privileged target amount =
      .error .underOverflow) : u256Max < token.totalSupply + amount := by
  obtain ⟨-, herror⟩ := (ensure_bind_eq_error (by exact nofun)).mp herror
  obtain ⟨-, -, herror⟩ := next_error_of_bind ensureTokenRoleUnless_ne_overflow herror
  obtain ⟨-, -, herror⟩ := next_error_of_bind creditRecipient_ne_overflow herror
  obtain ⟨-, herror⟩ := (ensure_bind_eq_error (by exact nofun)).mp herror
  rcases bind_eq_error.mp herror with hsupply | ⟨supply, hsupply, herror⟩
  · exact checkedAdd_eq_error hsupply
  · obtain ⟨hroom, herror⟩ := (ensure_bind_eq_error (by exact nofun)).mp herror
    -- the receiver holds at most the supply, so its balance has room as well
    have hheld := balance_le_total token.balances target
    rw [hkeep.total] at hheld
    rcases bind_eq_error.mp herror with hbalance | ⟨balance, -, hdone⟩
    · have hfull : u256Max < token.balances target + amount := checkedAdd_eq_error hbalance
      omega
    · cases hdone

theorem Conserved.mintAll_overflow (hkeep : Conserved token) {mints : List (Address × Nat)}
    (herror : mintAll context caller token mints = .error .underOverflow) :
    u256Max < token.totalSupply + (mints.map Prod.snd).sum := by
  induction mints generalizing token with
  | nil => cases herror
  | cons _ _ ih =>
    rw [map_cons, sum_cons]
    rcases bind_eq_error.mp herror with hmint | ⟨minted, hmint, hrest⟩
    · have hfull := hkeep.mint_overflow hmint
      omega
    · have heffect := LedgerEffect.of_mint hmint
      have hfull := ih (heffect.conserved hkeep) hrest
      have hsupply := heffect.supply
      omega

end Overflow

/-- A transfer of an account to itself. -/
def Operation.IsSelfTransfer (caller : Address) : Operation → Prop
  | .transfer target _ => target = caller
  | .transferFrom source target _ => source = target
  | .seizeWithMemo source target _ => source = target
  | _ => False

variable {after : CoreStorage}

theorem moveBalance_self (hmove : moveBalance token account account amount = .ok after) :
    after.balances = token.balances := by
  obtain ⟨henough, -, rfl⟩ := moveBalance_eq_ok.mp hmove
  exact movedBalances_self henough

theorem Operation.IsSelfTransfer.balances {context : Context} {caller : Address}
    {privileged : Bool} {operation : Operation}
    (hself : operation.IsSelfTransfer caller)
    (hperf : operation.perform context token caller privileged = .ok after) :
    after.balances = token.balances := by
  cases operation with
  | transfer target =>
    obtain rfl : target = caller := hself
    exact moveBalance_self (transfer_eq_ok hperf).2.2.2
  | transferFrom source target =>
    obtain rfl : source = target := hself
    obtain ⟨-, -, -, -, moved, hmove, rfl⟩ := transferFrom_eq_ok hperf
    have hmoved : moved.balances = token.balances := moveBalance_self hmove
    exact hmoved
  | seizeWithMemo source target =>
    obtain rfl : source = target := hself
    exact moveBalance_self (seizeWithMemo_eq_ok hperf).2.2.2.2.2.2
  | _ => exact hself.elim

/-- The additions to a balance that the operations check never fail: a move always
has room, and a mint fails only where the supply itself has none. -/
structure BalancesHaveRoom (token : CoreStorage) : Prop where
  move (source target : Address) (amount : Nat) :
    moveBalance token source target amount ≠ .error .underOverflow
  mint (context : Context) (caller : Address) (privileged : Bool)
    (target : Address) (amount : Nat) :
    B20.mint context token caller privileged target amount =
      .error .underOverflow → u256Max < token.totalSupply + amount
  mintAll (context : Context) (caller : Address) (mints : List (Address × Nat)) :
    B20.mintAll context caller token mints = .error .underOverflow →
      u256Max < token.totalSupply + (mints.map Prod.snd).sum

theorem Conserved.haveRoom (hkeep : Conserved token) : BalancesHaveRoom token where
  move := hkeep.moveBalance_ne_overflow
  mint _ _ _ _ _ := hkeep.mint_overflow
  mintAll _ _ _ := hkeep.mintAll_overflow

/-- Asset tokens and stablecoins conserve their supply over every run, whoever makes
the requests; each operation changes the supply by what it mints and burns, which is
nothing for most of them. -/
theorem supply_conserved {asset : AssetStorage} {coin : CoreStorage}
    (hasset : Conserved asset.core) (hcoin : Conserved coin)
    (requests : List (Request AssetCall))
    (coinRequests : List (Request Operation)) :
    (Conserved (asset.run requests).core ∧
      BalancesHaveRoom (asset.run requests).core ∧
      ∀ context caller privileged operation after,
        AssetOperation.perform context (asset.run requests) caller privileged
            operation = .ok after →
          Conserved after.core ∧
          after.core.totalSupply + operation.burned =
              (asset.run requests).core.totalSupply + operation.minted ∧
            ∀ common, operation = .common common →
              common.IsSelfTransfer caller →
              after.core.balances = (asset.run requests).core.balances) ∧
    (Conserved (coin.run coinRequests) ∧
      BalancesHaveRoom (coin.run coinRequests) ∧
      ∀ context caller privileged operation after,
        Operation.perform context (coin.run coinRequests) caller privileged
            operation = .ok after →
          Conserved after ∧
          after.totalSupply + operation.burned =
              (coin.run coinRequests).totalSupply + operation.minted ∧
            (operation.IsSelfTransfer caller →
              after.balances = (coin.run coinRequests).balances)) := by
  have hassetRun := AssetStorage.run_conserved requests hasset
  have hcoinRun := CoreStorage.run_conserved coinRequests hcoin
  refine ⟨⟨hassetRun, hassetRun.haveRoom, ?_⟩, hcoinRun, hcoinRun.haveRoom, ?_⟩
  · intro context caller privileged operation after hperform
    obtain ⟨hafter, hsupply⟩ := operation.conserved hperform hassetRun
    refine ⟨hafter, hsupply, ?_⟩
    rintro common rfl hself
    obtain ⟨core, hcommon, hdone⟩ := Checked.bind_eq_ok.mp hperform
    cases hdone
    exact hself.balances hcommon
  · intro context caller privileged operation after hperform
    have heffect := Operation.ledgerEffect hperform
    exact ⟨heffect.conserved hcoinRun, heffect.supply, fun hself => hself.balances hperform⟩

/-- A token nobody holds, with the largest cap. -/
def emptyCore : CoreStorage where
  name := []
  symbol := []
  contractUri := []
  totalSupply := 0
  balances _ := 0
  allowances _ _ := 0
  roles _ _ := false
  roleAdmins _ := default
  adminCount := 0
  policyIds _ := 0
  paused := 0
  supplyCap := maxSupplyCap
  nonces _ := 0

theorem emptyCore_conserved : Conserved emptyCore where
  total := Finset.sum_const_zero
  withinCap := Nat.zero_le _
  capped := le_rfl

/-- The factory's mint of five units to the first account. -/
def mintFive : Request Operation where
  context := ⟨default, 0, 0, fun _ _ => true, fun _ => true, fun _ => default, fun _ _ _ _ => none⟩
  caller := default
  privileged := true
  action := .mint ⟨beBytes 20 1, beBytes_address_one⟩ 5

theorem supply_conserved_mint :
    (emptyCore.run [mintFive]).totalSupply = 5 ∧
      Conserved (emptyCore.run [mintFive]) :=
  ⟨by decide +kernel, (@supply_conserved ⟨emptyCore, 0, 0, 0, fun _ => false, fun _ => []⟩ _
      emptyCore_conserved emptyCore_conserved [] _).2.1⟩

end B20

end BaseChain
