/-
What a successful token operation checked and what it wrote, one lemma for each
operation.
-/
import BaseChain.B20Token

namespace BaseChain

open Checked Function B20.CoreStorage

namespace B20

variable {context : Context} {token after : CoreStorage} {caller : Address} {privileged : Bool}
  {α : Type} {left right : Nat}

theorem checkedAdd_eq_ok {value : Nat} : checkedAdd left right = .ok value ↔
      left + right ≤ u256Max ∧ value = left + right := by
  unfold checkedAdd
  split
  · rename_i hfull
    exact ⟨nofun, fun hroom => absurd hroom.1 (not_le.mpr hfull)⟩
  · rename_i hroom
    rw [Except.ok.injEq, eq_comm]
    exact ⟨fun hvalue => ⟨le_of_not_gt hroom, hvalue⟩, And.right⟩

theorem checkedSub_eq_ok {value : Nat} :
    checkedSub left right = .ok value ↔ right ≤ left ∧ value = left - right := by
  unfold checkedSub
  split
  · rename_i hshort
    exact ⟨nofun, fun henough => absurd henough.1 (not_le.mpr hshort)⟩
  · rename_i henough
    rw [Except.ok.injEq, eq_comm]
    exact ⟨fun hvalue => ⟨le_of_not_gt henough, hvalue⟩, And.right⟩

variable {next : Unit → Except TokenError α} {value : α}

section Guards

theorem ensureNotPaused_bind {feature : PausableFeature} :
    (ensureNotPaused token feature >>= next) = .ok value ↔
      token.paused &&& feature.mask = 0 ∧ next () = .ok value :=
  ensure_bind_eq_ok

theorem ensureRole_bind : (ensureRole token caller role >>= next) = .ok value ↔
      token.roles role caller = true ∧ next () = .ok value :=
  ensure_bind_eq_ok

theorem ensureTokenRoleUnless_bind {role : TokenRole} :
    (ensureTokenRoleUnless token privileged caller role >>= next) = .ok value ↔
      (privileged = false → token.roles role.id caller = true) ∧ next () = .ok value := by
  cases privileged with
  | false =>
    have hneeded : token.roles role.id caller = true ↔
        (false = false → token.roles role.id caller = true) :=
      ⟨fun hrole _ => hrole, fun hrole => hrole rfl⟩
    exact ensureRole_bind.trans (and_congr_left' hneeded)
  | true =>
    exact (and_iff_right nofun).symm

theorem creditRecipient_bind {next : CreditRecipient context.tokenAddress → Except TokenError α} :
    (creditRecipient context target >>= next) = .ok value ↔
      ∃ hcredit : target ≠ default ∧ target ≠ context.tokenAddress,
        next ⟨target, hcredit⟩ = .ok value := by
  unfold creditRecipient CreditRecipient.recipient
  split
  · rename_i hcredit
    exact ⟨fun hnext => ⟨hcredit, hnext⟩, fun hnext => hnext.2⟩
  · rename_i hcredit
    exact ⟨nofun, fun hnext => absurd hnext.1 hcredit⟩

theorem transferSource_bind {next : NonZeroAddress → Except TokenError α} :
    (transferSource source >>= next) = .ok value ↔
      ∃ hsource : source ≠ default, next ⟨source, hsource⟩ = .ok value := by
  unfold transferSource NonZeroAddress.new
  split
  · rename_i hzero
    exact ⟨nofun, fun hnext => absurd hzero hnext.1⟩
  · rename_i hsource
    exact ⟨fun hnext => ⟨hsource, hnext⟩, fun hnext => hnext.2⟩

end Guards

/-- The balances after an amount went from one account to another. -/
def movedBalances (balances : Address → Nat) (source target : Address)
    (amount : Nat) : Address → Nat :=
  let debited := update balances source (balances source - amount)
  update debited target (debited target + amount)

variable {target source : Address} {amount : Nat}

theorem moveBalance_eq_ok : moveBalance token source target amount = .ok after ↔
      amount ≤ token.balances source ∧ update token.balances source (token.balances source - amount)
          target + amount ≤ u256Max ∧
        after = { token with
          balances := movedBalances token.balances source target amount } := by
  unfold moveBalance
  rw [ensure_bind_eq_ok]
  apply and_congr_right
  intro henough
  rw [bind_eq_ok]
  constructor
  · rintro ⟨debited, hdebited, hrest⟩
    obtain ⟨-, rfl⟩ := checkedSub_eq_ok.mp hdebited
    obtain ⟨credited, hcredited, hafter⟩ := bind_eq_ok.mp hrest
    obtain ⟨hroom, rfl⟩ := checkedAdd_eq_ok.mp hcredited
    exact ⟨hroom, (Except.ok.inj hafter).symm⟩
  · rintro ⟨hroom, rfl⟩
    refine ⟨_, checkedSub_eq_ok.mpr ⟨henough, rfl⟩, ?_⟩
    exact bind_eq_ok.mpr ⟨_, checkedAdd_eq_ok.mpr ⟨hroom, rfl⟩, rfl⟩

theorem burnInner_eq_ok (hburn : burnInner token source amount = .ok after) :
    amount ≤ token.balances source ∧ amount ≤ token.totalSupply ∧
      after = { token with
        balances := update token.balances source (token.balances source - amount),
        totalSupply := token.totalSupply - amount } := by
  obtain ⟨henough, hburn⟩ := ensure_bind_eq_ok.mp hburn
  obtain ⟨supply, hsupply, hafter⟩ := bind_eq_ok.mp hburn
  obtain ⟨hle, rfl⟩ := checkedSub_eq_ok.mp hsupply
  exact ⟨henough, hle, (Except.ok.inj hafter).symm⟩

/-- The three policies of a transfer that is not the factory's. -/
structure TransferAuthorized (context : Context) (token : CoreStorage)
    (caller source target : Address) : Prop where
  executor : context.isAuthorized (token.policyIds .transferExecutor) caller = true
  sender : context.isAuthorized (token.policyIds .transferSender) source = true
  receiver : context.isAuthorized (token.policyIds .transferReceiver) target = true

theorem checkTransferPolicies_bind (hcheck : (checkTransferPolicies context caller source target
      (transferPolicyIds token) >>= next) = .ok value) :
    TransferAuthorized context token caller source target ∧ next () = .ok value := by
  obtain ⟨⟨⟩, hcheck, hnext⟩ := bind_eq_ok.mp hcheck
  refine ⟨?_, hnext⟩
  obtain ⟨hexecutor, hcheck⟩ := ensure_bind_eq_ok.mp hcheck
  split at hcheck
  · obtain ⟨hsender, hreceiver⟩ := ensure_bind_eq_ok.mp hcheck
    exact ⟨hexecutor, hsender, ensure_eq_ok.mp hreceiver⟩
  · rename_i hskipped
    obtain ⟨hcaller, hsame⟩ := not_or.mp hskipped
    refine ⟨hexecutor, ?_, ensure_eq_ok.mp hcheck⟩
    -- the executor policy is the sender policy, and the caller the sender
    rw [not_not] at hcaller hsame
    have hsender := hexecutor
    rw [hsame, hcaller] at hsender
    exact hsender

theorem transferInner_eq_ok {source : NonZeroAddress}
    {target : CreditRecipient context.tokenAddress}
    (hinner : transferInner context token
      ⟨caller, source, target, amount, transferPolicies token privileged⟩ = .ok after) :
    (privileged = false → TransferAuthorized context token caller source target) ∧
      moveBalance token source target amount = .ok after := by
  cases privileged with
  | false =>
    obtain ⟨hauthorized, hmove⟩ := checkTransferPolicies_bind hinner
    exact ⟨fun _ => hauthorized, hmove⟩
  | true => exact ⟨nofun, hinner⟩

theorem transfer_eq_ok (htransfer : transfer context token caller privileged target amount =
      .ok after) :
    token.paused &&& PausableFeature.transfer.mask = 0 ∧
      (target ≠ default ∧ target ≠ context.tokenAddress) ∧
      (privileged = false → TransferAuthorized context token caller caller target) ∧
      moveBalance token caller target amount = .ok after := by
  obtain ⟨hpaused, htransfer⟩ := ensureNotPaused_bind.mp htransfer
  obtain ⟨hcredit, htransfer⟩ := creditRecipient_bind.mp htransfer
  obtain ⟨hsource, htransfer⟩ := transferSource_bind.mp htransfer
  exact ⟨hpaused, hcredit, transferInner_eq_ok htransfer⟩

/-- The allowance after a spender used some of it; the largest one is never used
up. -/
def spentAllowance (allowance amount : Nat) : Nat :=
  if allowance = u256Max then allowance else allowance - amount

theorem transferFrom_eq_ok (htransfer : transferFrom context token caller privileged source target
      amount = .ok after) :
    token.paused &&& PausableFeature.transfer.mask = 0 ∧
      (target ≠ default ∧ target ≠ context.tokenAddress) ∧
      (token.allowances source caller = u256Max ∨ amount ≤ token.allowances source caller) ∧
      (privileged = false → TransferAuthorized context token caller source target) ∧
      ∃ moved, moveBalance token source target amount = .ok moved ∧
        after = moved.setAllowance source caller
          (spentAllowance (token.allowances source caller) amount) := by
  obtain ⟨hpaused, htransfer⟩ := ensureNotPaused_bind.mp htransfer
  obtain ⟨hcredit, htransfer⟩ := creditRecipient_bind.mp htransfer
  obtain ⟨hsource, htransfer⟩ := transferSource_bind.mp htransfer
  obtain ⟨hallowed, htransfer⟩ := ensure_bind_eq_ok.mp htransfer
  obtain ⟨moved, hinner, hafter⟩ := bind_eq_ok.mp htransfer
  obtain ⟨hauthorized, hmove⟩ := transferInner_eq_ok hinner
  refine ⟨hpaused, hcredit, hallowed, hauthorized, moved, hmove, ?_⟩
  obtain ⟨-, -, rfl⟩ := moveBalance_eq_ok.mp hmove
  unfold spentAllowance
  split at hafter
  · rename_i hinfinite
    rw [if_pos hinfinite, ← Except.ok.inj hafter]
    simp [setAllowance]
  · rename_i hfinite
    rw [if_neg hfinite, ← Except.ok.inj hafter]

theorem approve_eq_ok {spender : Address}
    (happrove : approve token caller spender amount = .ok after) :
    caller ≠ default ∧ spender ≠ default ∧ after = token.setAllowance caller spender amount := by
  obtain ⟨hcaller, happrove⟩ := ensure_bind_eq_ok.mp happrove
  obtain ⟨hspender, happrove⟩ := ensure_bind_eq_ok.mp happrove
  exact ⟨hcaller, hspender, (Except.ok.inj happrove).symm⟩

theorem mint_eq_ok (hmint : mint context token caller privileged target amount = .ok after) :
    token.paused &&& PausableFeature.mint.mask = 0 ∧
      (privileged = false → token.roles TokenRole.mint.id caller = true) ∧
      (target ≠ default ∧ target ≠ context.tokenAddress) ∧
      context.isAuthorized (token.policyIds .mintReceiver) target = true ∧
      token.totalSupply + amount ≤ token.supplyCap ∧
      after = { token with
        totalSupply := token.totalSupply + amount,
        balances := update token.balances target (token.balances target + amount) } := by
  obtain ⟨hpaused, hmint⟩ := ensureNotPaused_bind.mp hmint
  obtain ⟨hrole, hmint⟩ := ensureTokenRoleUnless_bind.mp hmint
  obtain ⟨hcredit, hmint⟩ := creditRecipient_bind.mp hmint
  obtain ⟨hreceiver, hmint⟩ := ensure_bind_eq_ok.mp hmint
  obtain ⟨supply, hsupply, hmint⟩ := bind_eq_ok.mp hmint
  obtain ⟨-, rfl⟩ := checkedAdd_eq_ok.mp hsupply
  obtain ⟨hcap, hmint⟩ := ensure_bind_eq_ok.mp hmint
  obtain ⟨balance, hbalance, hafter⟩ := bind_eq_ok.mp hmint
  obtain ⟨-, rfl⟩ := checkedAdd_eq_ok.mp hbalance
  exact ⟨hpaused, hrole, hcredit, hreceiver, hcap, (Except.ok.inj hafter).symm⟩

theorem burn_eq_ok (hburn : burn token caller amount = .ok after) :
    token.paused &&& PausableFeature.burn.mask = 0 ∧ token.roles TokenRole.burn.id caller = true ∧
      burnInner token caller amount = .ok after := by
  obtain ⟨hpaused, hburn⟩ := ensureNotPaused_bind.mp hburn
  obtain ⟨hrole, hburn⟩ := ensureRole_bind.mp hburn
  exact ⟨hpaused, hrole, hburn⟩

theorem burnBlocked_eq_ok (hburn : burnBlocked context token caller privileged source amount =
      .ok after) :
    token.paused &&& PausableFeature.burn.mask = 0 ∧ (privileged = false →
        token.roles TokenRole.burnBlocked.id caller = true) ∧
      context.isAuthorized (token.policyIds .transferSender) source = false ∧
      burnInner token source amount = .ok after := by
  obtain ⟨hpaused, hburn⟩ := ensureNotPaused_bind.mp hburn
  obtain ⟨hrole, hburn⟩ := ensureTokenRoleUnless_bind.mp hburn
  obtain ⟨hblocked, hburn⟩ := ensure_bind_eq_ok.mp hburn
  exact ⟨hpaused, hrole, hblocked, hburn⟩

theorem seizeWithMemo_eq_ok (hseize : seizeWithMemo context token caller source target amount =
      .ok after) :
    token.paused &&& PausableFeature.seize.mask = 0 ∧ token.roles TokenRole.seize.id caller = true ∧
      (target ≠ default ∧ target ≠ context.tokenAddress) ∧
      source ≠ target ∧
      context.isAuthorized (token.policyIds .seizeExempt) source = false ∧
      context.isAuthorized (token.policyIds .seizeReceiver) target = true ∧
      moveBalance token source target amount = .ok after := by
  obtain ⟨hpaused, hseize⟩ := ensureNotPaused_bind.mp hseize
  obtain ⟨hrole, hseize⟩ := ensureRole_bind.mp hseize
  obtain ⟨hcredit, hseize⟩ := creditRecipient_bind.mp hseize
  obtain ⟨-, hseize⟩ := ensure_bind_eq_ok.mp hseize
  obtain ⟨hother, hseize⟩ := ensure_bind_eq_ok.mp hseize
  obtain ⟨hseizable, hseize⟩ := ensure_bind_eq_ok.mp hseize
  obtain ⟨hreceiver, hseize⟩ := ensure_bind_eq_ok.mp hseize
  exact ⟨hpaused, hrole, hcredit, hother, hseizable, hreceiver, hseize⟩

theorem permit_eq_ok {args : PermitArgs} (hpermit : permit context token args = .ok after) :
    args.recoverSigner context (args.signingHash context
        (domainSeparator context token) (token.nonces args.owner)) = .ok args.owner ∧
      after = { token with
        nonces := update token.nonces args.owner (token.nonces args.owner + 1),
        allowances := update token.allowances args.owner
          (update (token.allowances args.owner) args.spender args.value) } := by
  obtain ⟨-, hpermit⟩ := ensure_bind_eq_ok.mp hpermit
  obtain ⟨recovered, hrecovered, hpermit⟩ := bind_eq_ok.mp hpermit
  obtain ⟨⟨-, howner⟩, hpermit⟩ := ensure_bind_eq_ok.mp hpermit
  obtain ⟨counted, hcount, hpermit⟩ := bind_eq_ok.mp hpermit
  obtain ⟨nonce, hnonce, hcounted⟩ := bind_eq_ok.mp hcount
  obtain ⟨-, rfl⟩ := checkedAdd_eq_ok.mp hnonce
  obtain ⟨-, -, rfl⟩ := approve_eq_ok hpermit
  refine ⟨howner ▸ hrecovered, ?_⟩
  rw [← Except.ok.inj hcounted]
  rfl

variable {features allowed : List PausableFeature}

theorem pause_eq_ok (hpause : pause token caller privileged allowed features = .ok after) :
    ∃ paused, after = { token with paused } := by
  obtain ⟨-, hpause⟩ := ensure_bind_eq_ok.mp hpause
  obtain ⟨-, hpause⟩ := ensureTokenRoleUnless_bind.mp hpause
  obtain ⟨-, hpause⟩ := ensure_bind_eq_ok.mp hpause
  exact ⟨_, (Except.ok.inj hpause).symm⟩

theorem unpause_eq_ok (hunpause : unpause token caller privileged allowed features = .ok after) :
    ∃ paused, after = { token with paused } := by
  obtain ⟨-, hunpause⟩ := ensure_bind_eq_ok.mp hunpause
  obtain ⟨-, hunpause⟩ := ensureTokenRoleUnless_bind.mp hunpause
  obtain ⟨-, hunpause⟩ := ensure_bind_eq_ok.mp hunpause
  exact ⟨_, (Except.ok.inj hunpause).symm⟩

theorem updatePolicy_eq_ok {supported : List PolicyType} {policyScope : B256} {newPolicyId : Nat}
    (hupdate : updatePolicy context token caller privileged supported policyScope
      newPolicyId = .ok after) :
    ∃ policyIds, after = { token with policyIds } := by
  obtain ⟨-, hupdate⟩ := ensureTokenRoleUnless_bind.mp hupdate
  obtain ⟨policyType, -, hupdate⟩ := bind_eq_ok.mp hupdate
  obtain ⟨-, hupdate⟩ := ensure_bind_eq_ok.mp hupdate
  exact ⟨_, (Except.ok.inj hupdate).symm⟩

/-- The admin count after a role was given or taken. -/
def countedAdmins (role : B256) (adminCount counted : Nat) : Nat :=
  if role = TokenRole.defaultAdmin.id then counted else adminCount

variable {account : Address} {role : B256}
  (hgrant : grantRoleUnchecked token role account = .ok after)

include hgrant in
theorem grantRoleUnchecked_eq_ok :
    (token.roles role account = true ∧ after = token) ∨ token.roles role account = false ∧
        after = { token.setRole role account true with
          adminCount := countedAdmins role token.adminCount (token.adminCount + 1) } := by
  unfold grantRoleUnchecked at hgrant
  split at hgrant
  · rename_i hheld
    exact .inl ⟨hheld, (Except.ok.inj hgrant).symm⟩
  · rename_i hmissing
    refine .inr ⟨Bool.eq_false_iff.mpr hmissing, ?_⟩
    unfold countedAdmins
    split at hgrant
    · rename_i hadmin
      obtain ⟨count, hcount, hgrant⟩ := bind_eq_ok.mp hgrant
      obtain ⟨-, rfl⟩ := checkedAdd_eq_ok.mp hcount
      rw [if_pos hadmin, ← Except.ok.inj hgrant]
      simp only [setRoleMemberCount, roleMemberCount, if_pos hadmin]
      rfl
    · rename_i hother
      rw [if_neg hother, ← Except.ok.inj hgrant]
      rfl

variable (hrevoke : revokeRoleUnchecked token role account = .ok after)

include hrevoke in
theorem revokeRoleUnchecked_eq_ok :
    (token.roles role account = false ∧ after = token) ∨ token.roles role account = true ∧
        after = { token.setRole role account false with
          adminCount := countedAdmins role token.adminCount (token.adminCount - 1) } := by
  unfold revokeRoleUnchecked at hrevoke
  split at hrevoke
  · rename_i hmissing
    exact .inl ⟨by simpa using hmissing, (Except.ok.inj hrevoke).symm⟩
  · rename_i hheld
    refine .inr ⟨by simpa using hheld, ?_⟩
    unfold countedAdmins
    split at hrevoke
    · rename_i hadmin
      obtain ⟨count, hcount, hrevoke⟩ := bind_eq_ok.mp hrevoke
      obtain ⟨-, rfl⟩ := checkedSub_eq_ok.mp hcount
      rw [if_pos hadmin, ← Except.ok.inj hrevoke]
      simp only [setRoleMemberCount, roleMemberCount, if_pos hadmin]
      rfl
    · rename_i hother
      rw [if_neg hother, ← Except.ok.inj hrevoke]
      rfl

theorem roleMemberCount_defaultAdmin :
    token.roleMemberCount TokenRole.defaultAdmin.id = token.adminCount :=
  if_pos rfl

theorem grantRole_eq_ok (hgrant : grantRole token caller privileged role account = .ok after) :
    (role = TokenRole.defaultAdmin.id ∨ privileged = false → token.adminCount ≠ 0) ∧
      (privileged = false → token.roles (token.roleAdmins role) caller = true) ∧
      grantRoleUnchecked token role account = .ok after := by
  unfold grantRole ensureRoleAdminMutationsAvailable ensureRole at hgrant
  obtain ⟨hadmins, hgrant⟩ := ensureIf_bind_eq_ok.mp hgrant
  exact ⟨hadmins, ensureIf_bind_eq_ok.mp hgrant⟩

/-- What a change of a role by someone else than the factory requires. -/
def RoleAdminAvailable (token : CoreStorage) (caller : Address)
    (privileged : Bool) (role : B256) : Prop :=
  privileged = false → token.adminCount ≠ 0 ∧ token.roles (token.roleAdmins role) caller = true

theorem roleAdminChecks_bind {next : Except TokenError α} (hchecks : (do
      if privileged = false then
        ensureRoleAdminMutationsAvailable token caller
        ensureRole token caller (token.roleAdmins role)
      next) = .ok value) :
    RoleAdminAvailable token caller privileged role ∧ next = .ok value := by
  cases privileged with
  | true => exact ⟨nofun, hchecks⟩
  | false =>
    obtain ⟨hadmins, hchecks⟩ := ensure_bind_eq_ok.mp hchecks
    obtain ⟨hheld, hnext⟩ := ensureRole_bind.mp hchecks
    exact ⟨fun _ => ⟨hadmins, hheld⟩, hnext⟩

theorem ensureNotLastAdmin_bind
    (hcheck : (ensureNotLastAdmin token role account >>= next) = .ok value) :
    (role = TokenRole.defaultAdmin.id → token.roles role account = true →
        token.adminCount ≠ 1) ∧ next () = .ok value := by
  obtain ⟨hnotLast, hnext⟩ := ensure_bind_eq_ok.mp hcheck
  refine ⟨?_, hnext⟩
  rintro rfl hheld hsole
  exact hnotLast ⟨rfl, hheld, roleMemberCount_defaultAdmin.trans hsole⟩

theorem revokeRole_eq_ok (hrevoke : revokeRole token caller privileged role account = .ok after) :
    RoleAdminAvailable token caller privileged role ∧
      (role = TokenRole.defaultAdmin.id → token.roles role account = true → token.adminCount ≠ 1) ∧
      revokeRoleUnchecked token role account = .ok after := by
  obtain ⟨hadmins, hrevoke⟩ := roleAdminChecks_bind hrevoke
  exact ⟨hadmins, ensureNotLastAdmin_bind hrevoke⟩

theorem renounceRole_eq_ok {confirmation : Address}
    (hrenounce : renounceRole token caller role confirmation = .ok after) :
    confirmation = caller ∧ (role = TokenRole.defaultAdmin.id → token.roles role caller = true →
        token.adminCount ≠ 1) ∧
      revokeRoleUnchecked token role caller = .ok after := by
  obtain ⟨hconfirmed, hrenounce⟩ := ensure_bind_eq_ok.mp hrenounce
  exact ⟨hconfirmed, ensureNotLastAdmin_bind hrenounce⟩

theorem renounceLastAdmin_eq_ok (hrenounce : renounceLastAdmin token caller = .ok after) :
    token.roles TokenRole.defaultAdmin.id caller = true ∧ token.adminCount = 1 ∧
      revokeRoleUnchecked token TokenRole.defaultAdmin.id caller = .ok after := by
  obtain ⟨hheld, hrenounce⟩ := ensureRole_bind.mp hrenounce
  obtain ⟨hsole, hrenounce⟩ := ensure_bind_eq_ok.mp hrenounce
  exact ⟨hheld, roleMemberCount_defaultAdmin.symm.trans hsole, hrenounce⟩

theorem setRoleAdmin_eq_ok {newAdminRole : B256}
    (hset : setRoleAdmin token caller privileged role newAdminRole = .ok after) :
    RoleAdminAvailable token caller privileged role ∧
      after = { token with
        roleAdmins := update token.roleAdmins role newAdminRole } := by
  obtain ⟨hadmins, hset⟩ := roleAdminChecks_bind hset
  exact ⟨hadmins, (Except.ok.inj hset).symm⟩

/-- The operations that touch neither balances nor allowances. -/
def Operation.Administrative : Operation → Prop
  | .transfer _ _ | .transferFrom _ _ _ | .approve _ _ | .mint _ _ | .burn _
  | .burnBlocked _ _ | .seizeWithMemo _ _ _ | .permit _ => False
  | _ => True

/-- Nothing happened to what the accounts hold; the cap may have moved within its
limits. -/
structure SameLedger (token after : CoreStorage) : Prop where
  balances : after.balances = token.balances
  allowances : after.allowances = token.allowances
  totalSupply : after.totalSupply = token.totalSupply
  supplyCap : after.supplyCap = token.supplyCap ∨
    token.totalSupply ≤ after.supplyCap ∧ after.supplyCap ≤ maxSupplyCap

include hgrant in
theorem SameLedger.of_grant : SameLedger token after := by
  rcases grantRoleUnchecked_eq_ok hgrant with ⟨-, rfl⟩ | ⟨-, rfl⟩
  · exact ⟨rfl, rfl, rfl, .inl rfl⟩
  · exact ⟨rfl, rfl, rfl, .inl rfl⟩

include hrevoke in
theorem SameLedger.of_revoke : SameLedger token after := by
  rcases revokeRoleUnchecked_eq_ok hrevoke with ⟨-, rfl⟩ | ⟨-, rfl⟩
  · exact ⟨rfl, rfl, rfl, .inl rfl⟩
  · exact ⟨rfl, rfl, rfl, .inl rfl⟩

/-- Nothing happened to the roles. -/
structure SameRoles (token after : CoreStorage) : Prop where
  roles : after.roles = token.roles
  roleAdmins : after.roleAdmins = token.roleAdmins
  adminCount : after.adminCount = token.adminCount

/-- The operations that set what is neither a role nor the accounts'. -/
def Operation.Setting : Operation → Prop
  | .pause _ | .unpause _ | .updateSupplyCap _ | .updateName _ | .updateSymbol _
  | .updateContractUri _ | .updatePolicy _ _ => True
  | _ => False

variable {operation : Operation}
  (hperf : operation.perform context token caller privileged = .ok after)
include hperf

theorem Operation.sets (hsetting : operation.Setting) :
    SameLedger token after ∧ SameRoles token after := by
  cases operation with
  | pause =>
    obtain ⟨paused, rfl⟩ := pause_eq_ok hperf
    exact ⟨⟨rfl, rfl, rfl, .inl rfl⟩, rfl, rfl, rfl⟩
  | unpause =>
    obtain ⟨paused, rfl⟩ := unpause_eq_ok hperf
    exact ⟨⟨rfl, rfl, rfl, .inl rfl⟩, rfl, rfl, rfl⟩
  | updateSupplyCap =>
    obtain ⟨-, hupdate⟩ := ensureTokenRoleUnless_bind.mp hperf
    obtain ⟨hcap, hupdate⟩ := ensure_bind_eq_ok.mp hupdate
    cases hupdate
    exact ⟨⟨rfl, rfl, rfl, .inr hcap⟩, rfl, rfl, rfl⟩
  | updateName name | updateSymbol symbol | updateContractUri contractUri =>
    cases (ensureTokenRoleUnless_bind.mp hperf).2
    exact ⟨⟨rfl, rfl, rfl, .inl rfl⟩, rfl, rfl, rfl⟩
  | updatePolicy =>
    obtain ⟨policyIds, rfl⟩ := updatePolicy_eq_ok hperf
    exact ⟨⟨rfl, rfl, rfl, .inl rfl⟩, rfl, rfl, rfl⟩
  | _ => exact hsetting.elim

theorem Operation.sameLedger (hadministrative : operation.Administrative) :
    SameLedger token after := by
  cases operation with
  | grantRole => exact .of_grant (grantRole_eq_ok hperf).2.2
  | revokeRole => exact .of_revoke (revokeRole_eq_ok hperf).2.2
  | renounceRole => exact .of_revoke (renounceRole_eq_ok hperf).2.2
  | renounceLastAdmin => exact .of_revoke (renounceLastAdmin_eq_ok hperf).2.2
  | setRoleAdmin =>
    obtain ⟨-, rfl⟩ := setRoleAdmin_eq_ok hperf
    exact ⟨rfl, rfl, rfl, .inl rfl⟩
  | _ => exact (Operation.sets hperf (by trivial)).1

end B20

end BaseChain
