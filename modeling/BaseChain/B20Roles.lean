/-
Roles of an asset token: the count of default admins is the number of their holders,
the last of them leaves only on purpose, and a token without admins has frozen roles.
-/
import BaseChain.B20Supply

namespace BaseChain

open Checked Function B20.CoreStorage B20.TokenRole

namespace B20

/-- The accounts that hold the default admin role. -/
noncomputable def admins (core : CoreStorage) : Finset Address :=
  Finset.univ.filter fun account =>
    core.roles defaultAdmin.id account = true

theorem mem_admins {core : CoreStorage} {account : Address} : account ∈ admins core ↔
      core.roles defaultAdmin.id account = true := by
  unfold admins
  rw [Finset.mem_filter]
  exact and_iff_right (Finset.mem_univ account)

/-- The counter is the number of holders. -/
def AdminsCounted (core : CoreStorage) : Prop := core.adminCount = (admins core).card

theorem SameRoles.refl (token : CoreStorage) : SameRoles token token := ⟨rfl, rfl, rfl⟩

theorem SameRoles.trans {token middle after : CoreStorage}
    (hfirst : SameRoles token middle) (hsecond : SameRoles middle after) :
    SameRoles token after :=
  ⟨hsecond.roles.trans hfirst.roles, hsecond.roleAdmins.trans hfirst.roleAdmins,
    hsecond.adminCount.trans hfirst.adminCount⟩

/-- What a successful operation does to the roles. -/
inductive RoleEffect (token after : CoreStorage) (caller : Address)
    (privileged : Bool) : Operation → Prop
  | grant (role : B256) (account : Address)
      (hadmins : role = defaultAdmin.id ∨ privileged = false → token.adminCount ≠ 0)
      (hgrant : grantRoleUnchecked token role account = .ok after) :
      RoleEffect token after caller privileged (.grantRole role account)
  | revoke (role : B256) (account : Address)
      (havailable : RoleAdminAvailable token caller privileged role)
      (hnotLast : role = defaultAdmin.id → token.roles role account = true → token.adminCount ≠ 1)
      (hrevoke : revokeRoleUnchecked token role account = .ok after) :
      RoleEffect token after caller privileged (.revokeRole role account)
  | renounce (role : B256)
      (hnotLast : role = defaultAdmin.id → token.roles role caller = true → token.adminCount ≠ 1)
      (hrevoke : revokeRoleUnchecked token role caller = .ok after) :
      RoleEffect token after caller privileged (.renounceRole role caller)
  | renounceLast
      (hheld : token.roles defaultAdmin.id caller = true)
      (hsole : token.adminCount = 1)
      (hrevoke : revokeRoleUnchecked token defaultAdmin.id caller = .ok after) :
      RoleEffect token after caller privileged .renounceLastAdmin
  | roleAdmin (role newAdminRole : B256)
      (havailable : RoleAdminAvailable token caller privileged role)
      (hafter : after = { token with
        roleAdmins := Function.update token.roleAdmins role newAdminRole }) :
      RoleEffect token after caller privileged (.setRoleAdmin role newAdminRole)
  | same (operation : Operation) (hsame : SameRoles token after) :
      RoleEffect token after caller privileged operation

variable {context : Context} {token after : CoreStorage} {caller : Address} {privileged : Bool}
  {operation : Operation}

section Effects

variable {amount : Nat} {target source : Address}

theorem SameRoles.of_moveBalance (hmove : moveBalance token source target amount = .ok after) :
    SameRoles token after := by
  obtain ⟨-, -, rfl⟩ := moveBalance_eq_ok.mp hmove
  exact ⟨rfl, rfl, rfl⟩

theorem SameRoles.of_burnInner (hburn : burnInner token source amount = .ok after) :
    SameRoles token after := by
  obtain ⟨-, -, rfl⟩ := burnInner_eq_ok hburn
  exact ⟨rfl, rfl, rfl⟩

theorem SameRoles.of_mint (hmint : mint context token caller privileged target amount = .ok after) :
    SameRoles token after := by
  obtain ⟨-, -, -, -, -, rfl⟩ := mint_eq_ok hmint
  exact ⟨rfl, rfl, rfl⟩

theorem SameRoles.of_mintAll {mints : List (Address × Nat)}
    (hmints : mintAll context caller token mints = .ok after) :
    SameRoles token after := by
  induction mints generalizing token with
  | nil =>
    cases hmints
    exact .refl _
  | cons _ _ ih =>
    obtain ⟨minted, hmint, hrest⟩ := bind_eq_ok.mp hmints
    exact (SameRoles.of_mint hmint).trans (ih hrest)

theorem Operation.roleEffect
    (hperform : operation.perform context token caller privileged = .ok after) :
    RoleEffect token after caller privileged operation := by
  cases operation with
  | transfer => exact .same _ (.of_moveBalance (transfer_eq_ok hperform).2.2.2)
  | transferFrom =>
    obtain ⟨-, -, -, -, moved, hmove, rfl⟩ := transferFrom_eq_ok hperform
    have hsame := SameRoles.of_moveBalance hmove
    exact .same _ ⟨hsame.roles, hsame.roleAdmins, hsame.adminCount⟩
  | approve =>
    obtain ⟨-, -, rfl⟩ := approve_eq_ok hperform
    exact .same _ ⟨rfl, rfl, rfl⟩
  | mint => exact .same _ (.of_mint hperform)
  | burn => exact .same _ (.of_burnInner (burn_eq_ok hperform).2.2)
  | burnBlocked => exact .same _ (.of_burnInner (burnBlocked_eq_ok hperform).2.2.2)
  | seizeWithMemo => exact .same _ (.of_moveBalance (seizeWithMemo_eq_ok hperform).2.2.2.2.2.2)
  | grantRole role account =>
    obtain ⟨hadmins, -, hgrant⟩ := grantRole_eq_ok hperform
    exact .grant role account hadmins hgrant
  | revokeRole role account =>
    obtain ⟨hopen, hnotLast, hrevoke⟩ := revokeRole_eq_ok hperform
    exact .revoke role account hopen hnotLast hrevoke
  | renounceRole role =>
    obtain ⟨rfl, hnotLast, hrevoke⟩ := renounceRole_eq_ok hperform
    exact .renounce role hnotLast hrevoke
  | renounceLastAdmin =>
    obtain ⟨hheld, hsole, hrevoke⟩ := renounceLastAdmin_eq_ok hperform
    exact .renounceLast hheld hsole hrevoke
  | setRoleAdmin role newAdminRole =>
    obtain ⟨hopen, hafter⟩ := setRoleAdmin_eq_ok hperform
    exact .roleAdmin role newAdminRole hopen hafter
  | permit =>
    obtain ⟨-, rfl⟩ := permit_eq_ok hperform
    exact .same _ ⟨rfl, rfl, rfl⟩
  | _ => exact .same _ (Operation.sets hperform trivial).2

end Effects

variable {role : B256} {account : Address}

section Counting

theorem SameRoles.counted (hsame : SameRoles token after)
    (hcounted : AdminsCounted token) : AdminsCounted after := by
  unfold AdminsCounted admins
  rw [hsame.adminCount, hsame.roles]
  exact hcounted

theorem admins_setRole (enabled : Bool) : admins (token.setRole role account enabled) =
      if role = defaultAdmin.id then
        if enabled then insert account (admins token) else (admins token).erase account
      else admins token := by
  ext other
  split
  · rename_i hrole
    rw [mem_admins, hrole]
    simp only [setRole, update_self]
    by_cases hother : other = account
    · subst hother
      cases enabled with
      | true | false => simp
    · rw [update_of_ne hother, ← mem_admins]
      cases enabled with
      | true | false => simp [hother]
  · rename_i hrole
    rw [mem_admins, mem_admins]
    simp [setRole, update_of_ne (Ne.symm hrole)]

/-- A role that is given or taken counts an admin in or out, and no other account. -/
theorem AdminsCounted.setRole (hcounted : AdminsCounted token) {enabled : Bool}
    (hbefore : token.roles role account = !enabled) :
    AdminsCounted { token.setRole role account enabled with
      adminCount := countedAdmins role token.adminCount
        (if enabled then token.adminCount + 1 else token.adminCount - 1) } := by
  change _ = (admins (token.setRole role account enabled)).card
  rw [admins_setRole]
  unfold countedAdmins
  split
  · rename_i hrole
    subst hrole
    cases enabled with
    | true =>
      have hfresh : account ∉ admins token := by simp [mem_admins, hbefore]
      simp [Finset.card_insert_of_notMem hfresh, hcounted.symm]
    | false => simp [Finset.card_erase_of_mem (mem_admins.mpr hbefore), hcounted.symm]
  · exact hcounted

theorem grantRoleUnchecked_counted (hgrant : grantRoleUnchecked token role account = .ok after)
    (hcounted : AdminsCounted token) : AdminsCounted after := by
  rcases grantRoleUnchecked_eq_ok hgrant with ⟨-, rfl⟩ | ⟨hmissing, rfl⟩
  · exact hcounted
  · exact hcounted.setRole hmissing

theorem revokeRoleUnchecked_counted (hrevoke : revokeRoleUnchecked token role account = .ok after)
    (hcounted : AdminsCounted token) : AdminsCounted after := by
  rcases revokeRoleUnchecked_eq_ok hrevoke with ⟨-, rfl⟩ | ⟨hheld, rfl⟩
  · exact hcounted
  · exact hcounted.setRole hheld

end Counting

section Creation

/-- The storage of an asset token when its creation starts; the multiplier is unset. -/
def AssetStorage.initialize (name symbol : Bytes) : AssetStorage where
  core := { emptyCore with name, symbol }
  multiplierSlot := 0
  pendingMultiplier := 0
  pendingEffectiveAt := 0
  usedAnnouncementIds _ := false
  extraMetadata _ := []

/-- The factory's calls, all of them privileged; the first failure ends the
creation. -/
def runInitCalls (context : Context) (factory : Address) (token : AssetStorage) :
    List AssetCall → Except TokenError AssetStorage
  | [] => return token
  | call :: rest => do
      let after ← call.perform context token factory true
      runInitCalls context factory after rest

/-- The initial admin of a new token; the zero address stands for none. -/
def grantInitialAdmin (core : CoreStorage) (initialAdmin : Address) :
    Except TokenError CoreStorage :=
  if initialAdmin ≠ default then
    grantRoleUnchecked core defaultAdmin.id initialAdmin
  else .ok core

def initAssetToken (context : Context) (factory : Address) (name symbol : Bytes)
    (initialAdmin : Address) (initCalls : List AssetCall) :
    Except TokenError AssetStorage := do
  let token := AssetStorage.initialize name symbol
  let core ← grantInitialAdmin token.core initialAdmin
  runInitCalls context factory { token with core } initCalls

end Creation

/-- One change of a token, whoever made it. -/
def AnyStep (token after : AssetStorage) : Prop :=
  ∃ context caller privileged, AssetStep context caller privileged token after

section Runs

variable {token after : AssetStorage}

theorem AssetCall.perform_anySteps {call : AssetCall}
    (hperform : call.perform context token caller privileged = .ok after) :
    Relation.ReflTransGen AnyStep token after :=
  Relation.ReflTransGen.mono (fun _ _ hstep => ⟨context, caller, privileged, hstep⟩) _ _
    (AssetCall.perform_steps hperform)

variable {factory : Address}

theorem runInitCalls_steps {calls : List AssetCall}
    (hcalls : runInitCalls context factory token calls = .ok after) :
    Relation.ReflTransGen AnyStep token after := by
  induction calls generalizing token with
  | nil =>
    cases hcalls
    exact .refl
  | cons _ _ ih =>
    obtain ⟨middle, hperform, hrest⟩ := bind_eq_ok.mp hcalls
    exact (AssetCall.perform_anySteps hperform).trans (ih hrest)

theorem Operation.counted {token after : CoreStorage}
    (hperform : operation.perform context token caller privileged = .ok after)
    (hcounted : AdminsCounted token) : AdminsCounted after := by
  cases operation.roleEffect hperform with
  | grant _ _ _ hgrant => exact grantRoleUnchecked_counted hgrant hcounted
  | revoke role account hopen hnotLast hrevoke
  | renounce role hnotLast hrevoke | renounceLast hheld hsole hrevoke =>
    exact revokeRoleUnchecked_counted hrevoke hcounted
  | roleAdmin _ _ _ hafter =>
    subst hafter
    exact hcounted
  | same _ hsame => exact hsame.counted hcounted

theorem AnyStep.counted (hstep : AnyStep token after)
    (hcounted : AdminsCounted token.core) : AdminsCounted after.core := by
  obtain ⟨context, caller, privileged, hstep⟩ := hstep
  cases hstep with
  | operation operation hperform =>
    cases operation.coreEffect hperform with
    | common operation hcommon => exact operation.counted hcommon hcounted
    | batchMint _ _ _ _ hmints =>
      exact (SameRoles.of_mintAll hmints).counted hcounted
    | own _ _ hcore =>
      rw [hcore]
      exact hcounted
  | announced => exact hcounted

theorem counted_of_steps (hsteps : Relation.ReflTransGen AnyStep token after)
    (hcounted : AdminsCounted token.core) : AdminsCounted after.core := by
  induction hsteps with
  | refl => exact hcounted
  | tail _ hstep ih => exact hstep.counted ih

variable {name symbol : Bytes}

theorem emptyCore_counted : AdminsCounted ( AssetStorage.initialize name symbol).core := by
  have hnone : admins ( AssetStorage.initialize name symbol).core = ∅ := by
    ext account
    rw [mem_admins]
    exact ⟨fun habsurd => absurd habsurd Bool.false_ne_true,
      fun habsurd => absurd habsurd (Finset.notMem_empty account)⟩
  unfold AdminsCounted
  rw [hnone]
  rfl

theorem initAssetToken_counted {initialAdmin : Address} {initCalls : List AssetCall}
    (hcreate : initAssetToken context factory name symbol initialAdmin initCalls =
      .ok token) : AdminsCounted token.core := by
  obtain ⟨core, hcore, hcalls⟩ := bind_eq_ok.mp hcreate
  refine counted_of_steps (runInitCalls_steps hcalls) ?_
  unfold grantInitialAdmin at hcore
  split at hcore
  · exact grantRoleUnchecked_counted hcore emptyCore_counted
  · cases hcore
    exact emptyCore_counted

end Runs

section Frozen

variable {after : CoreStorage} {token : CoreStorage}

theorem grantRoleUnchecked_adminCount (hgrant : grantRoleUnchecked token role account = .ok after) :
    token.adminCount ≤ after.adminCount := by
  rcases grantRoleUnchecked_eq_ok hgrant with ⟨-, rfl⟩ | ⟨-, rfl⟩
  · exact le_rfl
  · unfold countedAdmins
    split
    · exact Nat.le_succ _
    · exact le_rfl

/-- Taking a role empties the admins only when it takes it from the last one. -/
theorem revokeRoleUnchecked_adminCount
    (hrevoke : revokeRoleUnchecked token role account = .ok after)
    (hnotLast : role = defaultAdmin.id → token.roles role account = true → token.adminCount ≠ 1)
    (hsome : token.adminCount ≠ 0) : after.adminCount ≠ 0 := by
  rcases revokeRoleUnchecked_eq_ok hrevoke with ⟨-, rfl⟩ | ⟨hheld, rfl⟩
  · exact hsome
  · change countedAdmins _ _ _ ≠ 0
    unfold countedAdmins
    split
    · rename_i hrole
      have hmore := hnotLast hrole hheld
      omega
    · exact hsome

theorem admins_eq_singleton (hcounted : AdminsCounted token)
    (hheld : token.roles defaultAdmin.id caller = true)
    (hsole : token.adminCount = 1) : admins token = {caller} := by
  obtain ⟨admin, hadmin⟩ := Finset.card_eq_one.mp (hcounted.symm.trans hsole)
  have hmember := mem_admins.mpr hheld
  rw [hadmin, Finset.mem_singleton] at hmember
  rw [hadmin, hmember]

variable {operation : Operation}
  (hperform : operation.perform context token caller privileged = .ok after)

include hperform in
theorem Operation.last_admin (hcounted : AdminsCounted token) (hsome : token.adminCount ≠ 0)
    (hnone : after.adminCount = 0) :
    operation = .renounceLastAdmin ∧ admins token = {caller} := by
  cases operation.roleEffect hperform with
  | grant _ _ _ hgrant =>
    have hle := grantRoleUnchecked_adminCount hgrant
    omega
  | revoke role account hopen hnotLast hrevoke | renounce role hnotLast hrevoke =>
    exact absurd hnone (revokeRoleUnchecked_adminCount hrevoke hnotLast hsome)
  | renounceLast hheld hsole => exact ⟨rfl, admins_eq_singleton hcounted hheld hsole⟩
  | roleAdmin _ _ _ hafter =>
    subst hafter
    exact absurd hnone hsome
  | same _ hsame =>
    rw [hsame.adminCount] at hnone
    exact absurd hnone hsome

/-- What stays of the roles when there is no admin: only their holders can give
them up. -/
structure RolesFrozen (caller : Address) (operation : AssetOperation)
    (token after : CoreStorage) : Prop where
  adminCount : after.adminCount = 0
  roleAdmins : after.roleAdmins = token.roleAdmins
  roles (role : B256) (account : Address) : after.roles role account ≠ token.roles role account →
    operation = .common (.renounceRole role account) ∧ account = caller ∧
      token.roles role account = true ∧ after.roles role account = false

theorem RolesFrozen.of_same {operation : AssetOperation} (hnone : token.adminCount = 0)
    (hsame : SameRoles token after) :
    RolesFrozen caller operation token after where
  adminCount := hsame.adminCount.trans hnone
  roleAdmins := hsame.roleAdmins
  roles role account hchanged := absurd (by rw [hsame.roles]) hchanged

theorem RolesFrozen.of_renounce (hnone : token.adminCount = 0)
    (hrevoke : revokeRoleUnchecked token role caller = .ok after) :
    RolesFrozen caller (.common (.renounceRole role caller)) token after := by
  rcases revokeRoleUnchecked_eq_ok hrevoke with ⟨-, rfl⟩ | ⟨hheld, rfl⟩
  · exact .of_same hnone (.refl _)
  · refine ⟨?_, rfl, ?_⟩
    · rw [hnone]
      exact ite_self 0
    · intro other account hchanged
      -- the write reached one role of one account
      simp only [setRole] at hchanged ⊢
      by_cases hrole : other = role
      · subst hrole
        rw [update_self] at hchanged ⊢
        by_cases haccount : account = caller
        · subst haccount
          exact ⟨rfl, rfl, hheld, update_self _ _ _⟩
        · rw [update_of_ne haccount] at hchanged
          exact absurd rfl hchanged
      · rw [update_of_ne hrole] at hchanged
        exact absurd rfl hchanged

include hperform in
theorem Operation.frozen (hunprivileged : privileged = false) (hnone : token.adminCount = 0) :
    RolesFrozen caller (.common operation) token after := by
  cases operation.roleEffect hperform with
  | grant _ _ hadmins => exact absurd hnone (hadmins (.inr hunprivileged))
  | revoke _ _ hopen => exact absurd hnone (hopen hunprivileged).1
  | renounce _ _ hrevoke => exact .of_renounce hnone hrevoke
  | renounceLast _ hsole =>
    rw [hnone] at hsole
    exact absurd hsole Nat.zero_ne_one
  | roleAdmin _ _ hopen => exact absurd hnone (hopen hunprivileged).1
  | same _ hsame => exact .of_same hnone hsame

theorem AssetOperation.frozen {token after : AssetStorage} {operation : AssetOperation}
    (hperform : operation.perform context token caller false = .ok after)
    (hnone : token.core.adminCount = 0) :
    RolesFrozen caller operation token.core after.core := by
  cases operation.coreEffect hperform with
  | common operation hcommon => exact operation.frozen hcommon rfl hnone
  | batchMint _ _ _ _ hmints => exact .of_same hnone (.of_mintAll hmints)
  | own _ _ hcore =>
    rw [hcore]
    exact .of_same hnone (.refl _)

end Frozen

/-- One change of a token by someone else than the factory. -/
def UnprivilegedStep (token after : AssetStorage) : Prop :=
  ∃ context caller, AssetStep context caller false token after

variable {after token : AssetStorage}

theorem UnprivilegedStep.frozen (hstep : UnprivilegedStep token after)
    (hnone : token.core.adminCount = 0) :
    after.core.adminCount = 0 ∧ after.core.roleAdmins = token.core.roleAdmins := by
  obtain ⟨context, caller, hstep⟩ := hstep
  cases hstep with
  | operation operation hperform =>
    have hfrozen := operation.frozen hperform hnone
    exact ⟨hfrozen.adminCount, hfrozen.roleAdmins⟩
  | announced => exact ⟨hnone, rfl⟩

theorem frozen_of_steps (hsteps : Relation.ReflTransGen UnprivilegedStep token after)
    (hnone : token.core.adminCount = 0) :
    after.core.adminCount = 0 ∧ after.core.roleAdmins = token.core.roleAdmins := by
  induction hsteps with
  | refl => exact ⟨hnone, rfl⟩
  | tail _ hstep ih =>
    obtain ⟨hcount, hadmins⟩ := hstep.frozen ih.1
    exact ⟨hcount, hadmins.trans ih.2⟩

theorem AssetOperation.last_admin {context : Context} {caller : Address}
    {privileged : Bool} {operation : AssetOperation}
    (hperform : operation.perform context token caller privileged = .ok after)
    (hcounted : AdminsCounted token.core) (hsome : token.core.adminCount ≠ 0)
    (hnone : after.core.adminCount = 0) :
    operation = .common .renounceLastAdmin ∧ admins token.core = {caller} := by
  cases operation.coreEffect hperform with
  | common operation hcommon =>
    obtain ⟨rfl, hsole⟩ := operation.last_admin hcommon hcounted hsome hnone
    exact ⟨rfl, hsole⟩
  | batchMint _ _ _ _ hmints =>
    rw [(SameRoles.of_mintAll hmints).adminCount] at hnone
    exact absurd hnone hsome
  | own _ _ hcore =>
    rw [hcore] at hnone
    exact absurd hnone hsome

/-- From the creation of a token on, whatever the role admins are: the counter is
the number of default admins, only the sole one's `renounceLastAdmin` takes it to
zero, and from then on nobody but the factory changes a role or a role admin, apart
from holders who give up a role of their own. -/
theorem last_admin_freezes_roles {context : Context} {factory initialAdmin : Address}
    {name symbol : Bytes} {initCalls : List AssetCall} {token state : AssetStorage}
    (hcreate : initAssetToken context factory name symbol initialAdmin initCalls =
      .ok token)
    (hsteps : Relation.ReflTransGen AnyStep token state) :
    state.core.roleMemberCount TokenRole.defaultAdmin.id =
        (admins state.core).card ∧
      (∀ context caller privileged operation after,
        AssetOperation.perform context state caller privileged operation =
          .ok after →
        state.core.adminCount ≠ 0 → after.core.adminCount = 0 →
        operation = .common .renounceLastAdmin ∧ admins state.core = {caller}) ∧
      (state.core.adminCount = 0 → ∀ later,
        Relation.ReflTransGen UnprivilegedStep state later →
        later.core.adminCount = 0 ∧
          later.core.roleAdmins = state.core.roleAdmins ∧
          ∀ context caller operation after,
            AssetOperation.perform context later caller false operation =
              .ok after →
            RolesFrozen caller operation later.core after.core) := by
  have hcounted := counted_of_steps hsteps (initAssetToken_counted hcreate)
  refine ⟨roleMemberCount_defaultAdmin.trans hcounted, ?_, ?_⟩
  · intro context caller privileged operation after hperform hsome hnone
    exact operation.last_admin hperform hcounted hsome hnone
  · intro hnone later hlater
    obtain ⟨hcount, hadmins⟩ := frozen_of_steps hlater hnone
    refine ⟨hcount, hadmins, ?_⟩
    intro context caller operation after hperform
    exact operation.frozen hperform hcount

section Sample

def firstAdmin : Address := ⟨beBytes 20 1, beBytes_address_one⟩

/-- A token that was created with one admin and nothing else. -/
def administered : AssetStorage :=
  { AssetStorage.initialize [] [] with
    core := { ( AssetStorage.initialize [] []).core.setRole
      defaultAdmin.id firstAdmin true with adminCount := 1 } }

theorem last_admin_freezes_roles_sample :
    administered.core.roleMemberCount TokenRole.defaultAdmin.id = 1 ∧
      (admins administered.core).card = 1 := by
  have hcreated := @last_admin_freezes_roles mintFive.context default firstAdmin
    [] [] [] administered administered (by rfl) .refl
  exact ⟨rfl, hcreated.1.symm⟩

end Sample

end B20

end BaseChain
