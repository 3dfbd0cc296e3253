/-
What a successful operation of the policy registry checked and what it wrote.
-/
import BaseChain.PolicyRegistry

namespace BaseChain

open Checked Function List

namespace Policy

variable (storage : Registry)

section Writes

variable (policyId : PolicyId)

theorem setMembers_eq (member : Bool) (accounts : List Address) :
    storage.setMembers policyId member accounts = { storage with
      members := Function.update storage.members policyId fun account =>
        if account ∈ accounts then member else storage.members policyId account } := by
  induction accounts generalizing storage with
  | nil => simp [Registry.setMembers]
  | cons head tail ih =>
    change (storage.setMember policyId member head).setMembers policyId member tail = _
    rw [ih]
    simp only [Registry.setMember, update_self, update_idem]
    congr 2
    funext account
    by_cases htail : account ∈ tail
    · rw [if_pos htail, if_pos (mem_cons_of_mem _ htail)]
    · by_cases hhead : account = head
      · subst hhead
        rw [if_neg htail, if_pos mem_cons_self, update_self]
      · rw [if_neg htail, update_of_ne hhead, if_neg (by simp [hhead, htail])]

end Writes

variable {policyId : PolicyId}

section Checks

variable {storage : Registry} {α : Type} {value : α} {next : PackedPolicy → Except PolicyError α}

theorem requireExistingPolicy_bind : (requireExistingPolicy storage policyId >>= next) = .ok value ↔
      (storage.policies policyId).isPresent = true ∧
        next (storage.policies policyId) = .ok value := by
  unfold requireExistingPolicy
  split
  · rename_i hpres
    exact ⟨fun hnext => ⟨hpres, hnext⟩, fun hnext => hnext.2⟩
  · rename_i hmissing
    exact ⟨nofun, fun hpres => absurd hpres.1 hmissing⟩

theorem requireAdmin_bind {caller : Address} :
    (requireAdmin storage caller policyId >>= next) = .ok value ↔
      (storage.policies policyId).isPresent = true ∧ (storage.policies policyId).admin = caller ∧
        next (storage.policies policyId) = .ok value := by
  unfold requireAdmin
  rw [bind_assoc, requireExistingPolicy_bind]
  apply and_congr_right
  intro _
  rw [bind_assoc, ensure_bind_eq_ok]
  rfl

/-- What a composite's children have passed. -/
structure ValidChildren (storage : Registry) (childPolicyIds : List PolicyId) : Prop where
  atLeast : minChildPolicies ≤ childPolicyIds.length
  atMost : childPolicyIds.length ≤ maxChildPolicies
  present : ∀ child ∈ childPolicyIds, (storage.policies (basePolicyId child)).isPresent = true
  custom : ∀ child ∈ childPolicyIds, isBuiltin (basePolicyId child) = false
  simple : ∀ child ∈ childPolicyIds, isComposite (basePolicyId child) = false

variable {childPolicyIds : List PolicyId}

theorem requireExistingChildren_eq_ok
    (hkids : requireExistingChildren storage childPolicyIds = .ok ()) :
    ∀ child ∈ childPolicyIds, (storage.policies (basePolicyId child)).isPresent = true := by
  induction childPolicyIds with
  | nil => exact nofun
  | cons head tail ih =>
    obtain ⟨hhead, htail⟩ := requireExistingPolicy_bind.mp hkids
    exact forall_mem_cons.mpr ⟨hhead, ih htail⟩

theorem requireSimpleChildren_eq_ok (hkids : requireSimpleChildren childPolicyIds = .ok ()) :
    ∀ child ∈ childPolicyIds, isBuiltin (basePolicyId child) = false ∧
        isComposite (basePolicyId child) = false := by
  induction childPolicyIds with
  | nil => exact nofun
  | cons head tail ih =>
    obtain ⟨hhead, htail⟩ := ensure_bind_eq_ok.mp hkids
    rw [not_or, Bool.not_eq_true, Bool.not_eq_true] at hhead
    exact forall_mem_cons.mpr ⟨hhead, ih htail⟩

/-- The checks of a list of children, in the order of the source. -/
theorem childChecks_bind {next : Except PolicyError α} (hchecks : (do
      requireChildPolicyInRange childPolicyIds
      validateCompositeChildPolicies storage childPolicyIds
      next) = .ok value) :
    ValidChildren storage childPolicyIds ∧ next = .ok value := by
  obtain ⟨⟨hatLeast, hatMost⟩, hchecks⟩ := ensure_bind_eq_ok.mp hchecks
  obtain ⟨⟨⟩, hvalid, hnext⟩ := bind_eq_ok.mp hchecks
  obtain ⟨⟨⟩, hpres, hsimple⟩ := bind_eq_ok.mp hvalid
  have hkinds := requireSimpleChildren_eq_ok hsimple
  exact ⟨⟨hatLeast, hatMost, requireExistingChildren_eq_ok hpres,
    fun child hchild => (hkinds child hchild).1,
    fun child hchild => (hkinds child hchild).2⟩, hnext⟩

end Checks

/-- The registry once the built-in policies are written. -/
def Registry.initialized : Registry := (ensureInitializedAndGetCounter storage).2

/-- The counter that the next policy gets. -/
def Registry.counter : Nat := (ensureInitializedAndGetCounter storage).1

/-- The registry after a policy was made. -/
def Registry.created (policyId : PolicyId) (admin : Address) :
    Registry :=
  { storage.initialized with nextCounter := storage.counter + 1 }.writePolicyWord
    policyId (.new admin)

/-- What a successful operation checked and wrote, with the id that it returns. -/
inductive RegistryEffect (storage : Registry) (caller : Address) :
    RegistryOperation → Option PolicyId → Registry → Prop
  | createPolicy (admin : Address) (policyType : PolicyType)
      (hadmin : admin ≠ default)
      (htype : policyType = .blocklist ∨ policyType = .allowlist)
      (hroom : storage.counter < counterMask) :
      RegistryEffect storage caller (.createPolicy admin policyType)
        (some (makeId policyType.discriminant storage.counter))
        (storage.created (makeId policyType.discriminant storage.counter) admin)
  | createPolicyWithAccounts (admin : Address) (policyType : PolicyType)
      (accounts : List Address) (hadmin : admin ≠ default)
      (htype : policyType = .blocklist ∨ policyType = .allowlist)
      (hbatch : accounts.length ≤ maxAccountsPerBatch)
      (hroom : storage.counter < counterMask) :
      RegistryEffect storage caller (.createPolicyWithAccounts admin policyType accounts)
        (some (makeId policyType.discriminant storage.counter))
        ((storage.created (makeId policyType.discriminant storage.counter)
          admin).setMembers (makeId policyType.discriminant storage.counter) true accounts)
  | createCompositePolicy (admin : Address) (policyType : PolicyType)
      (childPolicyIds : List PolicyId) (hadmin : admin ≠ default)
      (htype : policyType = .union ∨ policyType = .intersect)
      (hchildren : ValidChildren storage childPolicyIds)
      (hroom : storage.counter < counterMask) :
      RegistryEffect storage caller (.createCompositePolicy admin policyType childPolicyIds)
        (some (makeId policyType.discriminant storage.counter))
        ((storage.created (makeId policyType.discriminant storage.counter)
          admin).writeChildren (makeId policyType.discriminant storage.counter) childPolicyIds)
  | updateComposite (policyId : PolicyId) (childPolicyIds : List PolicyId)
      (hpresent : (storage.policies policyId).isPresent = true)
      (hcomposite : isComposite policyId = true)
      (hadmin : (storage.policies policyId).admin = caller)
      (hchildren : ValidChildren storage childPolicyIds) :
      RegistryEffect storage caller (.updateComposite policyId childPolicyIds) none
        (storage.writeChildren policyId childPolicyIds)
  | stageUpdateAdmin (policyId : PolicyId) (newAdmin : Address)
      (hpresent : (storage.policies policyId).isPresent = true)
      (hadmin : (storage.policies policyId).admin = caller) :
      RegistryEffect storage caller (.stageUpdateAdmin policyId newAdmin) none
        (storage.writePendingAdmin policyId newAdmin)
  | finalizeUpdateAdmin (policyId : PolicyId)
      (hpresent : (storage.policies policyId).isPresent = true)
      (hsome : storage.pendingAdmins policyId ≠ default)
      (hpending : storage.pendingAdmins policyId = caller) :
      RegistryEffect storage caller (.finalizeUpdateAdmin policyId) none
        ((storage.writePolicyWord policyId (.new caller)).writePendingAdmin policyId default)
  | renounceAdmin (policyId : PolicyId)
      (hpresent : (storage.policies policyId).isPresent = true)
      (hadmin : (storage.policies policyId).admin = caller) :
      RegistryEffect storage caller (.renounceAdmin policyId) none
        ((storage.writePolicyWord policyId (.new default)).writePendingAdmin policyId default)
  | updateAllowlist (policyId : PolicyId) (allowed : Bool) (accounts : List Address)
      (hpresent : (storage.policies policyId).isPresent = true)
      (htype : policyIdType policyId = PolicyType.allowlist.discriminant)
      (hadmin : (storage.policies policyId).admin = caller)
      (hbatch : accounts.length ≤ maxAccountsPerBatch) :
      RegistryEffect storage caller (.updateAllowlist policyId allowed accounts)
        none (storage.setMembers policyId allowed accounts)
  | updateBlocklist (policyId : PolicyId) (blocked : Bool) (accounts : List Address)
      (hpresent : (storage.policies policyId).isPresent = true)
      (htype : policyIdType policyId = PolicyType.blocklist.discriminant)
      (hadmin : (storage.policies policyId).admin = caller)
      (hbatch : accounts.length ≤ maxAccountsPerBatch) :
      RegistryEffect storage caller (.updateBlocklist policyId blocked accounts)
        none (storage.setMembers policyId blocked accounts)

section Effects

variable {storage after : Registry} {caller : Address} {made : Option PolicyId} {admin : Address}

theorem createPolicyInner_eq_ok {policyType : Nat}
    (hcreate : createPolicyInner storage admin policyType = .ok (policyId, after)) :
    storage.counter < counterMask ∧ policyId = makeId policyType storage.counter ∧
      after = storage.created policyId admin := by
  obtain ⟨hroom, hcreate⟩ := ensure_bind_eq_ok.mp hcreate
  cases hcreate
  exact ⟨lt_of_not_ge hroom, rfl, rfl⟩

variable {accounts : List Address}

theorem updateMembership_eq_ok {expectedType : PolicyType} {add : Bool}
    (hupdate : updateMembership storage caller policyId expectedType add accounts = .ok after) :
    (storage.policies policyId).isPresent = true ∧
      policyIdType policyId = expectedType.discriminant ∧
      (storage.policies policyId).admin = caller ∧
      accounts.length ≤ maxAccountsPerBatch ∧
      after = storage.setMembers policyId add accounts := by
  obtain ⟨hpres, hupdate⟩ := requireExistingPolicy_bind.mp hupdate
  obtain ⟨htype, hupdate⟩ := ensure_bind_eq_ok.mp hupdate
  obtain ⟨hadmin, hupdate⟩ := ensure_bind_eq_ok.mp hupdate
  obtain ⟨hbatch, hupdate⟩ := ensure_bind_eq_ok.mp hupdate
  exact ⟨hpres, htype, hadmin, hbatch, (Except.ok.inj hupdate).symm⟩

/-- The result of an operation that makes no policy. -/
theorem noneMade_eq_ok {result : Except PolicyError Registry} (hresult : (do
      let written ← result
      return ((none : Option PolicyId), written)) = .ok (made, after)) :
    made = none ∧ result = .ok after := by
  obtain ⟨written, hwritten, hpair⟩ := bind_eq_ok.mp hresult
  cases hpair
  exact ⟨rfl, hwritten⟩

theorem someMade_eq_ok {result : Except PolicyError (PolicyId × Registry)} (hresult : (do
      let (policyId, written) ← result
      return (some policyId, written)) = .ok (made, after)) :
    ∃ policyId, made = some policyId ∧ result = .ok (policyId, after) := by
  obtain ⟨⟨policyId, written⟩, hwritten, hpair⟩ := bind_eq_ok.mp hresult
  cases hpair
  exact ⟨policyId, rfl, hwritten⟩

variable {policyType : PolicyType}

theorem validateCreatePolicyInputs_bind {α : Type} {next : Nat → Except PolicyError α}
    {value : α} (hvalid : (validateCreatePolicyInputs admin policyType >>= next) = .ok value) :
    admin ≠ default ∧ (policyType = .blocklist ∨ policyType = .allowlist) ∧
      next policyType.discriminant = .ok value := by
  obtain ⟨discriminant, hchecks, hnext⟩ := bind_eq_ok.mp hvalid
  obtain ⟨hadmin, hchecks⟩ := ensure_bind_eq_ok.mp hchecks
  obtain ⟨htype, hchecks⟩ := ensure_bind_eq_ok.mp hchecks
  cases hchecks
  exact ⟨hadmin, htype, hnext⟩

theorem createPolicyWithAccounts_eq_ok
    (hcreate : createPolicyWithAccounts storage admin policyType accounts = .ok (policyId, after)) :
    admin ≠ default ∧ (policyType = .blocklist ∨ policyType = .allowlist) ∧
      accounts.length ≤ maxAccountsPerBatch ∧
      storage.counter < counterMask ∧
      policyId = makeId policyType.discriminant storage.counter ∧
      after = (storage.created policyId admin).setMembers policyId true
        accounts := by
  obtain ⟨hadmin, htype, hcreate⟩ := validateCreatePolicyInputs_bind hcreate
  obtain ⟨hbatch, hcreate⟩ := ensure_bind_eq_ok.mp hcreate
  obtain ⟨⟨madeId, created⟩, hinner, hfilled⟩ := bind_eq_ok.mp hcreate
  obtain ⟨hroom, hid, hcreated⟩ := createPolicyInner_eq_ok hinner
  have hpair : (madeId, created.setMembers madeId true accounts) = (policyId, after) := by
    rcases htype with rfl | rfl
    · exact Except.ok.inj hfilled
    · exact Except.ok.inj hfilled
  cases hpair
  exact ⟨hadmin, htype, hbatch, hroom, hid, by rw [hcreated]⟩

theorem createCompositePolicy_eq_ok {childPolicyIds : List PolicyId}
    (hcreate : createCompositePolicy storage admin policyType childPolicyIds =
      .ok (policyId, after)) :
    admin ≠ default ∧ (policyType = .union ∨ policyType = .intersect) ∧
      ValidChildren storage childPolicyIds ∧ storage.counter < counterMask ∧
      policyId = makeId policyType.discriminant storage.counter ∧
      after = (storage.created policyId admin).writeChildren policyId
        childPolicyIds := by
  obtain ⟨hadmin, hcreate⟩ := ensure_bind_eq_ok.mp hcreate
  obtain ⟨htype, hcreate⟩ := ensure_bind_eq_ok.mp hcreate
  obtain ⟨hkids, hcreate⟩ := childChecks_bind hcreate
  obtain ⟨⟨madeId, created⟩, hinner, hwritten⟩ := bind_eq_ok.mp hcreate
  obtain ⟨hroom, hid, hcreated⟩ := createPolicyInner_eq_ok hinner
  cases hwritten
  exact ⟨hadmin, htype, hkids, hroom, hid, by rw [hcreated]⟩

/-- Every successful operation has its effect, and no other one. -/
theorem RegistryOperation.effect {operation : RegistryOperation}
    (hperf : operation.perform storage caller = .ok (made, after)) :
    RegistryEffect storage caller operation made after := by
  cases operation with
  | createPolicy admin policyType =>
    obtain ⟨policyId, rfl, hcreate⟩ := someMade_eq_ok hperf
    obtain ⟨hadmin, htype, hinner⟩ := validateCreatePolicyInputs_bind hcreate
    obtain ⟨hroom, rfl, rfl⟩ := createPolicyInner_eq_ok hinner
    exact .createPolicy admin policyType hadmin htype hroom
  | createPolicyWithAccounts admin policyType accounts =>
    obtain ⟨policyId, rfl, hcreate⟩ := someMade_eq_ok hperf
    obtain ⟨hadmin, htype, hbatch, hroom, rfl, rfl⟩ := createPolicyWithAccounts_eq_ok hcreate
    exact .createPolicyWithAccounts admin policyType accounts hadmin htype hbatch hroom
  | createCompositePolicy admin policyType childPolicyIds =>
    obtain ⟨policyId, rfl, hcreate⟩ := someMade_eq_ok hperf
    obtain ⟨hadmin, htype, hkids, hroom, rfl, rfl⟩ := createCompositePolicy_eq_ok hcreate
    exact .createCompositePolicy admin policyType childPolicyIds hadmin htype hkids hroom
  | updateComposite policyId childPolicyIds =>
    obtain ⟨rfl, hupdate⟩ := noneMade_eq_ok hperf
    obtain ⟨hpres, hupdate⟩ := requireExistingPolicy_bind.mp hupdate
    obtain ⟨hcomposite, hupdate⟩ := ensure_bind_eq_ok.mp hupdate
    obtain ⟨hadmin, hupdate⟩ := ensure_bind_eq_ok.mp hupdate
    obtain ⟨hkids, hupdate⟩ := childChecks_bind hupdate
    cases hupdate
    exact .updateComposite policyId childPolicyIds hpres hcomposite hadmin hkids
  | stageUpdateAdmin policyId newAdmin =>
    obtain ⟨rfl, hstage⟩ := noneMade_eq_ok hperf
    obtain ⟨hpres, hadmin, hstage⟩ := requireAdmin_bind.mp hstage
    cases hstage
    exact .stageUpdateAdmin policyId newAdmin hpres hadmin
  | finalizeUpdateAdmin policyId =>
    obtain ⟨rfl, hfinalize⟩ := noneMade_eq_ok hperf
    obtain ⟨hpres, hfinalize⟩ := requireExistingPolicy_bind.mp hfinalize
    obtain ⟨hsome, hfinalize⟩ := ensure_bind_eq_ok.mp hfinalize
    obtain ⟨hpend, hfinalize⟩ := ensure_bind_eq_ok.mp hfinalize
    cases hfinalize
    exact .finalizeUpdateAdmin policyId hpres hsome hpend
  | renounceAdmin policyId =>
    obtain ⟨rfl, hrenounce⟩ := noneMade_eq_ok hperf
    obtain ⟨hpres, hadmin, hrenounce⟩ := requireAdmin_bind.mp hrenounce
    cases hrenounce
    exact .renounceAdmin policyId hpres hadmin
  | updateAllowlist policyId allowed accounts =>
    obtain ⟨rfl, hupdate⟩ := noneMade_eq_ok hperf
    obtain ⟨hpres, htype, hadmin, hbatch, rfl⟩ := updateMembership_eq_ok hupdate
    exact .updateAllowlist policyId allowed accounts hpres htype hadmin hbatch
  | updateBlocklist policyId blocked accounts =>
    obtain ⟨rfl, hupdate⟩ := noneMade_eq_ok hperf
    obtain ⟨hpres, htype, hadmin, hbatch, rfl⟩ := updateMembership_eq_ok hupdate
    exact .updateBlocklist policyId blocked accounts hpres htype hadmin hbatch

end Effects

end Policy

end BaseChain
