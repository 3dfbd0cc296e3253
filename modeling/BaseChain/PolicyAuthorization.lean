/-
What the registry answers, as sets of accounts.  A composite has lists as children and
nothing deeper, so the evaluation of any id comes to an end.
-/
import Mathlib.Data.Set.Lattice
import BaseChain.PolicyInvariant

namespace BaseChain

open Checked Function List Policy.PolicyType

namespace Policy

/-- The result is an answer, and the answer to this question. -/
def Decides (result : Except EvaluationFault Bool) (question : Prop) : Prop :=
  ∃ answer, result = .ok answer ∧ (answer = true ↔ question)

namespace Decides

variable {result : Except EvaluationFault Bool} {question : Prop}

theorem pure {answer : Bool} (hanswer : answer = true ↔ question) : Decides (.ok answer) question :=
  ⟨answer, rfl, hanswer⟩

theorem negated (hresult : Decides result question) : Decides (do
      let authorized ← result
      return !authorized) (¬ question) := by
  obtain ⟨answer, rfl, hanswer⟩ := hresult
  refine ⟨!answer, rfl, ?_⟩
  rw [← hanswer]
  simp

theorem congr {other : Prop} (hresult : Decides result question)
    (hiff : question ↔ other) : Decides result other := by
  obtain ⟨answer, hok, hanswer⟩ := hresult
  exact ⟨answer, hok, hanswer.trans hiff⟩

variable {evaluate : PolicyId → Except EvaluationFault Bool} {answers : PolicyId → Prop}
  {childPolicyIds : List PolicyId}
  (hkids : ∀ child ∈ childPolicyIds, Decides (evaluate child) (answers child))

include hkids in
theorem any :
    Decides (anyAuthorized evaluate childPolicyIds) (∃ child ∈ childPolicyIds, answers child) := by
  induction childPolicyIds with
  | nil => exact .pure (by simp)
  | cons child _ ih =>
    obtain ⟨answer, hok, hanswer⟩ := hkids child mem_cons_self
    have hrest := ih fun other hother => hkids other (mem_cons_of_mem child hother)
    unfold anyAuthorized
    rw [hok]
    cases answer with
    | true => exact .pure (by simp [hanswer.mp rfl])
    | false =>
      have hnot : ¬ answers child := fun hyes => by simpa using hanswer.mpr hyes
      exact hrest.congr (by simp [hnot])

include hkids in
theorem all :
    Decides (allAuthorized evaluate childPolicyIds) (∀ child ∈ childPolicyIds, answers child) := by
  induction childPolicyIds with
  | nil => exact .pure (by simp)
  | cons child _ ih =>
    obtain ⟨answer, hok, hanswer⟩ := hkids child mem_cons_self
    have hrest := ih fun other hother => hkids other (mem_cons_of_mem child hother)
    unfold allAuthorized
    rw [hok]
    cases answer with
    | true => exact hrest.congr (by simp [hanswer.mp rfl])
    | false =>
      have hnot : ¬ answers child := fun hyes => by simpa using hanswer.mpr hyes
      exact .pure (by simp [hnot])

end Decides

section Accounts

variable (storage : Registry) (policyId : PolicyId)

/-- The accounts of a list: its members, or everyone else. -/
def listAccounts : Set Address := if policyIdType policyId = allowlist.discriminant then
    {account | storage.members policyId account = true}
  else {account | storage.members policyId account = false}

def childAccounts (childPolicyId : PolicyId) : Set Address :=
  if isInverted childPolicyId = true then
    (listAccounts storage (basePolicyId childPolicyId))ᶜ
  else listAccounts storage childPolicyId

/-- The accounts of a policy under its own id. -/
def policyAccounts : Set Address := if policyId = alwaysAllowId then Set.univ
  else if policyId = alwaysBlockId then ∅
  else if policyIdType policyId = union.discriminant then
    ⋃ child ∈ storage.children policyId, childAccounts storage child
  else if policyIdType policyId = intersect.discriminant then
    ⋂ child ∈ storage.children policyId, childAccounts storage child
  else listAccounts storage policyId

/-- The accounts of an id, with or without the bit that turns the answer around. -/
def authorizedAccounts : Set Address := if isInverted policyId = true then
    (policyAccounts storage (basePolicyId policyId))ᶜ
  else policyAccounts storage policyId

end Accounts

section Evaluation

variable {storage : Registry} {policyId : PolicyId} {account : Address} {fuel : Nat}

theorem isWellFormed_iff : isWellFormed policyId = true ↔ policyIdType policyId ≤ 3 :=
  decide_eq_true_iff

theorem not_builtin_iff : isBuiltin policyId = false ↔
    policyId ≠ alwaysAllowId ∧ policyId ≠ alwaysBlockId := by
  unfold isBuiltin
  rw [Bool.or_eq_false_iff, beq_eq_false_iff_ne, beq_eq_false_iff_ne]

theorem not_builtin_of_inverted (hflip : isInverted policyId = true) :
    policyId ≠ alwaysAllowId ∧ policyId ≠ alwaysBlockId := by
  constructor
  · rintro rfl
    exact absurd hflip (by decide)
  · rintro rfl
    exact absurd hflip (by decide)

/-- The id of a list or a composite, without the arm that is never taken. -/
theorem isAuthorized_custom (hbuiltin : isBuiltin policyId = false)
    (hplain : isInverted policyId = false) (hwell : isWellFormed policyId = true) :
    isAuthorized storage (fuel + 1) policyId account =
      if policyIdType policyId = union.discriminant then
        anyAuthorized (fun child => isAuthorized storage fuel child account)
          (storage.children policyId)
      else if policyIdType policyId = intersect.discriminant then
        allAuthorized (fun child => isAuthorized storage fuel child account)
          (storage.children policyId)
      else if policyIdType policyId = allowlist.discriminant then
        .ok (storage.members policyId account)
      else .ok (!storage.members policyId account) := by
  obtain ⟨hallow, hblock⟩ := not_builtin_iff.mp hbuiltin
  have htype := isWellFormed_iff.mp hwell
  rw [isAuthorized, if_neg hallow, if_neg hblock, hplain, hwell]
  simp only [Bool.true_eq_false]
  -- only the arm that the source marks as unreachable is missing on the right
  have hkinds : policyIdType policyId = 0 ∨ policyIdType policyId = 1 ∨
      policyIdType policyId = 2 ∨ policyIdType policyId = 3 := by omega
  rcases hkinds with hkind | hkind | hkind | hkind
  · simp only [hkind]
    rfl
  · simp only [hkind]
    rfl
  · simp only [hkind]
    rfl
  · simp only [hkind]
    rfl

theorem isComposite_eq_false : isComposite policyId = false ↔
    policyIdType policyId ≠ union.discriminant ∧
      policyIdType policyId ≠ intersect.discriminant := by
  unfold isComposite
  rw [Bool.or_eq_false_iff, beq_eq_false_iff_ne, beq_eq_false_iff_ne]

theorem policyIdType_le_one (htype : policyIdType policyId ≤ 3)
    (hsimple : isComposite policyId = false) : policyIdType policyId ≤ 1 := by
  obtain ⟨hunion, hintersect⟩ := isComposite_eq_false.mp hsimple
  simp only [discriminant] at hunion hintersect
  omega

/-- An id whose bit is set and whose policy exists. -/
theorem isAuthorized_inverted (hflip : isInverted policyId = true)
    (hexists : policyExists storage (basePolicyId policyId) = true) :
    isAuthorized storage (fuel + 1) policyId account = (do
      let authorized ← isAuthorized storage fuel (basePolicyId policyId) account
      return !authorized) := by
  obtain ⟨hallow, hblock⟩ := not_builtin_of_inverted hflip
  rw [isAuthorized, if_neg hallow, if_neg hblock, if_pos hflip]
  dsimp only
  rw [hexists, if_neg Bool.true_eq_false.mp]

theorem isAuthorized_list (hbuiltin : isBuiltin policyId = false)
    (hplain : isInverted policyId = false) (hlist : policyIdType policyId ≤ 1) :
    Decides (isAuthorized storage (fuel + 1) policyId account)
      (account ∈ listAccounts storage policyId) := by
  have hwell : isWellFormed policyId = true := isWellFormed_iff.mpr (by omega)
  have hsimple : policyIdType policyId ≠ union.discriminant ∧
      policyIdType policyId ≠ intersect.discriminant := by
    simp only [discriminant]
    omega
  rw [isAuthorized_custom hbuiltin hplain hwell, if_neg hsimple.1, if_neg hsimple.2]
  unfold listAccounts
  split_ifs with hallowlist
  · exact .pure Iff.rfl
  · exact .pure (Bool.not_eq_true' _ ▸ Iff.rfl)

theorem policyExists_of_present (hpres : storage.Present policyId)
    (hplain : isInverted policyId = false) (hwell : isWellFormed policyId = true) :
    policyExists storage policyId = true := by
  unfold policyExists
  dsimp only
  rw [base_of_not_inverted _ hplain, hwell]
  split_ifs with hbuiltin hfalse
  · rfl
  · exact hfalse.elim
  · exact hpres

section

variable (hstorage : WellFormed storage)
include hstorage

/-- A child of a composite is a list or the inverse of one. -/
theorem isAuthorized_child (hpres : storage.Present (basePolicyId policyId))
    (hbuiltin : isBuiltin (basePolicyId policyId) = false)
    (hsimple : isComposite (basePolicyId policyId) = false) :
    Decides (isAuthorized storage (fuel + 2) policyId account)
      (account ∈ childAccounts storage policyId) := by
  have htype := (hstorage.numbered _ hpres).1
  have hlist := policyIdType_le_one htype hsimple
  unfold childAccounts
  by_cases hflip : isInverted policyId = true
  · rw [if_pos hflip, isAuthorized_inverted hflip
      (policyExists_of_present hpres (not_inverted_base _) (isWellFormed_iff.mpr htype))]
    exact (isAuthorized_list hbuiltin (not_inverted_base _) hlist).negated
  · rw [if_neg hflip]
    have hplain := Bool.eq_false_iff.mpr hflip
    rw [base_of_not_inverted _ hplain] at hbuiltin hlist
    exact isAuthorized_list hbuiltin hplain hlist

/-- What is stored as a child, whether or not the composite is in use. -/
theorem WellFormed.child (hcomposite : isComposite policyId = true) {child : PolicyId}
    (hchild : child ∈ storage.children policyId) :
    storage.Present (basePolicyId child) ∧ isBuiltin (basePolicyId child) = false ∧
      isComposite (basePolicyId child) = false := by
  by_cases hpres : storage.Present policyId
  · have hvalid := hstorage.composite policyId hpres hcomposite
    exact ⟨hvalid.present child hchild, hvalid.custom child hchild, hvalid.simple child hchild⟩
  · rw [(hstorage.unused policyId hpres).2.1] at hchild
    cases hchild

/-- An id without the bit that turns the answer around. -/
theorem isAuthorized_base
    (hplain : isInverted policyId = false) (hwell : isWellFormed policyId = true) :
    Decides (isAuthorized storage (fuel + 3) policyId account)
      (account ∈ policyAccounts storage policyId) := by
  unfold policyAccounts
  by_cases hallow : policyId = alwaysAllowId
  · rw [isAuthorized, if_pos hallow, if_pos hallow]
    exact .pure (by simp)
  by_cases hblock : policyId = alwaysBlockId
  · rw [isAuthorized, if_neg hallow, if_pos hblock, if_neg hallow, if_pos hblock]
    exact .pure (by simp)
  have hbuiltin := not_builtin_iff.mpr ⟨hallow, hblock⟩
  have hkids : isComposite policyId = true → ∀ child ∈ storage.children policyId,
        Decides (isAuthorized storage (fuel + 2) child account)
          (account ∈ childAccounts storage child) := by
    intro hcomposite child hchild
    obtain ⟨hpres, hcustom, hsimple⟩ := hstorage.child hcomposite hchild
    exact isAuthorized_child hstorage hpres hcustom hsimple
  rw [if_neg hallow, if_neg hblock]
  by_cases hunion : policyIdType policyId = union.discriminant
  · rw [isAuthorized_custom hbuiltin hplain hwell, if_pos hunion, if_pos hunion]
    have hcomposite : isComposite policyId = true := by simp [isComposite, hunion]
    exact (Decides.any (hkids hcomposite)).congr (by simp)
  by_cases hintersect : policyIdType policyId = intersect.discriminant
  · rw [isAuthorized_custom hbuiltin hplain hwell, if_neg hunion, if_pos hintersect,
      if_neg hunion, if_pos hintersect]
    have hcomposite : isComposite policyId = true := by simp [isComposite, hintersect]
    exact (Decides.all (hkids hcomposite)).congr (by simp)
  · rw [if_neg hunion, if_neg hintersect]
    exact isAuthorized_list hbuiltin hplain (policyIdType_le_one (isWellFormed_iff.mp hwell)
        (isComposite_eq_false.mpr ⟨hunion, hintersect⟩))

end

theorem policyExists_base :
    policyExists storage (basePolicyId policyId) = policyExists storage policyId := by
  unfold policyExists
  rw [base_base]

theorem isWellFormed_of_exists (hexists : policyExists storage policyId = true) :
    isWellFormed (basePolicyId policyId) = true := by
  unfold policyExists at hexists
  dsimp only at hexists
  split_ifs at hexists with hbuiltin hwell
  · rcases hbuiltin with hallow | hblock
    · rw [hallow]
      decide
    · rw [hblock]
      decide
  · exact Bool.eq_true_of_not_eq_false hwell

/-- The answer for an id that exists. -/
theorem isAuthorized_exists (hstorage : WellFormed storage)
    (hexists : policyExists storage policyId = true) :
    Decides (isAuthorized storage (fuel + 4) policyId account)
      (account ∈ authorizedAccounts storage policyId) := by
  have hwell := isWellFormed_of_exists hexists
  unfold authorizedAccounts
  by_cases hflip : isInverted policyId = true
  · rw [if_pos hflip, isAuthorized_inverted hflip (policyExists_base.trans hexists)]
    exact (isAuthorized_base hstorage (not_inverted_base _) hwell).negated
  · have hplain := Bool.eq_false_iff.mpr hflip
    rw [if_neg hflip]
    rw [base_of_not_inverted _ hplain] at hwell
    exact isAuthorized_base hstorage hplain hwell

theorem Decides.stable {results : Nat → Except EvaluationFault Bool} {question : Prop}
    (hresults : ∀ fuel, Decides (results fuel) question) :
    ∃ answer, ∀ fuel, results fuel = .ok answer := by
  obtain ⟨answer, -, hanswer⟩ := hresults 0
  refine ⟨answer, fun fuel => ?_⟩
  obtain ⟨again, hok, hagain⟩ := hresults fuel
  rw [hok, Bool.eq_iff_iff.mpr (hagain.trans hanswer.symm)]

/-- Every id gets an answer, which more depth does not change. -/
theorem isAuthorized_total (hstorage : WellFormed storage) (policyId : PolicyId)
    (account : Address) :
    ∃ answer, ∀ fuel, isAuthorized storage (fuel + 4) policyId account = .ok answer := by
  by_cases hexists : policyExists storage policyId = true
  · exact Decides.stable fun _ => isAuthorized_exists hstorage hexists
  by_cases hflip : isInverted policyId = true
  · obtain ⟨hallow, hblock⟩ := not_builtin_of_inverted hflip
    refine ⟨false, fun fuel => ?_⟩
    rw [isAuthorized, if_neg hallow, if_neg hblock, if_pos hflip]
    rw [if_pos (policyExists_base.trans (Bool.eq_false_iff.mpr hexists))]
  have hplain := Bool.eq_false_iff.mpr hflip
  by_cases hwell : isWellFormed policyId = true
  · exact Decides.stable fun _ => isAuthorized_base hstorage hplain hwell
  · refine ⟨false, fun fuel => ?_⟩
    have hmalformed := Bool.eq_false_iff.mpr hwell
    rw [isAuthorized, if_neg, if_neg, if_neg hflip, if_pos hmalformed]
    · rintro rfl
      exact hwell (by decide)
    · rintro rfl
      exact hwell (by decide)

theorem authorizedAccounts_inverted : authorizedAccounts storage (invertedPolicyId policyId) =
      (authorizedAccounts storage policyId)ᶜ := by
  unfold authorizedAccounts
  rw [inverted_base, isInverted_inverted]
  by_cases hflip : isInverted policyId = true
  · have hplain : isInverted (invertedPolicyId policyId) = false := by
      rw [isInverted_inverted, hflip]
      rfl
    rw [← base_of_not_inverted _ hplain, inverted_base]
    simp [hflip]
  · have hplain := Bool.eq_false_iff.mpr hflip
    simp [hplain, base_of_not_inverted _ hplain]

end Evaluation

section Creation

variable {storage after : Registry} {caller : Address} {policyId : PolicyId}

def RegistryOperation.givenAccounts : RegistryOperation → List Address
  | .createPolicyWithAccounts _ _ accounts => accounts
  | _ => []

def RegistryOperation.givenChildren : RegistryOperation → List PolicyId
  | .createCompositePolicy _ _ childPolicyIds => childPolicyIds
  | _ => []

variable {operation : RegistryOperation}

theorem RegistryEffect.present {made : Option PolicyId}
    (heffect : RegistryEffect storage caller operation made after)
    (hpres : storage.Present policyId) : after.Present policyId := by
  cases heffect with
  | createPolicy => exact present_created.mpr (.inr (present_of_initialized hpres))
  | createPolicyWithAccounts =>
    rw [setMembers_eq]
    exact present_created.mpr (.inr (present_of_initialized hpres))
  | createCompositePolicy => exact present_created.mpr (.inr (present_of_initialized hpres))
  | finalizeUpdateAdmin | renounceAdmin => exact present_writePolicyWord.mpr (.inr hpres)
  | updateComposite | stageUpdateAdmin => exact hpres
  | updateAllowlist | updateBlocklist =>
    rw [setMembers_eq]
    exact hpres

theorem Registry.run_present (requests : List RegistryRequest)
    (hpres : storage.Present policyId) :
    (storage.run requests).Present policyId := by
  refine run_invariant (motive := (Registry.Present · policyId)) ?_ requests hpres
  intro state request next hstate hperf
  obtain ⟨made, hok⟩ := perform_of_map hperf
  exact (RegistryOperation.effect hok).present hstate

/-- A new policy, as its creation leaves it. -/
structure Created (storage : Registry) (operation : RegistryOperation)
    (policyId : PolicyId) (after : Registry) : Prop where
  fresh : policyExists storage policyId = false
  present : after.Present policyId
  members : ∀ account, after.members policyId account = true ↔ account ∈ operation.givenAccounts
  children : after.children policyId = operation.givenChildren

variable {policyType : Nat}

theorem not_builtin_makeId (htype : policyType ≤ 3) (hroom : storage.counter < counterMask) :
    isBuiltin (makeId policyType storage.counter) = false := by
  rw [Bool.eq_false_iff]
  intro hbuiltin
  have hsmall := (builtin_numbered hbuiltin).2.1
  rw [makeId_counter htype (counter_lt_of_room hroom)] at hsmall
  exact absurd builtinCount_le_counter (not_le.mpr hsmall)

variable (hstorage : WellFormed storage)

include hstorage in
theorem not_exists_makeId (htype : policyType ≤ 3) (hroom : storage.counter < counterMask) :
    policyExists storage (makeId policyType storage.counter) = false := by
  have hplain := not_inverted_makeId htype (counter_lt_of_room hroom)
  have hnew : ¬ storage.Present (makeId policyType storage.counter) :=
    fun hused => made_not_present hstorage htype hroom (present_of_initialized hused)
  unfold policyExists
  dsimp only
  rw [base_of_not_inverted _ hplain, if_neg]
  · split_ifs with hwell
    · rfl
    · exact Bool.eq_false_iff.mpr hnew
  · obtain ⟨hallow, hblock⟩ := not_builtin_iff.mp (not_builtin_makeId htype hroom)
    exact fun hbuiltin => hbuiltin.elim hallow hblock

include hstorage in
/-- A policy starts with neither members nor children. -/
theorem WellFormed.created_new (kind : PolicyType) (admin : Address)
    (hroom : storage.counter < counterMask) :
    Created storage (.createPolicy admin kind) (makeId kind.discriminant storage.counter)
      (storage.created (makeId kind.discriminant storage.counter) admin) := by
  obtain ⟨hmembers, hkids, -⟩ := created_fields
  have htype := discriminant_le kind
  obtain ⟨hnone, hempty, -⟩ := hstorage.unused _ fun hused =>
    made_not_present hstorage htype hroom (present_of_initialized hused)
  refine ⟨not_exists_makeId hstorage htype hroom, present_created.mpr (.inl rfl),
    fun account => ?_, ?_⟩
  · rw [hmembers, hnone]
    exact ⟨nofun, nofun⟩
  · rw [hkids, hempty]
    rfl

theorem RegistryEffect.created
    (heffect : RegistryEffect storage caller operation (some policyId) after)
    (hstorage : WellFormed storage) :
    Created storage operation policyId after := by
  cases heffect with
  | createPolicy admin kind _ _ hroom => exact hstorage.created_new kind admin hroom
  | createPolicyWithAccounts admin kind _ _ _ _ hroom =>
    obtain ⟨hfresh, hpres, hmembers, hkids⟩ := hstorage.created_new kind admin hroom
    rw [setMembers_eq]
    refine ⟨hfresh, hpres, fun account => ?_, hkids⟩
    simp only [update_self, ite_eq_left_iff, hmembers]
    exact or_iff_not_imp_left.symm.trans (or_iff_left nofun)
  | createCompositePolicy admin kind _ _ _ _ hroom =>
    obtain ⟨hfresh, hpres, hmembers, -⟩ := hstorage.created_new kind admin hroom
    exact ⟨hfresh, hpres, hmembers, update_self _ _ _⟩

include hstorage in
theorem WellFormed.not_inverted
    (hpres : storage.Present policyId) : isInverted policyId = false := by
  have htype := (hstorage.numbered policyId hpres).1
  rw [policyIdType_eq] at htype
  rw [Bool.eq_false_iff, Ne, isInverted_iff]
  omega

include hstorage in
theorem WellFormed.exists_of_present
    (hpres : storage.Present policyId) : policyExists storage policyId = true :=
  policyExists_of_present hpres (hstorage.not_inverted hpres)
    (isWellFormed_iff.mpr (hstorage.numbered policyId hpres).1)

/-- No creation returns the id of a policy that is there. -/
theorem RegistryEffect.made_ne {made : PolicyId}
    (heffect : RegistryEffect storage caller operation (some made) after)
    (hstorage : WellFormed storage) (hpres : storage.Present policyId) :
    made ≠ policyId := by
  rintro rfl
  have hfresh := (heffect.created hstorage).fresh
  rw [hstorage.exists_of_present hpres] at hfresh
  exact Bool.false_ne_true hfresh.symm

include hstorage in
theorem isAuthorized_toggled (hexists : policyExists storage policyId = true) (account : Address)
    (fuel : Nat) :
    isAuthorized storage (fuel + 4) (invertedPolicyId policyId) account =
      (isAuthorized storage (fuel + 4) policyId account).map (! ·) := by
  have htoggled : policyExists storage (invertedPolicyId policyId) = true := by
    rw [← policyExists_base, inverted_base, policyExists_base]
    exact hexists
  obtain ⟨answer, hok, hanswer⟩ := @isAuthorized_exists _ _ account fuel hstorage hexists
  obtain ⟨turned, hturned, hiff⟩ := @isAuthorized_exists _ _ account fuel hstorage htoggled
  rw [authorizedAccounts_inverted, Set.mem_compl_iff, ← hanswer] at hiff
  have hnot : turned = !answer := Bool.eq_iff_iff.mpr (hiff.trans (by simp))
  rw [hok, hturned, hnot]
  rfl

/-- What the registry answers in any state it can get to: composites hold lists and
inverses of lists, every id gets an answer, the answer is membership in the accounts
of the id, and a new id is a new policy with what it was given. -/
theorem authorization_semantics (requests : List RegistryRequest) :
    (∀ policyId, (Registry.empty.run requests).Present policyId →
      isComposite policyId = true →
      ValidChildren (Registry.empty.run requests)
        ((Registry.empty.run requests).children policyId)) ∧
    (∀ policyId account, ∃ answer, ∀ fuel, 4 ≤ fuel →
      isAuthorized (Registry.empty.run requests) fuel policyId account =
        .ok answer) ∧
    (∀ policyId account fuel,
      policyExists (Registry.empty.run requests) policyId = true → 4 ≤ fuel →
      Decides (isAuthorized (Registry.empty.run requests) fuel policyId account)
        (account ∈ authorizedAccounts (Registry.empty.run requests) policyId) ∧
      isAuthorized (Registry.empty.run requests) fuel (invertedPolicyId policyId)
          account =
        (isAuthorized (Registry.empty.run requests) fuel policyId account).map
          (! ·)) ∧
    ∀ caller operation policyId after,
      RegistryOperation.perform (Registry.empty.run requests) caller operation =
        .ok (some policyId, after) →
      Created (Registry.empty.run requests) operation policyId after ∧
        ∀ later caller operation made final,
          RegistryOperation.perform (after.run later) caller operation =
            .ok (some made, final) → made ≠ policyId := by
  have hstorage := Registry.run_wellFormed requests WellFormed.empty
  refine ⟨hstorage.composite, ?_, ?_, ?_⟩
  · intro policyId account
    obtain ⟨answer, hanswer⟩ := isAuthorized_total hstorage policyId account
    refine ⟨answer, fun fuel hfuel => ?_⟩
    obtain ⟨extra, rfl⟩ := Nat.exists_eq_add_of_le' hfuel
    exact hanswer extra
  · intro policyId account fuel hexists hfuel
    obtain ⟨extra, rfl⟩ := Nat.exists_eq_add_of_le' hfuel
    exact ⟨isAuthorized_exists hstorage hexists,
      isAuthorized_toggled hstorage hexists account extra⟩
  · intro caller operation policyId after hperform
    have heffect := RegistryOperation.effect hperform
    have hcreated := heffect.created hstorage
    refine ⟨hcreated, fun later caller operation made final hlater => ?_⟩
    exact (RegistryOperation.effect hlater).made_ne
      (Registry.run_wellFormed later (heffect.wellFormed hstorage))
      (Registry.run_present later hcreated.present)

def owner : Address := ⟨beBytes 20 1, beBytes_address_one⟩

def member : Address := ⟨beBytes 20 2, beBytes_address_two⟩

/-- An allowlist of one account, and its union with the inverse of an empty
blocklist. -/
def sampleRequests : List RegistryRequest := [⟨default, .createPolicyWithAccounts owner .allowlist
      [member]⟩,
    ⟨default, .createPolicy owner .blocklist⟩,
    ⟨default, .createCompositePolicy owner .union [makeId 1 2, invertedPolicyId (makeId 0 3)]⟩]

theorem authorization_semantics_sample :
    policyExists (Registry.empty.run sampleRequests) (makeId 2 4) = true ∧
      isAuthorized (Registry.empty.run sampleRequests) 4 (makeId 2 4)
        member = .ok true ∧
      isAuthorized (Registry.empty.run sampleRequests) 4
        (invertedPolicyId (makeId 2 4)) member = .ok false := by
  have hexists : policyExists (Registry.empty.run sampleRequests) (makeId 2 4) = true := by
    decide +kernel
  have hallowed : isAuthorized (Registry.empty.run sampleRequests) 4 (makeId 2 4)
      member = .ok true := by decide +kernel
  refine ⟨hexists, hallowed, ?_⟩
  rw [((authorization_semantics sampleRequests).2.2.1 _ _ 4 hexists le_rfl).2, hallowed]
  rfl

end Creation

end Policy

end BaseChain
