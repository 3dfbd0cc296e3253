/-
Who can change a policy.  Only its admin writes to it, the role moves in two steps, and
a policy without an admin stays as it is.
-/
import Mathlib.Data.List.Induction
import BaseChain.PolicyAuthorization

namespace BaseChain

open Checked Function List Policy.RegistryOperation

namespace Policy

/-- The policy that an operation is about, which for a creation is the new one. -/
def RegistryOperation.target (made : Option PolicyId) : RegistryOperation → Option PolicyId
  | .createPolicy .. | .createPolicyWithAccounts .. | .createCompositePolicy .. => made
  | .updateComposite policyId _ => some policyId
  | .stageUpdateAdmin policyId _ => some policyId
  | .finalizeUpdateAdmin policyId => some policyId
  | .renounceAdmin policyId => some policyId
  | .updateAllowlist policyId _ _ => some policyId
  | .updateBlocklist policyId _ _ => some policyId

/-- Nothing is written for a policy, except that the first creation writes the built-in
ones, without an admin. -/
structure Untouched (storage after : Registry) (policyId : PolicyId) : Prop where
  members : after.members policyId = storage.members policyId
  children : after.children policyId = storage.children policyId
  pending : after.pendingAdmins policyId = storage.pendingAdmins policyId
  word : after.policies policyId = storage.policies policyId ∨
    (isBuiltin policyId = true ∧ after.policies policyId = .new default)

variable {storage after : Registry} {caller : Address} {policyId : PolicyId}
  {operation : RegistryOperation} {made : Option PolicyId}

section Frame

theorem initialized_word : storage.initialized.policies policyId = storage.policies policyId ∨
      (isBuiltin policyId = true ∧ storage.initialized.policies policyId = .new default) := by
  unfold Registry.initialized ensureInitializedAndGetCounter
  split
  · exact .inl rfl
  · change update (update storage.policies alwaysAllowId _)
        alwaysBlockId _ policyId = _ ∨ (_ ∧ update (update
          storage.policies alwaysAllowId _) alwaysBlockId _ policyId = _)
    by_cases hblock : policyId = alwaysBlockId
    · rw [hblock]
      exact .inr ⟨by decide, rfl⟩
    · rw [update_of_ne hblock]
      by_cases hallow : policyId = alwaysAllowId
      · rw [hallow]
        exact .inr ⟨by decide, rfl⟩
      · rw [update_of_ne hallow]
        exact .inl rfl

theorem created_untouched {newId : PolicyId} {admin : Address}
    (hne : policyId ≠ newId) : Untouched storage (storage.created newId admin) policyId := by
  obtain ⟨hmembers, hkids, hpend⟩ := created_fields
  have hword : (storage.created newId admin).policies policyId =
      storage.initialized.policies policyId := by
    unfold Registry.created Registry.writePolicyWord
    dsimp only
    rw [update_of_ne hne]
  refine ⟨by rw [hmembers], by rw [hkids], by rw [hpend], ?_⟩
  rw [hword]
  exact initialized_word

theorem Untouched.refl : Untouched storage storage policyId := ⟨rfl, rfl, rfl, Or.inl rfl⟩

variable {other : PolicyId}

section

variable (hafter : Untouched storage after policyId) (hne : policyId ≠ other)
include hafter hne

theorem Untouched.setMembers {member : Bool} {accounts : List Address} :
    Untouched storage (after.setMembers other member accounts) policyId := by
  rw [setMembers_eq]
  refine ⟨?_, hafter.children, hafter.pending, hafter.word⟩
  dsimp only
  rw [update_of_ne hne]
  exact hafter.members

theorem Untouched.writeChildren {childPolicyIds : List PolicyId} :
    Untouched storage (after.writeChildren other childPolicyIds) policyId := by
  refine ⟨hafter.members, ?_, hafter.pending, hafter.word⟩
  unfold Registry.writeChildren
  dsimp only
  rw [update_of_ne hne]
  exact hafter.children

theorem Untouched.writePendingAdmin {admin : Address} :
    Untouched storage (after.writePendingAdmin other admin) policyId := by
  refine ⟨hafter.members, hafter.children, ?_, hafter.word⟩
  unfold Registry.writePendingAdmin
  dsimp only
  rw [update_of_ne hne]
  exact hafter.pending

theorem Untouched.writePolicyWord {word : PackedPolicy} :
    Untouched storage (after.writePolicyWord other word) policyId := by
  refine ⟨hafter.members, hafter.children, hafter.pending, ?_⟩
  unfold Registry.writePolicyWord
  dsimp only
  rw [update_of_ne hne]
  exact hafter.word

end

/-- An operation writes for no policy but its own. -/
theorem RegistryEffect.untouched (heffect : RegistryEffect storage caller operation made after)
    (htarget : operation.target made ≠ some policyId) :
    Untouched storage after policyId := by
  have hne : ∀ other, operation.target made = some other → policyId ≠ other := by
    rintro other hother rfl
    exact htarget hother
  cases heffect with
  | createPolicy => exact created_untouched (hne _ rfl)
  | createPolicyWithAccounts => exact (created_untouched (hne _ rfl)).setMembers (hne _ rfl)
  | createCompositePolicy => exact (created_untouched (hne _ rfl)).writeChildren (hne _ rfl)
  | updateComposite => exact Untouched.refl.writeChildren (hne _ rfl)
  | stageUpdateAdmin => exact Untouched.refl.writePendingAdmin (hne _ rfl)
  | finalizeUpdateAdmin other hother hsome hpend | renounceAdmin other hother hadmin =>
    exact (Untouched.refl.writePolicyWord (hne _ rfl)).writePendingAdmin (hne _ rfl)
  | updateAllowlist | updateBlocklist => exact Untouched.refl.setMembers (hne _ rfl)

end Frame

section Admins

section

variable (hplain : isInverted policyId = false)
include hplain

theorem getPolicyAdmin_eq : getPolicyAdmin storage policyId =
      if isWellFormed policyId = false then default
      else if (storage.policies policyId).isPresent then
        (storage.policies policyId).admin
      else default := by
  unfold getPolicyAdmin
  rw [base_of_not_inverted _ hplain]

theorem getPolicyAdmin_congr (hword : after.policies policyId = storage.policies policyId) :
    getPolicyAdmin after policyId = getPolicyAdmin storage policyId := by
  rw [getPolicyAdmin_eq hplain, getPolicyAdmin_eq hplain, hword]

theorem getPolicyAdmin_of_word {admin : Address} (hwell : isWellFormed policyId = true)
    (hword : storage.policies policyId = .new admin) :
    getPolicyAdmin storage policyId = admin := by
  rw [getPolicyAdmin_eq hplain, hword, hwell]
  simp

end

theorem WellFormed.getPolicyAdmin_eq (hstorage : WellFormed storage)
    (hpres : storage.Present policyId) :
    getPolicyAdmin storage policyId = (storage.policies policyId).admin := by
  have hwell := isWellFormed_iff.mpr (hstorage.numbered policyId hpres).1
  unfold Registry.Present at hpres
  rw [Policy.getPolicyAdmin_eq (hstorage.not_inverted hpres), hwell, if_pos hpres]
  simp

theorem builtin_plain (hbuiltin : isBuiltin policyId = true) :
    isInverted policyId = false ∧ isWellFormed policyId = true := by
  unfold isBuiltin at hbuiltin
  rw [Bool.or_eq_true, beq_iff_eq, beq_iff_eq] at hbuiltin
  rcases hbuiltin with rfl | rfl
  · decide
  · decide

/-- The part of the registry's invariant that is about admins: nobody owns a built-in
policy, and nobody is staged for a policy that nobody owns. -/
structure Ownership (storage : Registry) : Prop where
  wellFormed : WellFormed storage
  builtin : ∀ policyId, isBuiltin policyId = true → getPolicyAdmin storage policyId = default
  pending : ∀ policyId, isInverted policyId = false → getPolicyAdmin storage policyId = default →
    storage.pendingAdmins policyId = default

theorem Ownership.empty : Ownership Registry.empty where
  wellFormed := .empty
  builtin policyId hbuiltin := by
    rw [getPolicyAdmin_eq (builtin_plain hbuiltin).1]
    simp [Registry.empty]
  pending _ _ _ := rfl

theorem Untouched.admin (hafter : Untouched storage after policyId)
    (hstorage : Ownership storage) (hplain : isInverted policyId = false) :
    getPolicyAdmin after policyId = getPolicyAdmin storage policyId := by
  rcases hafter.word with hword | ⟨hbuiltin, hword⟩
  · exact getPolicyAdmin_congr hplain hword
  · rw [hstorage.builtin policyId hbuiltin,
      getPolicyAdmin_of_word hplain (builtin_plain hbuiltin).2 hword]

/-- The step in which a staged admin takes the role. -/
structure Accepts (storage : Registry) (caller : Address)
    (operation : RegistryOperation) (policyId : PolicyId) (after : Registry) :
    Prop where
  operation : operation = .finalizeUpdateAdmin policyId
  pending : storage.pendingAdmins policyId = caller
  some : caller ≠ default
  members : after.members policyId = storage.members policyId
  children : after.children policyId = storage.children policyId
  admin : getPolicyAdmin after policyId = caller

/-- Only the admin of an existing policy, or the staged one accepting, writes to it. -/
theorem RegistryEffect.authority (heffect : RegistryEffect storage caller operation made after)
    (hstorage : WellFormed storage) (hexists : policyExists storage policyId = true)
    (htarget : operation.target made = some policyId) :
    storage.Present policyId ∧ (getPolicyAdmin storage policyId = caller ∨
      Accepts storage caller operation policyId after) := by
  have hnew : made ≠ some policyId := by
    rintro rfl
    have hfresh := (heffect.created hstorage).fresh
    rw [hexists] at hfresh
    exact Bool.false_ne_true hfresh.symm
  cases heffect with
  | createPolicy | createPolicyWithAccounts | createCompositePolicy => exact absurd htarget hnew
  | updateComposite _ _ hother _ hadmin
  | stageUpdateAdmin _ _ hother hadmin =>
    cases htarget
    exact ⟨hother, .inl ((hstorage.getPolicyAdmin_eq hother).trans hadmin)⟩
  | finalizeUpdateAdmin _ hother hsome hpend =>
    cases htarget
    refine ⟨hother, .inr ⟨rfl, hpend, hpend ▸ hsome, rfl, rfl, ?_⟩⟩
    refine getPolicyAdmin_of_word (hstorage.not_inverted hother)
      (isWellFormed_iff.mpr (hstorage.numbered _ hother).1) ?_
    exact update_self ..
  | renounceAdmin other hother hadmin | updateAllowlist other allowed accounts hother hkind hadmin
  | updateBlocklist _ _ _ hother _ hadmin =>
    cases htarget
    exact ⟨hother, .inl ((hstorage.getPolicyAdmin_eq hother).trans hadmin)⟩

end Admins

variable {requests : List RegistryRequest}
  (heffect : RegistryEffect storage caller operation made after)

section Steps

section

include heffect

/-- A policy that nobody owns is not touched by a caller that is somebody. -/
theorem RegistryEffect.untouched_of_ownerless
    (hstorage : Ownership storage) (hcaller : caller ≠ default)
    (hplain : isInverted policyId = false)
    (hexists : policyExists storage policyId = true)
    (hnone : getPolicyAdmin storage policyId = default) :
    Untouched storage after policyId := by
  apply heffect.untouched
  intro htarget
  obtain ⟨-, hadmin | haccepts⟩ := heffect.authority hstorage.wellFormed hexists htarget
  · exact hcaller (hadmin.symm.trans hnone)
  · exact hcaller (haccepts.pending.symm.trans (hstorage.pending policyId hplain hnone))

/-- Who is staged for a policy after an operation: nobody, or whoever was under the same
admin, or the one whom the admin staged just now. -/
theorem RegistryEffect.staging
    (hstorage : Ownership storage) (hplain : isInverted policyId = false) :
    after.pendingAdmins policyId = default ∨
    (after.pendingAdmins policyId = storage.pendingAdmins policyId ∧
      getPolicyAdmin after policyId = getPolicyAdmin storage policyId) ∨
    (operation = .stageUpdateAdmin policyId (after.pendingAdmins policyId) ∧
      storage.Present policyId ∧ getPolicyAdmin storage policyId = caller ∧
      getPolicyAdmin after policyId = caller) := by
  by_cases htarget : operation.target made = some policyId
  swap
  · have hsame := heffect.untouched htarget
    exact .inr (.inl ⟨hsame.pending, hsame.admin hstorage hplain⟩)
  have hnew : made = some policyId → storage.pendingAdmins policyId = default := by
    rintro rfl
    refine (hstorage.wellFormed.unused policyId fun hpres => ?_).2.2
    exact heffect.made_ne hstorage.wellFormed hpres rfl
  cases heffect with
  | createPolicy =>
    rw [created_fields.2.2]
    exact .inl (hnew htarget)
  | createPolicyWithAccounts =>
    rw [setMembers_eq]
    rw [created_fields.2.2]
    exact .inl (hnew htarget)
  | createCompositePolicy =>
    unfold Registry.writeChildren
    rw [created_fields.2.2]
    exact .inl (hnew htarget)
  | updateComposite => exact .inr (.inl ⟨rfl, getPolicyAdmin_congr hplain rfl⟩)
  | stageUpdateAdmin _ newAdmin hother hadmin =>
    cases htarget
    have howner := (hstorage.wellFormed.getPolicyAdmin_eq hother).trans hadmin
    have hstaged : (storage.writePendingAdmin policyId newAdmin).pendingAdmins
        policyId = newAdmin := update_self ..
    rw [hstaged]
    exact .inr (.inr ⟨rfl, hother, howner, (getPolicyAdmin_congr hplain rfl).trans howner⟩)
  | finalizeUpdateAdmin other hother hsome hpend | renounceAdmin other hother hadmin =>
    cases htarget
    exact .inl (update_self ..)
  | updateAllowlist | updateBlocklist =>
    rw [setMembers_eq]
    exact .inr (.inl ⟨rfl, getPolicyAdmin_congr hplain rfl⟩)

end

theorem policyExists_builtin (hbuiltin : isBuiltin policyId = true) :
    policyExists storage policyId = true := by
  have hplain := (builtin_plain hbuiltin).1
  unfold isBuiltin at hbuiltin
  rw [Bool.or_eq_true, beq_iff_eq, beq_iff_eq] at hbuiltin
  unfold policyExists
  rw [base_of_not_inverted _ hplain, if_pos hbuiltin]

theorem RegistryEffect.ownership (heffect : RegistryEffect storage caller operation made after)
    (hstorage : Ownership storage) (hcaller : caller ≠ default) :
    Ownership after where
  wellFormed := heffect.wellFormed hstorage.wellFormed
  builtin policyId hbuiltin := by
    have hplain := (builtin_plain hbuiltin).1
    have hnone := hstorage.builtin policyId hbuiltin
    have hsame := heffect.untouched_of_ownerless hstorage hcaller hplain
      (policyExists_builtin hbuiltin) hnone
    exact (hsame.admin hstorage hplain).trans hnone
  pending policyId hplain hnone := by
    obtain hfree | ⟨hpend, hadmin⟩ | ⟨-, -, -, hafter⟩ := heffect.staging hstorage hplain
    · exact hfree
    · rw [hpend]
      exact hstorage.pending policyId hplain (hadmin.symm.trans hnone)
    · exact absurd (hafter.symm.trans hnone) hcaller

variable (hcallers : ∀ request ∈ requests, request.caller ≠ default)

include hcallers in
theorem Registry.run_ownership
    (hstorage : Ownership storage) : Ownership (storage.run requests) := by
  refine run_invariant_of_mem ?_ hstorage
  intro request hrequest state next hstate hperf
  obtain ⟨made, hok⟩ := perform_of_map hperf
  exact (effect hok).ownership hstate (hcallers request hrequest)

theorem RegistryEffect.exists_after (heffect : RegistryEffect storage caller operation made after)
    (hexists : policyExists storage policyId = true) :
    policyExists after policyId = true := by
  unfold policyExists at hexists ⊢
  dsimp only at hexists ⊢
  split_ifs at hexists ⊢ with hbuiltin hwell
  · rfl
  · exact heffect.present hexists

include hcallers in
/-- A policy that nobody owns stays as it is for good. -/
theorem Registry.run_ownerless (hstorage : Ownership storage) (hplain : isInverted policyId = false)
    (hexists : policyExists storage policyId = true)
    (hnone : getPolicyAdmin storage policyId = default) :
    (storage.run requests).members policyId = storage.members policyId ∧
      (storage.run requests).children policyId = storage.children policyId ∧
      getPolicyAdmin (storage.run requests) policyId = default := by
  have hkept : Ownership (storage.run requests) ∧
      policyExists (storage.run requests) policyId = true ∧
      (storage.run requests).members policyId = storage.members policyId ∧
      (storage.run requests).children policyId = storage.children policyId ∧
      getPolicyAdmin (storage.run requests) policyId = default := by
    refine run_invariant_of_mem (motive := fun state => Ownership state ∧
      policyExists state policyId = true ∧ state.members policyId = storage.members policyId ∧
      state.children policyId = storage.children policyId ∧
      getPolicyAdmin state policyId = default) ?_ ⟨hstorage, hexists, rfl, rfl, hnone⟩
    rintro request hrequest state next ⟨hstate, hthere, hmembers, hkids, hfree⟩ hperf
    obtain ⟨made, hok⟩ := perform_of_map hperf
    have heffect := effect hok
    have hcaller := hcallers request hrequest
    have hsame := heffect.untouched_of_ownerless hstate hcaller hplain hthere hfree
    exact ⟨heffect.ownership hstate hcaller, heffect.exists_after hthere,
      hsame.members.trans hmembers, hsame.children.trans hkids,
      (hsame.admin hstate hplain).trans hfree⟩
  exact hkept.2.2

end Steps

section History

/-- The staged admin was staged by the admin who has the role now. -/
def Staged (requests : List RegistryRequest) (policyId : PolicyId) : Prop := ∃ before later,
    requests = before ++ ⟨getPolicyAdmin (Registry.empty.run requests) policyId,
        .stageUpdateAdmin policyId
          ((Registry.empty.run requests).pendingAdmins policyId)⟩ :: later ∧
    (Registry.empty.run before).Present policyId ∧
    getPolicyAdmin (Registry.empty.run before) policyId =
      getPolicyAdmin (Registry.empty.run requests) policyId

theorem Staged.snoc {request : RegistryRequest} (hstaged : Staged requests policyId)
    (hpend : (Registry.empty.run (requests ++ [request])).pendingAdmins policyId =
      (Registry.empty.run requests).pendingAdmins policyId)
    (hadmin : getPolicyAdmin (Registry.empty.run (requests ++ [request])) policyId =
      getPolicyAdmin (Registry.empty.run requests) policyId) :
    Staged (requests ++ [request]) policyId := by
  obtain ⟨before, later, hrequests, hpres, hsame⟩ := hstaged
  refine ⟨before, later ++ [request], ?_, hpres, hsame.trans hadmin.symm⟩
  rw [hpend, hadmin]
  nth_rewrite 1 [hrequests]
  rw [append_assoc, cons_append]

theorem Registry.run_snoc (storage : Registry) (requests : List RegistryRequest)
    (request : RegistryRequest) :
    storage.run (requests ++ [request]) = commit (storage.run requests)
      ((request.operation.perform (storage.run requests) request.caller).map Prod.snd) := by
  unfold Registry.run Checked.run
  rw [foldl_append]
  rfl

theorem staged_of_pending (hcallers : ∀ request ∈ requests, request.caller ≠ default)
    (hplain : isInverted policyId = false)
    (hsome : (Registry.empty.run requests).pendingAdmins policyId ≠ default) :
    Staged requests policyId := by
  induction requests using reverseRecOn with
  | nil => exact absurd rfl hsome
  | append_singleton requests request ih =>
    have hearlier : ∀ earlier ∈ requests, earlier.caller ≠ default :=
      fun earlier hmem => hcallers earlier (mem_append_left _ hmem)
    have hstorage := Registry.run_ownership hearlier Ownership.empty
    have hrun := Registry.run_snoc Registry.empty requests request
    cases hresult : request.operation.perform (Registry.empty.run requests) request.caller with
    | error =>
      rw [hresult] at hrun
      have hpend := congrArg (Registry.pendingAdmins · policyId) hrun
      exact (ih hearlier (hpend ▸ hsome)).snoc hpend (congrArg (getPolicyAdmin · policyId) hrun)
    | ok pair =>
      obtain ⟨made, after⟩ := pair
      rw [hresult] at hrun
      change _ = after at hrun
      obtain hnone | ⟨hpend, hadmin⟩ | ⟨hstage, hpres, hbefore, hafter⟩ :=
        (effect hresult).staging hstorage hplain
      · rw [hrun] at hsome
        exact absurd hnone hsome
      · rw [← hrun] at hpend hadmin
        exact (ih hearlier (hpend ▸ hsome)).snoc hpend hadmin
      · refine ⟨requests, [], ?_, hpres, ?_⟩
        · rw [hrun, hafter, ← hstage]
        · rw [hrun, hafter, hbefore]

end History

section Authorization

theorem listAccounts_congr (hmembers : after.members policyId = storage.members policyId) :
    listAccounts after policyId = listAccounts storage policyId := by
  unfold listAccounts
  rw [hmembers]

/-- An id that does not flip its accounts is its own base. -/
theorem flipped_congr {accounts accounts' : PolicyId → Set Address}
    (hsame : accounts' (basePolicyId policyId) = accounts (basePolicyId policyId)) :
    (if isInverted policyId = true then (accounts' (basePolicyId policyId))ᶜ
      else accounts' policyId) =
      if isInverted policyId = true then (accounts (basePolicyId policyId))ᶜ
      else accounts policyId := by
  split
  · rw [hsame]
  · rename_i hflip
    rwa [base_of_not_inverted _ (Bool.eq_false_iff.mpr hflip)] at hsame

theorem policyAccounts_congr (hmembers : after.members policyId = storage.members policyId)
    (hkids : after.children policyId = storage.children policyId)
    (hlists : isComposite policyId = true → ∀ child ∈ storage.children policyId,
      after.members (basePolicyId child) = storage.members (basePolicyId child)) :
    policyAccounts after policyId = policyAccounts storage policyId := by
  unfold policyAccounts
  rw [hkids, listAccounts_congr hmembers]
  by_cases hcomposite : isComposite policyId = true
  · have hsame : ∀ child ∈ storage.children policyId,
        childAccounts after child = childAccounts storage child :=
      fun child hchild => flipped_congr (listAccounts_congr (hlists hcomposite child hchild))
    rw [Set.iUnion₂_congr hsame, Set.iInter₂_congr hsame]
  · obtain ⟨hunion, hintersect⟩ := isComposite_eq_false.mp (Bool.eq_false_iff.mpr hcomposite)
    rw [if_neg hunion, if_neg hintersect, if_neg hunion, if_neg hintersect]

section

variable (hstorage : WellFormed storage)
include heffect hstorage

variable (hexists : policyExists storage policyId = true)

include hexists in
/-- The answer about an existing policy changes only if its accounts do. -/
theorem RegistryEffect.isAuthorized_congr (haccounts : authorizedAccounts after policyId =
      authorizedAccounts storage policyId) (account : Address) (fuel : Nat) :
    isAuthorized after (fuel + 4) policyId account =
      isAuthorized storage (fuel + 4) policyId account := by
  obtain ⟨before, hbefore, hiff⟩ := @isAuthorized_exists _ _ account fuel hstorage hexists
  obtain ⟨answer, hanswer, hsame⟩ := @isAuthorized_exists _ _ account fuel
    (heffect.wellFormed hstorage) (heffect.exists_after hexists)
  rw [haccounts, ← hiff] at hsame
  rw [hbefore, hanswer, Bool.eq_iff_iff.mpr hsame]

include hexists in
/-- What a policy and its children hold stays, and so does the answer. -/
theorem RegistryEffect.isAuthorized_of_content
    (hown : after.members (basePolicyId policyId) = storage.members (basePolicyId policyId) ∧
      after.children (basePolicyId policyId) = storage.children (basePolicyId policyId))
    (hlists : isComposite (basePolicyId policyId) = true →
      ∀ child ∈ storage.children (basePolicyId policyId),
        after.members (basePolicyId child) = storage.members (basePolicyId child))
    {fuel : Nat} (hfuel : 4 ≤ fuel) (account : Address) :
    isAuthorized after fuel policyId account = isAuthorized storage fuel policyId account := by
  obtain ⟨extra, rfl⟩ := Nat.exists_eq_add_of_le' hfuel
  exact heffect.isAuthorized_congr hstorage hexists
    (flipped_congr (policyAccounts_congr hown.1 hown.2 hlists)) account extra

include hexists in
/-- Who is not the admin of an existing policy leaves what it holds. -/
theorem RegistryEffect.sameContent (hother : getPolicyAdmin storage policyId ≠ caller) :
    after.members policyId = storage.members policyId ∧
      after.children policyId = storage.children policyId := by
  by_cases htarget : operation.target made = some policyId
  · obtain ⟨-, hadmin | haccepts⟩ := heffect.authority hstorage hexists htarget
    · exact absurd hadmin hother
    · exact ⟨haccepts.members, haccepts.children⟩
  · have hsame := heffect.untouched htarget
    exact ⟨hsame.members, hsame.children⟩

end

theorem getPolicyAdmin_base :
    getPolicyAdmin storage (basePolicyId policyId) = getPolicyAdmin storage policyId := by
  unfold getPolicyAdmin
  rw [base_base]

theorem Registry.ownerless_after (heffect : RegistryEffect storage caller operation made after)
    (hstorage : Ownership storage) (hcaller : caller ≠ default)
    (hended : operation = .renounceAdmin policyId ∨ isBuiltin policyId = true) :
    isInverted policyId = false ∧ policyExists after policyId = true ∧
      getPolicyAdmin after policyId = default := by
  rcases hended with rfl | hbuiltin
  · cases heffect with
    | renounceAdmin _ hpres =>
      have hplain := hstorage.wellFormed.not_inverted hpres
      have hwell := isWellFormed_iff.mpr (hstorage.wellFormed.numbered _ hpres).1
      refine ⟨hplain, ?_, getPolicyAdmin_of_word hplain hwell (update_self ..)⟩
      exact policyExists_of_present (present_writePolicyWord.mpr (.inl rfl)) hplain hwell
  · exact ⟨(builtin_plain hbuiltin).1, policyExists_builtin hbuiltin,
      (heffect.ownership hstorage hcaller).builtin policyId hbuiltin⟩

/-- One more call by somebody, in any state that calls by somebody lead to: an existing
policy changes only at the hands of its admin or of the one its admin staged, a
renounced or built-in one never again, an answer changes only at the hands of the
policy's admin or a child's, and never by a call about an unrelated policy. -/
theorem changes_by_admin {requests : List RegistryRequest}
    (hcallers : ∀ request ∈ requests, request.caller ≠ default)
    (hcaller : caller ≠ default)
    (hperform : operation.perform (Registry.empty.run requests) caller =
      .ok (made, after)) :
    (∀ policyId, isInverted policyId = false →
      policyExists (Registry.empty.run requests) policyId = true →
      (after.members policyId = (Registry.empty.run requests).members policyId ∧
        after.children policyId = (Registry.empty.run requests).children policyId ∧
        getPolicyAdmin after policyId =
          getPolicyAdmin (Registry.empty.run requests) policyId) ∨
      getPolicyAdmin (Registry.empty.run requests) policyId = caller ∨
      (Accepts (Registry.empty.run requests) caller operation policyId after ∧
        Staged requests policyId)) ∧
    (∀ policyId, operation = .renounceAdmin policyId ∨ isBuiltin policyId = true →
      ∀ later : List RegistryRequest, (∀ request ∈ later, request.caller ≠ default) →
        (after.run later).members policyId = after.members policyId ∧
        (after.run later).children policyId = after.children policyId ∧
        getPolicyAdmin (after.run later) policyId = default) ∧
    (∀ policyId account fuel, 4 ≤ fuel →
      policyExists (Registry.empty.run requests) policyId = true →
      isAuthorized after fuel policyId account ≠
        isAuthorized (Registry.empty.run requests) fuel policyId account →
      getPolicyAdmin (Registry.empty.run requests) policyId = caller ∨
        ∃ child ∈ (Registry.empty.run requests).children (basePolicyId policyId),
          getPolicyAdmin (Registry.empty.run requests) child = caller) ∧
    ∀ policyId account fuel, 4 ≤ fuel →
      policyExists (Registry.empty.run requests) policyId = true →
      operation.target made ≠ some (basePolicyId policyId) →
      (∀ child ∈ (Registry.empty.run requests).children (basePolicyId policyId),
        operation.target made ≠ some (basePolicyId child)) →
      isAuthorized after fuel policyId account =
        isAuthorized (Registry.empty.run requests) fuel policyId account := by
  have hstorage := Registry.run_ownership hcallers Ownership.empty
  have hwell := hstorage.wellFormed
  have heffect := RegistryOperation.effect hperform
  refine ⟨?_, ?_, ?_, ?_⟩
  · intro policyId hplain hexists
    by_cases htarget : operation.target made = some policyId
    · obtain ⟨-, hadmin | haccepts⟩ := heffect.authority hwell hexists htarget
      · exact Or.inr (Or.inl hadmin)
      · have hsome := haccepts.pending ▸ haccepts.some
        exact Or.inr (Or.inr ⟨haccepts, staged_of_pending hcallers hplain hsome⟩)
    · have hsame := heffect.untouched htarget
      exact Or.inl ⟨hsame.members, hsame.children, hsame.admin hstorage hplain⟩
  · intro policyId hended later hlater
    obtain ⟨hplain, hexists, hnone⟩ :=
      Registry.ownerless_after heffect hstorage hcaller hended
    exact Registry.run_ownerless hlater (heffect.ownership hstorage hcaller) hplain
      hexists hnone
  · intro policyId account fuel hfuel hexists hchanged
    by_contra hnobody
    obtain ⟨hother, hchildren⟩ := not_or.mp hnobody
    refine hchanged (heffect.isAuthorized_of_content hwell hexists ?_ ?_ hfuel account)
    · exact heffect.sameContent hwell (policyExists_base.trans hexists)
        (getPolicyAdmin_base.trans_ne hother)
    · intro hcomposite child hchild
      refine (heffect.sameContent hwell
        (hwell.exists_of_present (hwell.child hcomposite hchild).1) ?_).1
      exact getPolicyAdmin_base.trans_ne fun hadmin => hchildren ⟨child, hchild, hadmin⟩
  · intro policyId account fuel hfuel hexists htarget hchildren
    have hsame := heffect.untouched htarget
    exact heffect.isAuthorized_of_content hwell hexists ⟨hsame.members, hsame.children⟩
      (fun _ child hchild => (heffect.untouched (hchildren child hchild)).members) hfuel account

/-- A new list whose admin stages somebody else. -/
def handover : List RegistryRequest := [⟨owner, .createPolicy owner .allowlist⟩,
    ⟨owner, .stageUpdateAdmin (makeId 1 2) member⟩]

theorem changes_by_admin_handover :
    ∃ made after, RegistryOperation.perform (Registry.empty.run handover) member
        (.finalizeUpdateAdmin (makeId 1 2)) = .ok (made, after) ∧
      getPolicyAdmin after (makeId 1 2) = member ∧ Staged handover (makeId 1 2) := by
  have hadmin : (RegistryOperation.perform (Registry.empty.run handover) member
      (.finalizeUpdateAdmin (makeId 1 2))).map
        (fun result => getPolicyAdmin result.2 (makeId 1 2)) = .ok member := by
    decide +kernel
  cases hresult : RegistryOperation.perform (Registry.empty.run handover) member
      (.finalizeUpdateAdmin (makeId 1 2)) with
  | error =>
    rw [hresult] at hadmin
    cases hadmin
  | ok pair =>
    obtain ⟨made, after⟩ := pair
    rw [hresult] at hadmin
    have haccepted := Except.ok.inj hadmin
    have hcallers : ∀ request ∈ handover, request.caller ≠ default := by
      decide +kernel
    have hchange := (changes_by_admin hcallers (by decide +kernel) hresult).1
      (makeId 1 2) (by decide) (by decide +kernel)
    refine ⟨made, after, rfl, haccepted, ?_⟩
    rcases hchange with ⟨-, -, hsame⟩ | hself | ⟨-, hstaged⟩
    · exact absurd (hsame.symm.trans haccepted) (by decide +kernel)
    · exact absurd hself (by decide +kernel)
    · exact hstaged

end Authorization

end Policy

end BaseChain
