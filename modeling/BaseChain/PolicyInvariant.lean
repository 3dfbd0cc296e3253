/-
The invariant of the policy registry: ids are numbered by the counter, an id that is
not in use has nothing stored under it, and composites have simple children.
-/
import BaseChain.PolicyEffects

namespace BaseChain

open Checked Function Policy.PackedPolicy

namespace Policy

/-- The policy word of an id was written. -/
def Registry.Present (storage : Registry) (policyId : PolicyId) : Prop :=
  (storage.policies policyId).isPresent = true

structure WellFormed (storage : Registry) : Prop where
  counterBound : storage.nextCounter ≤ counterMask
  numbered (policyId : PolicyId) : storage.Present policyId →
    policyIdType policyId ≤ 3 ∧ policyId.toNat % 2 ^ 56 < storage.nextCounter
  unused (policyId : PolicyId) : ¬ storage.Present policyId →
    (∀ account, storage.members policyId account = false) ∧
      storage.children policyId = [] ∧ storage.pendingAdmins policyId = default
  composite (policyId : PolicyId) : storage.Present policyId →
    isComposite policyId = true → ValidChildren storage (storage.children policyId)

theorem not_present_empty (policyId : PolicyId) : ¬ Registry.empty.Present policyId := by
  change ¬ absent.isPresent = true
  exact Bool.false_ne_true

theorem WellFormed.empty : WellFormed Registry.empty where
  counterBound := Nat.zero_le _
  numbered policyId hpres := absurd hpres (not_present_empty policyId)
  unused _ _ := ⟨fun _ => rfl, rfl, rfl⟩
  composite policyId hpres := absurd hpres (not_present_empty policyId)

variable {childPolicyIds : List PolicyId}

theorem ValidChildren.mono {storage after : Registry}
    (hvalid : ValidChildren storage childPolicyIds)
    (hpres : ∀ policyId, storage.Present policyId → after.Present policyId) :
    ValidChildren after childPolicyIds where
  atLeast := hvalid.atLeast
  atMost := hvalid.atMost
  present child hchild := hpres _ (hvalid.present child hchild)
  custom := hvalid.custom
  simple := hvalid.simple

variable {storage after : Registry} {policyId : PolicyId} {admin : Address}

section Writes

/-- An operation that leaves the words present as they are, and touches only ids in
use. -/
theorem WellFormed.of_frame (hstore : WellFormed storage)
    (hcounter : after.nextCounter = storage.nextCounter)
    (hpres : ∀ policyId, after.Present policyId ↔ storage.Present policyId)
    (hfields : ∀ policyId, ¬ storage.Present policyId →
      after.members policyId = storage.members policyId ∧
        after.children policyId = storage.children policyId ∧
        after.pendingAdmins policyId = storage.pendingAdmins policyId)
    (hkids : ∀ policyId, storage.Present policyId → isComposite policyId = true →
      ValidChildren storage (after.children policyId)) : WellFormed after where
  counterBound := hcounter ▸ hstore.counterBound
  numbered policyId hafter := by
    rw [hcounter]
    exact hstore.numbered policyId ((hpres policyId).mp hafter)
  unused policyId hafter := by
    have hbefore : ¬ storage.Present policyId := fun hused => hafter ((hpres policyId).mpr hused)
    obtain ⟨hmembers, hchild, hpend⟩ := hfields policyId hbefore
    rw [hmembers, hchild, hpend]
    exact hstore.unused policyId hbefore
  composite policyId hafter hcomposite :=
    (hkids policyId ((hpres policyId).mp hafter) hcomposite).mono
      fun other hother => (hpres other).mpr hother

variable {other : PolicyId}

/-- An update of one id that is in use does not show at an id that is not. -/
theorem update_of_unused {β : Type} {values : PolicyId → β} {value : β}
    (hused : storage.Present policyId) (hother : ¬ storage.Present other) :
    Function.update values policyId value other = values other := by
  apply update_of_ne
  rintro rfl
  exact hother hused

theorem present_writePolicyWord : (storage.writePolicyWord policyId (.new admin)).Present other ↔
      other = policyId ∨ storage.Present other := by
  unfold Registry.Present Registry.writePolicyWord
  by_cases hother : other = policyId
  · subst hother
    dsimp only
    rw [update_self]
    exact ⟨fun _ => .inl rfl, fun _ => isPresent_new admin⟩
  · dsimp only
    rw [update_of_ne hother]
    exact ⟨.inr, fun hpres => hpres.resolve_left hother⟩

section

variable (hstore : WellFormed storage) (hused : storage.Present policyId)
include hstore hused

theorem WellFormed.writeChildren (hvalid : ValidChildren storage childPolicyIds) :
    WellFormed (storage.writeChildren policyId childPolicyIds) := by
  refine hstore.of_frame rfl (fun _ => Iff.rfl) ?_ ?_
  · intro other hother
    exact ⟨rfl, update_of_unused hused hother, rfl⟩
  · intro other hother hcomposite
    unfold Registry.writeChildren
    by_cases heq : other = policyId
    · subst heq
      dsimp only
      rw [update_self]
      exact hvalid
    · dsimp only
      rw [update_of_ne heq]
      exact hstore.composite other hother hcomposite

theorem WellFormed.writePendingAdmin : WellFormed (storage.writePendingAdmin policyId admin) :=
  hstore.of_frame rfl (fun _ => Iff.rfl) (fun _ hother => ⟨rfl, rfl, update_of_unused hused hother⟩)
    hstore.composite

theorem WellFormed.setMembers {member : Bool} {accounts : List Address} :
    WellFormed (storage.setMembers policyId member accounts) := by
  rw [setMembers_eq]
  exact hstore.of_frame rfl (fun _ => Iff.rfl)
    (fun _ hother => ⟨update_of_unused hused hother, rfl, rfl⟩) hstore.composite

theorem WellFormed.writePolicyWord :
    WellFormed (storage.writePolicyWord policyId (.new admin)) := by
  refine hstore.of_frame rfl ?_ (fun _ _ => ⟨rfl, rfl, rfl⟩) hstore.composite
  intro other
  rw [present_writePolicyWord]
  exact ⟨fun hpres => hpres.elim (fun heq => heq ▸ hused) id, .inr⟩

end

end Writes

section Creation

variable {policyType : Nat}

/-- The first initialization makes nothing present but the two built-in policies. -/
theorem present_initialized : storage.initialized.Present policyId ↔ storage.Present policyId ∨
        (storage.nextCounter < builtinPolicyCount ∧ isBuiltin policyId = true) := by
  unfold Registry.initialized ensureInitializedAndGetCounter
  split
  · rename_i hdone
    exact ⟨.inl, fun hpres => hpres.resolve_right fun hfirst =>
      absurd hfirst.1 (not_lt.mpr hdone)⟩
  · rename_i hfirst
    change ((storage.writePolicyWord alwaysAllowId (.new default)).writePolicyWord
      alwaysBlockId (.new default)).Present policyId ↔ _
    rw [present_writePolicyWord, present_writePolicyWord]
    unfold isBuiltin
    rw [Bool.or_eq_true, beq_iff_eq, beq_iff_eq]
    have hsmall := lt_of_not_ge hfirst
    tauto

theorem nextCounter_le_counter : storage.nextCounter ≤ storage.counter := by
  unfold Registry.counter ensureInitializedAndGetCounter
  split
  · exact le_rfl
  · rename_i hfirst
    exact Nat.le_of_not_le hfirst

theorem builtinCount_le_counter : builtinPolicyCount ≤ storage.counter := by
  unfold Registry.counter ensureInitializedAndGetCounter
  split
  · assumption
  · exact le_rfl

theorem builtin_numbered (hbuiltin : isBuiltin policyId = true) :
    policyIdType policyId ≤ 1 ∧ policyId.toNat % 2 ^ 56 < builtinPolicyCount ∧
      isComposite policyId = false := by
  unfold isBuiltin at hbuiltin
  rw [Bool.or_eq_true, beq_iff_eq, beq_iff_eq] at hbuiltin
  rcases hbuiltin with rfl | rfl
  · decide
  · decide

theorem initialized_numbered (hstore : WellFormed storage)
    (hpres : storage.initialized.Present policyId) :
    policyIdType policyId ≤ 3 ∧ policyId.toNat % 2 ^ 56 < storage.counter := by
  rcases present_initialized.mp hpres with hpres | ⟨-, hbuiltin⟩
  · obtain ⟨htype, hcounter⟩ := hstore.numbered policyId hpres
    exact ⟨htype, hcounter.trans_le nextCounter_le_counter⟩
  · obtain ⟨htype, hcounter, -⟩ := builtin_numbered hbuiltin
    exact ⟨by omega, hcounter.trans_le builtinCount_le_counter⟩

variable (hroom : storage.counter < counterMask)

include hroom in
theorem counter_lt_of_room : storage.counter < 2 ^ 56 := by
  unfold counterMask at hroom
  omega

/-- The id of a new policy was never in use. -/
theorem made_not_present (hstore : WellFormed storage) (htype : policyType ≤ 3)
    (hroom : storage.counter < counterMask) :
    ¬ storage.initialized.Present (makeId policyType storage.counter) := by
  intro hpres
  have hbound := counter_lt_of_room hroom
  have hless := (initialized_numbered hstore hpres).2
  rw [makeId_counter htype hbound] at hless
  exact lt_irrefl _ hless

theorem present_created {other : PolicyId} : (storage.created policyId admin).Present other ↔
      other = policyId ∨ storage.initialized.Present other :=
  present_writePolicyWord

theorem present_of_initialized (hpres : storage.Present policyId) :
    storage.initialized.Present policyId :=
  present_initialized.mpr (.inl hpres)

/-- A new policy under a fresh id, with whatever is stored under that id. -/
theorem WellFormed.create (hstore : WellFormed storage) (htype : policyType ≤ 3)
    (hroom : storage.counter < counterMask) (hpolicies : after.policies =
      (storage.created (makeId policyType storage.counter) admin).policies)
    (hcounter : after.nextCounter = storage.counter + 1)
    (hfields : ∀ other, other ≠ makeId policyType storage.counter →
      after.members other = storage.members other ∧ after.children other = storage.children other ∧
        after.pendingAdmins other = storage.pendingAdmins other)
    (hcomposite : isComposite (makeId policyType storage.counter) = true → ValidChildren storage
        (after.children (makeId policyType storage.counter))) :
    WellFormed after := by
  have hpres : ∀ other, after.Present other ↔ other = makeId policyType storage.counter ∨
        storage.initialized.Present other := by
    intro other
    unfold Registry.Present
    rw [hpolicies]
    exact present_created
  have hmono : ∀ other, storage.Present other → after.Present other := fun other hother =>
      (hpres other).mpr (.inr (present_of_initialized hother))
  have hbound := counter_lt_of_room hroom
  refine ⟨?_, ?_, ?_, ?_⟩
  · rw [hcounter]
    exact hroom
  · intro other hother
    rw [hcounter]
    rcases (hpres other).mp hother with rfl | hold
    · rw [policyIdType_makeId htype hbound, makeId_counter htype hbound]
      exact ⟨htype, Nat.lt_succ_self _⟩
    · obtain ⟨hkind, hless⟩ := initialized_numbered hstore hold
      exact ⟨hkind, Nat.lt_succ_of_lt hless⟩
  · intro other hother
    have hne : other ≠ makeId policyType storage.counter :=
      fun heq => hother ((hpres other).mpr (.inl heq))
    obtain ⟨hmembers, hkids, hpend⟩ := hfields other hne
    rw [hmembers, hkids, hpend]
    exact hstore.unused other fun hused => hother (hmono other hused)
  · intro other hother hkind
    rcases (hpres other).mp hother with rfl | hold
    · exact (hcomposite hkind).mono hmono
    · have hne : other ≠ makeId policyType storage.counter := by
        rintro rfl
        exact made_not_present hstore htype hroom hold
      rw [(hfields other hne).2.1]
      rcases present_initialized.mp hold with hused | ⟨-, hbuiltin⟩
      · exact (hstore.composite other hused hkind).mono hmono
      · rw [(builtin_numbered hbuiltin).2.2] at hkind
        exact absurd hkind Bool.false_ne_true

theorem created_fields : (storage.created policyId admin).members = storage.members ∧
      (storage.created policyId admin).children = storage.children ∧
      (storage.created policyId admin).pendingAdmins = storage.pendingAdmins := by
  unfold Registry.created Registry.initialized ensureInitializedAndGetCounter
  split
  · exact ⟨rfl, rfl, rfl⟩
  · exact ⟨rfl, rfl, rfl⟩

theorem discriminant_le (kind : PolicyType) : kind.discriminant ≤ 3 := by
  cases kind with
  | blocklist | allowlist | union | intersect => decide

variable {kind : PolicyType}

include hroom in
theorem isComposite_makeId : isComposite (makeId kind.discriminant storage.counter) = true ↔
      kind = .union ∨ kind = .intersect := by
  have hbound := counter_lt_of_room hroom
  unfold isComposite
  rw [policyIdType_makeId (discriminant_le kind) hbound]
  cases kind with
  | blocklist | allowlist | union | intersect => decide

include hroom in
theorem WellFormed.created_simple (hstore : WellFormed storage)
    (hkind : kind = .blocklist ∨ kind = .allowlist) (admin : Address) :
    WellFormed (storage.created (makeId kind.discriminant storage.counter) admin) := by
  obtain ⟨hmembers, hkids, hpend⟩ := created_fields
  refine hstore.create (discriminant_le kind) hroom rfl rfl ?_ ?_
  · intro other _
    rw [hmembers, hkids, hpend]
    exact ⟨rfl, rfl, rfl⟩
  · rw [isComposite_makeId hroom]
    rcases hkind with rfl | rfl
    · exact nofun
    · exact nofun

end Creation

section Steps

variable {caller : Address} {operation : RegistryOperation} {made : Option PolicyId}

/-- Every successful operation keeps the registry well formed. -/
theorem RegistryEffect.wellFormed (heffect : RegistryEffect storage caller operation made after)
    (hstore : WellFormed storage) : WellFormed after := by
  cases heffect with
  | createPolicy admin _ _ hkind hroom => exact hstore.created_simple hroom hkind admin
  | createPolicyWithAccounts admin _ _ _ hkind _ hroom =>
    exact (hstore.created_simple hroom hkind admin).setMembers (present_created.mpr (.inl rfl))
  | createCompositePolicy _ kind _ _ _ hvalid hroom =>
    obtain ⟨hmembers, hkids, hpend⟩ := created_fields
    refine hstore.create (discriminant_le kind) hroom rfl rfl ?_ ?_
    · intro other hne
      unfold Registry.writeChildren
      dsimp only
      rw [update_of_ne hne, hmembers, hkids, hpend]
      exact ⟨rfl, rfl, rfl⟩
    · intro _
      unfold Registry.writeChildren
      dsimp only
      rw [update_self]
      exact hvalid
  | updateComposite _ _ hpres _ _ hvalid =>
    exact hstore.writeChildren hpres hvalid
  | stageUpdateAdmin _ _ hpres => exact hstore.writePendingAdmin hpres
  | finalizeUpdateAdmin policyId hpres hsome hpend | renounceAdmin policyId hpres hadmin =>
    exact (hstore.writePolicyWord hpres).writePendingAdmin (present_writePolicyWord.mpr (.inl rfl))
  | updateAllowlist _ _ _ hpres
  | updateBlocklist _ _ _ hpres => exact hstore.setMembers hpres

/-- A request that succeeds, as a run sees it. -/
theorem perform_of_map (hperf : (operation.perform storage caller).map Prod.snd = .ok after) :
    ∃ made, operation.perform storage caller = .ok (made, after) := by
  cases hresult : operation.perform storage caller with
  | error =>
    rw [hresult] at hperf
    cases hperf
  | ok pair =>
    rw [hresult] at hperf
    obtain ⟨made, written⟩ := pair
    cases hperf
    exact ⟨made, rfl⟩

theorem Registry.run_wellFormed (requests : List RegistryRequest)
    (hstore : WellFormed storage) : WellFormed (storage.run requests) := by
  refine run_invariant ?_ requests hstore
  intro state request next hstate hperf
  obtain ⟨made, hok⟩ := perform_of_map hperf
  exact (RegistryOperation.effect hok).wellFormed hstate

end Steps

end Policy

end BaseChain
