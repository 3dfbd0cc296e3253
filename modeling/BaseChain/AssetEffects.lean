/-
What a successful operation of the asset token checked and what it wrote.
-/
import BaseChain.AssetToken
import BaseChain.B20Effects

namespace BaseChain

open Checked

namespace B20

variable {context : Context} {token after : AssetStorage} {caller : Address} {privileged : Bool}

theorem ensureOperatorRole_bind {α : Type} {next : Unit → Except TokenError α} {value : α} :
    (ensureOperatorRole token caller privileged >>= next) = .ok value ↔
      (privileged = false → token.core.roles operatorRole caller = true) ∧ next () = .ok value := by
  cases privileged with
  | true => exact (and_iff_right nofun).symm
  | false =>
    have hneeded : token.core.roles operatorRole caller = true ↔
        (false = false → token.core.roles operatorRole caller = true) :=
      ⟨fun hrole _ => hrole, fun hrole => hrole rfl⟩
    exact ensureRole_bind.trans (and_congr_left' hneeded)

variable {newMultiplier : Nat}

theorem updateMultiplier_eq_ok
    (hupdate : updateMultiplier token caller privileged newMultiplier = .ok after) :
    (privileged = false → token.core.roles operatorRole caller = true) ∧
      (newMultiplier ≠ 0 ∧ newMultiplier ≤ maxUiMultiplier) ∧
      after = { token with
        multiplierSlot := newMultiplier,
        pendingMultiplier := if token.pendingEffectiveAt ≠ 0 then 0 else token.pendingMultiplier,
        pendingEffectiveAt := 0 } := by
  obtain ⟨hrole, hupdate⟩ := ensureOperatorRole_bind.mp hupdate
  obtain ⟨hmultiplier, hupdate⟩ := ensure_bind_eq_ok.mp hupdate
  refine ⟨hrole, hmultiplier, ?_⟩
  split at hupdate
  · rename_i hpend
    rw [if_pos hpend]
    exact (Except.ok.inj hupdate).symm
  · rename_i hnone
    rw [if_neg hnone, ← Except.ok.inj hupdate]
    have hunset : token.pendingEffectiveAt = 0 := not_not.mp hnone
    rw [← hunset]

theorem updateExtraMetadata_eq_ok {key value : Bytes}
    (hupdate : updateExtraMetadata token caller privileged key value = .ok after) :
    (privileged = false → token.core.roles TokenRole.metadata.id caller = true) ∧ key ≠ [] ∧
      after = { token with
        extraMetadata := Function.update token.extraMetadata key value } := by
  obtain ⟨hrole, hupdate⟩ := ensureTokenRoleUnless_bind.mp hupdate
  obtain ⟨hkey, hupdate⟩ := ensure_bind_eq_ok.mp hupdate
  exact ⟨hrole, hkey, (Except.ok.inj hupdate).symm⟩

theorem batchMint_eq_ok {recipients : List Address} {amounts : List Nat}
    (hbatch : batchMint context token caller privileged recipients amounts = .ok after) :
    token.core.paused &&& PausableFeature.mint.mask = 0 ∧
      (privileged = false → token.core.roles TokenRole.mint.id caller = true) ∧
      recipients.length = amounts.length ∧ recipients ≠ [] ∧
      ∃ core, mintAll context caller token.core (recipients.zip amounts) =
          .ok core ∧ after = { token with core } := by
  obtain ⟨hpaused, hbatch⟩ := ensureNotPaused_bind.mp hbatch
  obtain ⟨hrole, hbatch⟩ := ensureTokenRoleUnless_bind.mp hbatch
  obtain ⟨hlength, hbatch⟩ := ensure_bind_eq_ok.mp hbatch
  obtain ⟨hnonempty, hbatch⟩ := ensure_bind_eq_ok.mp hbatch
  obtain ⟨core, hmints, hafter⟩ := bind_eq_ok.mp hbatch
  exact ⟨hpaused, hrole, hlength, hnonempty, core, hmints, (Except.ok.inj hafter).symm⟩

theorem updateUiMultiplier_eq_ok {effectiveAt : Nat}
    (hupdate : updateUiMultiplier context token caller privileged newMultiplier
      effectiveAt = .ok after) :
    (privileged = false → token.core.roles operatorRole caller = true) ∧
      (newMultiplier ≠ 0 ∧ newMultiplier ≤ maxUiMultiplier) ∧
      context.timestamp < effectiveAt ∧ effectiveAt ≤ 2 ^ 64 - 1 ∧
      token.pendingEffectiveAt ≤ context.timestamp ∧
      after = { token with
        multiplierSlot := if token.pendingEffectiveAt ≠ 0 then token.pendingMultiplier
          else token.multiplierSlot,
        pendingMultiplier := newMultiplier,
        pendingEffectiveAt := effectiveAt } := by
  obtain ⟨hrole, hupdate⟩ := ensureOperatorRole_bind.mp hupdate
  obtain ⟨hmultiplier, hupdate⟩ := ensure_bind_eq_ok.mp hupdate
  obtain ⟨hfuture, hupdate⟩ := ensure_bind_eq_ok.mp hupdate
  obtain ⟨hnear, hupdate⟩ := ensure_bind_eq_ok.mp hupdate
  obtain ⟨hmatured, hupdate⟩ := ensure_bind_eq_ok.mp hupdate
  refine ⟨hrole, hmultiplier, hfuture, hnear, hmatured, ?_⟩
  rw [← Except.ok.inj hupdate]
  split
  · rfl
  · rfl

theorem cancelUiMultiplierUpdate_eq_ok
    (hcancel : cancelUiMultiplierUpdate context token caller privileged = .ok after) :
    (privileged = false → token.core.roles operatorRole caller = true) ∧
      context.timestamp < token.pendingEffectiveAt ∧
      after = token.clearPending := by
  obtain ⟨hrole, hcancel⟩ := ensureOperatorRole_bind.mp hcancel
  obtain ⟨hlive, hcancel⟩ := ensure_bind_eq_ok.mp hcancel
  exact ⟨hrole, hlive, (Except.ok.inj hcancel).symm⟩

/-- The operations on the asset's own fields. -/
def AssetOperation.Own : AssetOperation → Prop
  | .common _ | .batchMint _ _ => False
  | _ => True

/-- How an operation of the asset token reaches the core storage. -/
inductive CoreEffect (context : Context) (token after : AssetStorage)
    (caller : Address) (privileged : Bool) : AssetOperation → Prop
  | common (operation : Operation)
      (hperform : operation.perform context token.core caller privileged = .ok after.core) :
      CoreEffect context token after caller privileged (.common operation)
  | batchMint (recipients : List Address) (amounts : List Nat)
      (hpaused : token.core.paused &&& PausableFeature.mint.mask = 0)
      (hlength : recipients.length = amounts.length)
      (hmints : mintAll context caller token.core (recipients.zip amounts) = .ok after.core) :
      CoreEffect context token after caller privileged (.batchMint recipients amounts)
  | own (operation : AssetOperation) (hown : operation.Own)
      (hcore : after.core = token.core) :
      CoreEffect context token after caller privileged operation

theorem AssetOperation.coreEffect {operation : AssetOperation}
    (hperf : operation.perform context token caller privileged = .ok after) :
    CoreEffect context token after caller privileged operation := by
  cases operation with
  | common operation =>
    obtain ⟨core, hcore, hafter⟩ := bind_eq_ok.mp hperf
    cases hafter
    exact .common operation hcore
  | updateMultiplier =>
    obtain ⟨-, -, rfl⟩ := updateMultiplier_eq_ok hperf
    exact .own _ trivial rfl
  | updateExtraMetadata =>
    obtain ⟨-, -, rfl⟩ := updateExtraMetadata_eq_ok hperf
    exact .own _ trivial rfl
  | batchMint recipients amounts =>
    obtain ⟨hpaused, -, hlength, -, core, hmints, rfl⟩ := batchMint_eq_ok hperf
    exact .batchMint recipients amounts hpaused hlength hmints
  | updateUiMultiplier =>
    obtain ⟨-, -, -, -, -, rfl⟩ := updateUiMultiplier_eq_ok hperf
    exact .own _ trivial rfl
  | cancelUiMultiplierUpdate =>
    obtain ⟨-, -, rfl⟩ := cancelUiMultiplierUpdate_eq_ok hperf
    exact .own _ trivial rfl

end B20

end BaseChain
