/-
A shadow sequencer builds private blocks on a canonical anchor and has them replaced
by canonical ones.  It sends a payload again until the engine acknowledges it, and
every attempt passes the gate that buffers payloads for the reconciliation.
-/
import BaseChain.ShadowReconciliation
import Mathlib.Order.Interval.Finset.Nat

namespace BaseChain

open Table

open ShadowReconciliationGate

inductive ShadowCycle
  | building (nextHeight built : Nat)
  | awaitingReconciliation (shadowHead : BlockNumHash)

namespace ShadowCycle

def start (canonicalHead : BlockNumHash) : ShadowCycle :=
  building (canonicalHead.number + 1) 0

/-- Validate an acknowledged insertion against the payload and the cycle, and record it. -/
def onShadowInsertion (envelope : ExecutionPayload) (head : BlockNumHash) (blocksPerCycle : Nat) :
    ShadowCycle → Option ShadowCycle
  | building nextHeight built =>
    if envelope.number ≠ head.number ∨ envelope.hash ≠ head.hash ∨ head.number ≠ nextHeight then
      none
    else if built + 1 = blocksPerCycle then some (awaitingReconciliation head)
    else some (building (nextHeight + 1) (built + 1))
  | awaitingReconciliation _ => none

variable {σ : Type} {gate : ShadowReconciliationGate σ} {envelope : ExecutionPayload}

/-- Canonical payloads do not conflict, and at most as many heights as the buffer takes
lie above the anchor. -/
def Agrees (gate : ShadowReconciliationGate σ) (envelope : ExecutionPayload) : Prop :=
  (∀ existing ∈ gate.payloads.lookup envelope.number, existing.hash = envelope.hash) ∧
    (gate.anchor.number < envelope.number →
      (insert envelope.number gate.payloads.keys).card ≤ maxPayloads)

variable (blocksPerCycle : Nat) (spares : Prop)

/-- The runs of a shadow sequencer: the gate, the cycle, the payload that waits for an
acknowledgement and the private payloads of the cycle.  A run that spares the gate sends
no payload again to a full buffer, and defers no safe signal to one. -/
inductive Run : ShadowReconciliationGate σ → ShadowCycle → Option ExecutionPayload →
    List ExecutionPayload → Prop
  | reset (anchor : BlockNumHash) : Run { anchor } (.start anchor) none []
  | canonical {gate cycle sealer sent} (envelope : ExecutionPayload)
      (hrun : Run gate cycle sealer sent) (hagrees : Agrees gate envelope) :
      Run (gate.bufferPayload envelope) cycle sealer sent
  | safeSignal {gate cycle sealer sent} (signal : σ) (hrun : Run gate cycle sealer sent)
      (hspares : spares → gate.safeSignals.length < maxSafeSignals) :
      Run (gate.bufferSafeSignal signal) cycle sealer sent
  | send {gate built sent} (envelope : ExecutionPayload)
      (hrun : Run gate (.building envelope.number built) none sent) :
      Run (gate.bufferLocalPayload envelope) (.building envelope.number built)
        (some envelope) (envelope :: sent)
  | resend {gate cycle envelope sent} (hrun : Run gate cycle (some envelope) sent)
      (hspares : spares → gate.localPayloads.keys.card < maxPayloads) :
      Run (gate.bufferLocalPayload envelope) cycle (some envelope) sent
  | acknowledge {gate cycle envelope sent next} (head : BlockNumHash)
      (hrun : Run gate cycle (some envelope) sent)
      (hrecord : cycle.onShadowInsertion envelope head blocksPerCycle = some next) :
      Run gate next none sent
  | reconcile {gate sent shadowHead} (head : BlockNumHash)
      (hrun : Run gate (.awaitingReconciliation shadowHead) none sent)
      (hhead : head.number = shadowHead.number) :
      Run (gate.commit head) (.start head) none []

theorem bufferPayload_agrees (hagrees : Agrees gate envelope) :
    ∃ payloads, gate.bufferPayload envelope = { gate with payloads } := by
  unfold bufferPayload
  split
  · exact ⟨_, rfl⟩
  · rename_i habove
    split
    · rename_i existing hexisting
      exact ⟨_, if_neg (not_not.mpr (hagrees.1 existing hexisting))⟩
    · rename_i hnew
      have hroom := hagrees.2 (not_le.mp (not_or.mp habove).1)
      rw [Finset.card_insert_of_notMem (Finmap.lookup_eq_none.mp hnew)] at hroom
      exact ⟨_, if_neg (Nat.not_le_of_lt hroom)⟩

theorem bufferLocalPayload_new (hfaulted : gate.faulted = false)
    (hanchor : gate.anchor.number < envelope.number)
    (hroom : gate.localPayloads.keys.card < maxPayloads)
    (hnew : envelope.number ∉ gate.localPayloads) : gate.bufferLocalPayload envelope =
      { gate with localPayloads := gate.localPayloads.insert envelope.number envelope } := by
  rw [bufferLocalPayload, if_neg (by simp [hfaulted, hanchor]), if_neg hroom.not_ge,
    Finmap.lookup_eq_none.mpr hnew]

/-- The highest private height sent. -/
def lastSent : ShadowCycle → Option ExecutionPayload → Nat
  | .building nextHeight _, none => nextHeight - 1
  | .building nextHeight _, some _ => nextHeight
  | .awaitingReconciliation shadowHead, _ => shadowHead.number

structure Holds (gate : ShadowReconciliationGate σ) (cycle : ShadowCycle)
    (sealer : Option ExecutionPayload) (sent : List ExecutionPayload) : Prop where
  unfaulted : gate.faulted = false
  kept : ∀ envelope ∈ sent, gate.localPayloads.lookup envelope.number = some envelope
  waiting : ∀ envelope ∈ sealer, envelope ∈ sent
  heights : gate.localPayloads.keys = Finset.Ioc gate.anchor.number (lastSent cycle sealer)
  built : ∀ nextHeight built, cycle = .building nextHeight built →
    nextHeight = gate.anchor.number + built + 1 ∧ built < blocksPerCycle

variable {blocksPerCycle} {spares}

theorem Run.holds {cycle sealer sent} (hpositive : 0 < blocksPerCycle)
    (hlimit : blocksPerCycle ≤ maxPayloads) (hspares : spares)
    (hrun : Run blocksPerCycle spares gate cycle sealer sent) :
    Holds blocksPerCycle gate cycle sealer sent := by
  induction hrun with
  | reset anchor =>
    refine ⟨rfl, nofun, nofun, (Finset.Ioc_self _).symm, ?_⟩
    rintro nextHeight built ⟨⟩
    exact ⟨rfl, hpositive⟩
  | canonical envelope hrun hagrees ih =>
    obtain ⟨payloads, hgate⟩ := bufferPayload_agrees hagrees
    rw [hgate]
    exact ⟨ih.unfaulted, ih.kept, ih.waiting, ih.heights, ih.built⟩
  | safeSignal signal hrun hroom ih =>
    rw [bufferSafeSignal, if_neg (hroom hspares).not_ge]
    exact ⟨ih.unfaulted, ih.kept, ih.waiting, ih.heights, ih.built⟩
  | @send gate built sent envelope hrun ih =>
    obtain ⟨hnumber, hbuilt⟩ := ih.built _ _ rfl
    have habove : gate.anchor.number < envelope.number := by omega
    have hheights : gate.localPayloads.keys = Finset.Ioc _ (envelope.number - 1) := ih.heights
    have hnew : envelope.number ∉ gate.localPayloads := by
      rw [← Finmap.mem_keys, hheights, Finset.mem_Ioc]
      omega
    have hroom : gate.localPayloads.keys.card < maxPayloads := by
      rw [hheights, Nat.card_Ioc]
      omega
    rw [bufferLocalPayload_new ih.unfaulted habove hroom hnew]
    refine ⟨ih.unfaulted, ?_, ?_, ?_, ih.built⟩
    · intro other hother
      rw [lookup_insert]
      rcases List.mem_cons.mp hother with rfl | hother
      · rw [if_pos rfl]
      · have hkept := ih.kept other hother
        rw [if_neg, hkept]
        intro hsame
        exact hnew (hsame ▸ Finmap.mem_of_lookup_eq_some hkept)
    · rintro other ⟨⟩
      exact List.mem_cons_self
    · ext number
      rw [Finmap.mem_keys, Finmap.mem_insert, ← Finmap.mem_keys, hheights]
      simp only [Finset.mem_Ioc, lastSent]
      omega
  | @resend gate cycle envelope sent hrun hroom ih =>
    have hkept := ih.kept envelope (ih.waiting envelope rfl)
    have hsame : gate.bufferLocalPayload envelope = gate := by
      rw [bufferLocalPayload, if_neg (hroom hspares).not_ge, hkept]
      exact ite_self _
    rwa [hsame]
  | @acknowledge gate cycle envelope sent next head hrun hrecord ih =>
    cases cycle with
    | awaitingReconciliation shadowHead => nomatch hrecord
    | building nextHeight built =>
      obtain ⟨hnext, hbuilt⟩ := ih.built nextHeight built rfl
      obtain ⟨hmatches, hrecord⟩ := Option.ite_none_left_eq_some.mp hrecord
      split at hrecord
      · cases hrecord
        refine ⟨ih.unfaulted, ih.kept, nofun, ?_, nofun⟩
        have hhead : head.number = nextHeight := by tauto
        rw [lastSent, hhead]
        exact ih.heights
      · cases hrecord
        refine ⟨ih.unfaulted, ih.kept, nofun, ih.heights, ?_⟩
        rintro _ _ ⟨⟩
        exact ⟨by omega, by omega⟩
  | @reconcile gate sent shadowHead head hrun hhead ih =>
    refine ⟨ih.unfaulted, nofun, nofun, ?_, ?_⟩
    · refine (Finset.eq_empty_of_forall_notMem fun number hmem => ?_).trans
        (Finset.Ioc_self _).symm
      obtain ⟨payload, hpayload⟩ := Finmap.mem_iff.mp hmem
      obtain ⟨habove, hlocal⟩ := Option.ite_none_right_eq_some.mp
        ((lookup_filterKeys _ _ _).symm.trans hpayload)
      have hbelow := Finmap.mem_keys.mpr (Finmap.mem_of_lookup_eq_some hlocal)
      rw [ih.heights, Finset.mem_Ioc, lastSent, ← hhead] at hbelow
      exact absurd (of_decide_eq_true habove) hbelow.2.not_gt
    · rintro nextHeight built ⟨⟩
      exact ⟨rfl, hpositive⟩

/-- In every run that spares the gate, it is not faulted and keeps every private
payload of the cycle. -/
theorem retries_keep_cycle {cycle sealer sent} (hpositive : 0 < blocksPerCycle)
    (hlimit : blocksPerCycle ≤ maxPayloads)
    (hrun : Run blocksPerCycle True gate cycle sealer sent) :
    gate.faulted = false ∧
      ∀ envelope ∈ sent, gate.localPayloads.lookup envelope.number = some envelope :=
  have hholds := hrun.holds hpositive hlimit trivial
  ⟨hholds.unfaulted, hholds.kept⟩

def samplePayload (number : Nat) : ExecutionPayload := ⟨number, default, default, []⟩

theorem retries_keep_cycle_once : ∃ gate : ShadowReconciliationGate Unit,
    gate.faulted = false ∧ ∀ envelope ∈ [samplePayload 1],
      gate.localPayloads.lookup envelope.number = some envelope :=
  have hsent : Run 1 True _ (.building 1 0) _ [samplePayload 1] :=
    (Run.reset ⟨0, default⟩).send (samplePayload 1)
  ⟨_, retries_keep_cycle (by decide) (by decide) (hsent.resend fun _ => by decide)⟩

theorem exists_run (built : Nat) (hbuilt : built < maxPayloads) :
    ∃ (gate : ShadowReconciliationGate Unit) (sent : List ExecutionPayload),
      ∀ spares, Run maxPayloads spares gate (.building (built + 1) built) none sent := by
  induction built with
  | zero => exact ⟨_, _, fun _ => .reset ⟨0, default⟩⟩
  | succ built ih =>
    obtain ⟨gate, sent, hrun⟩ := ih (Nat.lt_of_succ_lt hbuilt)
    refine ⟨_, _, fun spares => ((hrun spares).send (samplePayload (built + 1))).acknowledge
      ⟨built + 1, default⟩ ?_⟩
    simp [onShadowInsertion, samplePayload, hbuilt.ne]

/-- The last payload of a cycle of the full length is sent twice: the first attempt fills
the buffer, and the second one finds it full. -/
theorem full_cycle_retry_faults : ∃ (gate : ShadowReconciliationGate Unit) (cycle : ShadowCycle)
    (sealer : Option ExecutionPayload) (sent : List ExecutionPayload),
    Run maxPayloads False gate cycle sealer sent ∧ gate.faulted = true := by
  obtain ⟨gate, sent, hrun⟩ := exists_run 299 (by decide)
  have hsent := fun spares => (hrun spares).send (samplePayload 300)
  refine ⟨_, _, _, _, (hsent False).resend nofun, ?_⟩
  have hholds := (hsent True).holds (by decide) le_rfl trivial
  generalize gate.bufferLocalPayload (samplePayload 300) = gate at hholds
  have hnumber : (samplePayload 300).number = 300 := rfl
  have hanchor : 300 = gate.anchor.number + 299 + 1 := (hholds.built _ _ rfl).1
  rw [bufferLocalPayload, if_neg, if_pos]
  · rw [hholds.heights, Nat.card_Ioc, lastSent, maxPayloads, hnumber]
    omega
  · rw [hholds.unfaulted, hnumber]
    exact not_or.mpr ⟨by omega, nofun⟩

end ShadowCycle

end BaseChain
