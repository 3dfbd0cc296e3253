/-
The gate of a shadow sequencer.  It buffers canonical payloads and the sequencer's own
ones, and selects from both the canonical segment that replaces the private branch.
-/
import BaseChain.RollupConfig
import BaseChain.Table

namespace BaseChain

open List Table

/-- An execution payload; the body is what the gate does not read. -/
structure ExecutionPayload where
  number : Nat
  parentHash : B256
  hash : B256
  body : Bytes

inductive EngineClientError
  | shadowBufferFaulted
  | invalidShadowReconciliation (message : String)

structure CanonicalReconciliationInputs (σ : Type) where
  shadowHead : BlockNumHash
  payloads : List ExecutionPayload
  safeSignals : List σ
  finalizedBlockNumber : Option Nat

structure ShadowReconciliationGate (σ : Type) where
  payloads : Table Nat ExecutionPayload := ∅
  localPayloads : Table Nat ExecutionPayload := ∅
  faulted : Bool := false
  anchor : BlockNumHash
  safeSignals : List σ := []
  latestFinalized : Option Nat := none

namespace ShadowReconciliationGate

def maxPayloads : Nat := 300

def maxSafeSignals : Nat := 1024

variable {σ : Type} (gate : ShadowReconciliationGate σ) (envelope : ExecutionPayload)

def bufferPayload : ShadowReconciliationGate σ :=
  if envelope.number ≤ gate.anchor.number ∨ gate.faulted then gate
  else match gate.payloads.lookup envelope.number with
    | some existing =>
      if existing.hash ≠ envelope.hash then { gate with faulted := true } else gate
    | none =>
      if maxPayloads ≤ gate.payloads.keys.card then { gate with faulted := true }
      else { gate with payloads := gate.payloads.insert envelope.number envelope }

/-- A full buffer faults before it is asked whether it holds the height. -/
def bufferLocalPayload : ShadowReconciliationGate σ :=
  if envelope.number ≤ gate.anchor.number ∨ gate.faulted then gate
  else if maxPayloads ≤ gate.localPayloads.keys.card then { gate with faulted := true }
  else match gate.localPayloads.lookup envelope.number with
    | some _ => gate
    | none => { gate with localPayloads := gate.localPayloads.insert envelope.number envelope }

def bufferSafeSignal (signal : σ) : ShadowReconciliationGate σ :=
  if maxSafeSignals ≤ gate.safeSignals.length then { gate with faulted := true }
  else { gate with safeSignals := gate.safeSignals ++ [signal] }

def bufferFinalized (number : Nat) : ShadowReconciliationGate σ :=
  { gate with latestFinalized := some (match gate.latestFinalized with
      | some previous => if previous > number then previous else number
      | none => number) }

/-- The payload at a height, a canonical one before a local one. -/
def select (number : Nat) : Option ExecutionPayload :=
  (gate.payloads.lookup number).or (gate.localPayloads.lookup number)

/-- Follow the parent hashes up a range, to the last hash and whether a canonical parent
hash must still vouch for it. -/
def follow : List Nat → B256 → Bool → Except EngineClientError (Option (B256 × Bool))
  | [], parent, needsWitness => .ok (some (parent, needsWitness))
  | number :: range, parent, needsWitness =>
    match gate.select number with
    | none => .ok none
    | some payload =>
      if payload.parentHash ≠ parent then
        if needsWitness || (gate.payloads.lookup number).isNone then .ok none
        else .error (.invalidShadowReconciliation "payload parent continuity mismatch")
      else follow range payload.hash (gate.payloads.lookup number).isNone

/-- Select a complete range and take it out of the buffers. -/
def prepare (shadowHead : BlockNumHash) :
    Except EngineClientError (Option (CanonicalReconciliationInputs σ)) ×
      ShadowReconciliationGate σ :=
  if gate.faulted then (.error .shadowBufferFaulted, gate)
  else if shadowHead.number < gate.anchor.number then
    (.error (.invalidShadowReconciliation "shadow head precedes anchor"), gate)
  else
    let length := shadowHead.number - gate.anchor.number
    if length = 0 ∨ maxPayloads < length then
      (.error (.invalidShadowReconciliation "invalid reconciliation range"), gate)
    else
      let range := range' (gate.anchor.number + 1) length
      match gate.follow range gate.anchor.hash false with
      | .error error => (.error error, gate)
      | .ok none => (.ok none, gate)
      | .ok (some (parent, needsWitness)) =>
        -- the source stays at the largest height, which has no canonical payload then
        if needsWitness ∧ (gate.payloads.lookup (shadowHead.number + 1)).all
            (·.parentHash ≠ parent) then (.ok none, gate)
        else
          (.ok (some ⟨shadowHead, range.filterMap gate.select, gate.safeSignals,
            gate.latestFinalized⟩),
            { gate with
              payloads := gate.payloads.filterKeys (· ∉ range)
              localPayloads := gate.localPayloads.filterKeys fun number =>
                number ∉ range || (gate.payloads.lookup number).isSome
              safeSignals := [] })

def commit (head : BlockNumHash) : ShadowReconciliationGate σ :=
  { gate with
    payloads := gate.payloads.filterKeys (head.number < ·)
    localPayloads := gate.localPayloads.filterKeys (head.number < ·)
    anchor := head
    safeSignals := []
    latestFinalized := none }

/-- A chain of payloads from genesis on. -/
structure CanonicalChain where
  block : Nat → ExecutionPayload
  number : ∀ number, (block number).number = number
  linked : ∀ number, (block (number + 1)).parentHash = (block number).hash

variable (chain : CanonicalChain) (first : Nat)

def CanonicalChain.head (number : Nat) : BlockNumHash := ⟨number, (chain.block number).hash⟩

/-- The runs of a gate since it was anchored, with the payloads applied since then.  Inputs
come in any order, and a local payload with the hash of a canonical block is that block.
The engine acknowledges a reconciliation with the head that it led to. -/
inductive Run : List ExecutionPayload → ShadowReconciliationGate σ → Prop
  | reanchor : Run [] { anchor := chain.head first }
  | payload {applied gate} (number : Nat) (hrun : Run applied gate) :
      Run applied (gate.bufferPayload (chain.block number))
  | localPayload {applied gate} (envelope : ExecutionPayload) (hrun : Run applied gate)
      (hunique : ∀ number, envelope.hash = (chain.block number).hash →
        envelope = chain.block number) :
      Run applied (gate.bufferLocalPayload envelope)
  | safeSignal {applied gate} (signal : σ) (hrun : Run applied gate) :
      Run applied (gate.bufferSafeSignal signal)
  | finalized {applied gate} (number : Nat) (hrun : Run applied gate) :
      Run applied (gate.bufferFinalized number)
  | reconcile {applied gate inputs} (shadowHead head : BlockNumHash) (hrun : Run applied gate)
      (hprepare : (gate.prepare shadowHead).1 = .ok (some inputs))
      (hhead : ∃ last ∈ inputs.payloads.getLast?, head = ⟨shadowHead.number, last.hash⟩) :
      Run (applied ++ inputs.payloads) ((gate.prepare shadowHead).2.commit head)

/-- Every height has its canonical payload, or the local payloads from it to some height
are canonical blocks and the next canonical payload is there. -/
def Covered (last : Nat) : Prop :=
  ∀ number, gate.anchor.number < number → number ≤ last →
    gate.payloads.lookup number = some (chain.block number) ∨
      ∃ top, number ≤ top ∧ top ≤ last ∧
        (∀ height, number ≤ height → height ≤ top →
          gate.localPayloads.lookup height = some (chain.block height)) ∧
        gate.payloads.lookup (top + 1) = some (chain.block (top + 1))

/-- A result without an error: the canonical segment up to a head, or nothing with the gate
as it was.  It is not nothing when every height is covered. -/
structure Reconciles (shadowHead : BlockNumHash)
    (result : Except EngineClientError (Option (CanonicalReconciliationInputs σ)) ×
      ShadowReconciliationGate σ) : Prop where
  succeeds : ∃ inputs, result.1 = .ok inputs
  canonical : ∀ inputs, result.1 = .ok (some inputs) → inputs.payloads =
    (range' (gate.anchor.number + 1) (shadowHead.number - gate.anchor.number)).map chain.block
  unchanged : result.1 = .ok none → result.2 = gate
  complete : Covered gate chain shadowHead.number → result.1 ≠ .ok none

structure Sound (applied : List ExecutionPayload) : Prop where
  anchored : gate.anchor = chain.head (first + applied.length)
  applied : applied = (range' (first + 1) applied.length).map chain.block
  payloads : ∀ number payload, gate.payloads.lookup number = some payload →
    payload = chain.block number
  unique : ∀ number payload, gate.localPayloads.lookup number = some payload →
    ∀ other, payload.hash = (chain.block other).hash → payload = chain.block other

def Selects (range : List Nat) : Prop :=
  ∀ number ∈ range, gate.select number = some (chain.block number)

/-- What the walk knows of the hash it has reached. -/
def Vouched (number : Nat) (hash : B256) (needsWitness : Bool) : Prop :=
  if needsWitness then gate.payloads.lookup number = none else hash = (chain.block number).hash

variable {gate chain first} {applied : List ExecutionPayload} {shadowHead : BlockNumHash}

section Prepare

variable (hsound : Sound gate chain first applied)
include hsound

theorem Sound.select_payload {number : Nat} {payload : ExecutionPayload}
    (hpayload : gate.select number = some payload) :
    Vouched gate chain number payload.hash (gate.payloads.lookup number).isNone ∧
      (payload.hash = (chain.block number).hash → payload = chain.block number) := by
  unfold Vouched
  cases hlookup : gate.payloads.lookup number with
  | none => grind [select, hsound.unique]
  | some found => grind [select, hsound.payloads]

/-- The walk does not fail, and it ends with the canonical hash exactly when it starts with
one and every height selects its canonical payload. -/
theorem Sound.follow (low length : Nat) {parent : B256} {needsWitness : Bool}
    (hparent : Vouched gate chain low parent needsWitness) :
    ∃ result, gate.follow (range' (low + 1) length) parent needsWitness = .ok result ∧
      (parent = (chain.block low).hash ∧ Selects gate chain (range' (low + 1) length) ↔
        ∃ witness, result = some ((chain.block (low + length)).hash, witness)) ∧
      ∀ last witness, result = some (last, witness) →
        Vouched gate chain (low + length) last witness := by
  induction length generalizing low parent needsWitness with
  | zero =>
    refine ⟨_, rfl, by simp [Selects], ?_⟩
    rintro _ _ ⟨⟩
    exact hparent
  | succ length ih =>
    have hlinked := chain.linked low
    rw [range'_succ, ShadowReconciliationGate.follow, Selects, forall_mem_cons]
    cases hpayload : gate.select (low + 1) with
    | none => exact ⟨none, rfl, by simp, nofun⟩
    | some payload =>
      obtain ⟨hvouched, hsame⟩ := hsound.select_payload hpayload
      by_cases hparents : payload.parentHash = parent
      · obtain ⟨result, hresult, hrest, hlast⟩ := ih (low + 1) hvouched
        rw [show low + 1 + length = low + (length + 1) by omega] at hrest hlast
        refine ⟨result, by simpa [hparents] using hresult, ?_, hlast⟩
        rw [← hrest, Selects]
        grind
      · refine ⟨none, ?_, by grind, nofun⟩
        -- between two canonical payloads the hashes agree, so one of them is local
        unfold Vouched at hparent hvouched
        grind

theorem Sound.anchor_hash : gate.anchor.hash = (chain.block gate.anchor.number).hash := by
  rw [hsound.anchored]
  rfl

theorem Sound.selects_of_covered (hall : Covered gate chain shadowHead.number) :
    Selects gate chain
      (range' (gate.anchor.number + 1) (shadowHead.number - gate.anchor.number)) := by
  intro number hrange
  obtain ⟨hlow, hhigh⟩ := mem_range'_1.mp hrange
  obtain hpayload | ⟨top, hle, -, hlocal, -⟩ := hall number hlow (by omega)
  · rw [select, hpayload, Option.some_or]
  · cases hlookup : gate.payloads.lookup number with
    | none => rw [select, hlookup, Option.none_or, hlocal number le_rfl hle]
    | some found => rw [select, hlookup, Option.some_or, hsound.payloads _ _ hlookup]

theorem Sound.reconciles (hfaulted : gate.faulted = false)
    (habove : gate.anchor.number < shadowHead.number)
    (hlimit : shadowHead.number ≤ gate.anchor.number + maxPayloads) :
    Reconciles gate chain shadowHead (gate.prepare shadowHead) := by
  have hlinked := chain.linked shadowHead.number
  obtain ⟨result, hresult, hselects, hvouched⟩ := hsound.follow gate.anchor.number
    (shadowHead.number - gate.anchor.number) (show Vouched _ _ _ _ false from hsound.anchor_hash)
  rw [Nat.add_sub_of_le habove.le] at hselects hvouched
  have hcovered := fun hall => hselects.mp ⟨hsound.anchor_hash, hsound.selects_of_covered hall⟩
  rw [prepare, if_neg (by simp [hfaulted]), if_neg (by omega)]
  dsimp only
  rw [if_neg (by omega), hresult]
  cases result with
  | none => exact ⟨⟨_, rfl⟩, nofun, fun _ => rfl, fun hall => nomatch hcovered hall⟩
  | some found =>
    obtain ⟨parent, needsWitness⟩ := found
    have hvouched := hvouched parent needsWitness rfl
    dsimp only
    split
    · rename_i hwaits
      refine ⟨⟨_, rfl⟩, nofun, fun _ => rfl, fun hall => ?_⟩
      obtain ⟨_, ⟨⟩⟩ := hcovered hall
      have hnone : gate.payloads.lookup shadowHead.number = none := (if_pos hwaits.1).mp hvouched
      -- no canonical payload is at the head itself, so the covering run ends there
      obtain hpayload | ⟨top, hle, hge, -, hnext⟩ := hall shadowHead.number habove le_rfl
      · exact nomatch hnone.symm.trans hpayload
      · obtain rfl := Nat.le_antisymm hle hge
        simp [hnext, hlinked] at hwaits
    · rename_i hwitness
      have hparent : parent = (chain.block shadowHead.number).hash := by
        cases needsWitness with
        | false => exact hvouched
        | true =>
          cases hnext : gate.payloads.lookup (shadowHead.number + 1) with
          | none => simp [hnext] at hwitness
          | some payload =>
            obtain rfl : payload.parentHash = parent := by simpa [hnext] using hwitness
            rw [hsound.payloads _ _ hnext, hlinked]
      obtain ⟨-, hselect⟩ := hselects.mpr ⟨needsWitness, hparent ▸ rfl⟩
      refine ⟨⟨_, rfl⟩, ?_, nofun, nofun⟩
      rintro _ ⟨⟩
      rw [← filterMap_eq_map]
      exact filterMap_congr hselect

end Prepare

theorem prepare_eq_some {inputs : CanonicalReconciliationInputs σ}
    (hprepare : (gate.prepare shadowHead).1 = .ok (some inputs)) :
    gate.faulted = false ∧ gate.anchor.number < shadowHead.number ∧
      shadowHead.number ≤ gate.anchor.number + maxPayloads ∧
      ∃ keep keepLocal, (gate.prepare shadowHead).2 = { gate with
        payloads := gate.payloads.filterKeys keep
        localPayloads := gate.localPayloads.filterKeys keepLocal
        safeSignals := [] } := by
  generalize hresult : gate.prepare shadowHead = result at hprepare
  unfold prepare at hresult
  dsimp only at hresult
  repeat' split at hresult
  all_goals subst hresult
  all_goals cases hprepare
  exact ⟨by simpa using ‹¬ gate.faulted = true›, by omega, by omega, _, _, rfl⟩

theorem Run.sound (hrun : Run chain first applied gate) : Sound gate chain first applied := by
  induction hrun with
  | reanchor => exact ⟨rfl, rfl, by simp, by simp⟩
  | @payload _ gate number _ ih =>
    have hnumber := chain.number number
    unfold bufferPayload
    repeat' split
    all_goals refine ⟨ih.anchored, ih.applied, ?_, ih.unique⟩
    all_goals grind [ih.payloads, lookup_insert]
  | @localPayload _ gate envelope _ hunique ih =>
    unfold bufferLocalPayload
    repeat' split
    all_goals refine ⟨ih.anchored, ih.applied, ih.payloads, ?_⟩
    all_goals grind [ih.unique, lookup_insert]
  | safeSignal _ _ ih =>
    unfold bufferSafeSignal
    split
    all_goals exact ⟨ih.anchored, ih.applied, ih.payloads, ih.unique⟩
  | finalized _ _ ih => exact ⟨ih.anchored, ih.applied, ih.payloads, ih.unique⟩
  | @reconcile applied gate inputs shadowHead head _ hprepare hhead ih =>
    obtain ⟨hfaulted, habove, hlimit, keep, keepLocal, hrest⟩ := prepare_eq_some hprepare
    have hpayloads := (ih.reconciles hfaulted habove hlimit).canonical inputs hprepare
    have hanchor : gate.anchor.number = first + applied.length := by rw [ih.anchored]; rfl
    have hlength : first + (applied ++ inputs.payloads).length = shadowHead.number := by
      rw [hpayloads, length_append, length_map, length_range']
      omega
    obtain ⟨last, hlast, rfl⟩ := hhead
    rw [hrest, commit]
    refine ⟨?_, ?_, ?_, ?_⟩
    · have htop : gate.anchor.number + 1 + (shadowHead.number - gate.anchor.number) - 1 =
          shadowHead.number := by omega
      rw [hpayloads, getLast?_map, getLast?_range', if_neg (by omega), htop] at hlast
      cases hlast
      rw [hlength]
      rfl
    · rw [length_append, ← range'_append_1, map_append, ← ih.applied, hpayloads, length_map,
        length_range', hanchor, Nat.add_right_comm]
    · grind [ih.payloads, lookup_filterKeys]
    · grind [ih.unique, lookup_filterKeys]

/-- In every run, a gate that is not faulted reconciles up to every head that a cycle can
reach. -/
theorem prepare_canonical {gate : ShadowReconciliationGate σ} (hrun : Run chain first applied gate)
    (hfaulted : gate.faulted = false) (habove : gate.anchor.number < shadowHead.number)
    (hlimit : shadowHead.number ≤ gate.anchor.number + maxPayloads) :
    Reconciles gate chain shadowHead (gate.prepare shadowHead) :=
  hrun.sound.reconciles hfaulted habove hlimit

/-- What was applied since the gate was anchored is the canonical chain up to the anchor,
without a gap, a repeated block or a private one. -/
theorem applied_canonical {gate : ShadowReconciliationGate σ}
    (hrun : Run chain first applied gate) :
    applied = (range' (first + 1) applied.length).map chain.block ∧
      gate.anchor = chain.head (first + applied.length) :=
  ⟨hrun.sound.applied, hrun.sound.anchored⟩

/-- Only block 1 has a hash of its own. -/
def sampleHash (number : Nat) : B256 :=
  ⟨replicate 32 (if number = 1 then 1 else 0), length_replicate⟩

def sampleChain : CanonicalChain where
  block number := ⟨number, sampleHash (number - 1), sampleHash number, []⟩
  number _ := rfl
  linked _ := rfl

/-- The local block 1 is vouched for by the canonical block 2. -/
def sampleGate : ShadowReconciliationGate Unit :=
  (bufferLocalPayload { anchor := sampleChain.head 0 } (sampleChain.block 1)).bufferPayload
    (sampleChain.block 2)

theorem sampleGate_run : Run sampleChain 0 [] sampleGate := by
  refine .payload 2 (.localPayload _ .reanchor fun number hhash => ?_)
  obtain rfl : number = 1 := by
    by_contra hone
    simpa [sampleChain, sampleHash, hone] using congrArg (·.val.head?) hhash
  rfl

theorem prepare_canonical_local : ∃ inputs, (sampleGate.prepare ⟨1, default⟩).1 =
    .ok (some inputs) ∧ inputs.payloads = [sampleChain.block 1] :=
  have hreconciles : Reconciles _ _ ⟨1, default⟩ _ :=
    prepare_canonical sampleGate_run rfl (by decide) (by decide)
  ⟨_, rfl, hreconciles.canonical _ rfl⟩

theorem applied_canonical_local : ∃ gate : ShadowReconciliationGate Unit,
    [sampleChain.block 1] = (range' 1 1).map sampleChain.block ∧ gate.anchor = sampleChain.head 1 :=
  ⟨_, applied_canonical (sampleGate_run.reconcile ⟨1, default⟩ _ rfl ⟨_, rfl, rfl⟩)⟩

end ShadowReconciliationGate

end BaseChain
