/-
Two runs of the batch stream over the same batches, parents and L1 origins, in
one of which lookups of the L2 chain fail for a while.  The prefix check of a
span batch asks for at most one block; when that lookup fails, the batch is
gone.
-/
import BaseChain.BatchStream
import BaseChain.BatchValidatorRuns

namespace BaseChain

open Checked SpanBatch Check

variable {σ : Type} (cfg : RollupConfig)

namespace SpanBatch

section Asked

variable {fetcher other : BatchValidationProvider} (safeHead : L2BlockInfo)
  (nextTimestamp start : Nat)

/-- The number of the block that is looked up as the parent of the span, or none
if the parent is the safe head. -/
def parentNumber : Check (Option Nat) := if start < nextTimestamp then do
    require (start ≤ safeHead.blockInfo.timestamp) (.drop .spanBatchMisalignedTimestamp)
    require ((safeHead.blockInfo.timestamp - start) % cfg.blockTime = 0)
      (.drop .spanBatchNotOverlappedExactly)
    let overlap ← overlap cfg safeHead start
    let first ← Checked.sub .panic safeHead.blockInfo.number overlap
    let parentNum ← Checked.sub .panic first 1
    return some parentNum
  else .ok none

variable (batch : SpanBatch) (l1Origins : List BlockInfo)

/-- What the prefix check does before it looks up a block. -/
def checkBeforeLookup (safeHead : L2BlockInfo) (inclusionBlock : BlockInfo) : Check (Option Nat) :=
  match l1Origins, batch.batches with
  | [], _ => stop .undecided
  | _, [] => stop .undecided
  | epoch :: rest, first :: more => do
      let next ← nextNumber cfg safeHead
      let origin ← batchOrigin epoch rest first.epochNum
      checkTiming cfg origin inclusionBlock (cfg.l2BlockTimestamp next)
        first.timestamp (more.getLastD first).timestamp
      parentNumber cfg safeHead (cfg.l2BlockTimestamp next) first.timestamp

/-- The number of the block that the prefix check asks the L2 chain for. -/
def askedNumber (safeHead : L2BlockInfo) (inclusionBlock : BlockInfo) : Option Nat :=
  match checkBeforeLookup cfg batch l1Origins safeHead inclusionBlock with
  | .ok number => number
  | .error _ => none

variable {cfg}

/-- The block that the lookup gives. -/
def lookedUp (fetcher : BatchValidationProvider) : Option Nat → Check L2BlockInfo
  | none => .ok safeHead
  | some number => fetchParent fetcher number

theorem parentBlock_eq : parentBlock cfg safeHead fetcher nextTimestamp start =
      parentNumber cfg safeHead nextTimestamp start >>= lookedUp safeHead fetcher := by
  unfold parentBlock parentNumber
  split
  · simp only [bind_assoc]
    rfl
  · rfl

theorem checkPrefix_eq (epoch : BlockInfo)
    (rest : List BlockInfo) (safeHead : L2BlockInfo) (inclusionBlock : BlockInfo)
    {first : SpanBatchElement} {more : List SpanBatchElement}
    (hbatches : batch.batches = first :: more) :
    checkPrefix cfg batch (epoch :: rest) safeHead inclusionBlock fetcher = (do
      let number ← checkBeforeLookup cfg batch (epoch :: rest) safeHead inclusionBlock
      let parent ← lookedUp safeHead fetcher number
      checkOrigins cfg batch (epoch :: rest) parent inclusionBlock first.epochNum
        (more.getLastD first).epochNum
      return parent) := by
  unfold checkPrefix checkBeforeLookup
  rw [hbatches]
  simp [parentBlock_eq]

variable {inclusionBlock : BlockInfo} {safeHead : L2BlockInfo} {l1Origins : List BlockInfo}
  {batch : SpanBatch}

/-- Two providers that agree on the block asked for give the same verdict. -/
theorem checkBatchPrefix_congr (hagree : ∀ number,
      batch.askedNumber cfg l1Origins safeHead inclusionBlock = some number →
        fetcher.l2BlockInfoByNumber number = other.l2BlockInfoByNumber number) :
    batch.checkBatchPrefix cfg l1Origins safeHead inclusionBlock fetcher =
      batch.checkBatchPrefix cfg l1Origins safeHead inclusionBlock other := by
  unfold checkBatchPrefix
  cases l1Origins with
  | nil => rfl
  | cons epoch rest =>
    cases hbatches : batch.batches with
    | nil => simp [checkPrefix, hbatches]
    | cons =>
      rw [checkPrefix_eq batch epoch rest safeHead inclusionBlock hbatches,
        checkPrefix_eq batch epoch rest safeHead inclusionBlock hbatches]
      unfold askedNumber at hagree
      cases hcheck : checkBeforeLookup cfg batch (epoch :: rest) safeHead inclusionBlock with
      | error => rfl
      | ok number =>
        rw [hcheck] at hagree
        cases number with
        | none => rfl
        | some number =>
          have hlookup : lookedUp safeHead fetcher (some number) =
              lookedUp safeHead other (some number) := by
            simp [lookedUp, fetchParent, hagree number rfl]
          rw [bind_ok rfl, bind_ok rfl, hlookup]

variable {number : Nat}
  (hasked : batch.askedNumber cfg l1Origins safeHead inclusionBlock = some number)

include hasked in
/-- Without the block asked for there is no verdict. -/
theorem checkBatchPrefix_undecided (hfails : fetcher.l2BlockInfoByNumber number = none) :
    batch.checkBatchPrefix cfg l1Origins safeHead inclusionBlock fetcher =
      some (.undecided, none) := by
  unfold askedNumber at hasked
  split at hasked
  · rename_i asked hcheck
    obtain rfl := hasked
    unfold checkBatchPrefix
    cases l1Origins with
    | nil => cases hcheck
    | cons epoch rest =>
      cases hbatches : batch.batches with
      | nil =>
        simp only [checkBeforeLookup, hbatches] at hcheck
        cases hcheck
      | cons =>
        have hlookup : lookedUp safeHead fetcher (some number) = stop .undecided := by
          simp [lookedUp, fetchParent, hfails]
        rw [checkPrefix_eq batch epoch rest safeHead inclusionBlock hbatches,
          bind_ok hcheck, hlookup]
        rfl
  · cases hasked

include hasked in
theorem askedNumber_bound : safeHead.blockInfo.number + 1 ≤ u64Max := by
  unfold askedNumber at hasked
  split at hasked
  · rename_i asked hcheck
    unfold checkBeforeLookup at hcheck
    split at hcheck
    · cases hcheck
    · cases hcheck
    · obtain ⟨next, hnext, -⟩ := bind_eq_ok.mp hcheck
      exact (add_bind_eq_ok.mp hnext).1
  · cases hasked

end Asked

end SpanBatch

namespace BatchStream

variable (provider : BatchStreamProvider σ) (stage : BatchStream σ)

/-- The number of the block that a call asks the L2 chain for. -/
def asked (call : Call) : Option Nat := match provider.origin stage.prev with
  | none => none
  | some origin =>
    if cfg.isHoloceneActive origin.timestamp ∧ ¬ stale cfg stage call ∧ stage.buffer.isEmpty then
      match (provider.nextBatch stage.prev).1 with
      | .ok (.span batch) =>
        batch.askedNumber cfg call.l1Origins call.parent origin
      | _ => none
    else none

/-- The block that a call asks for is not found. -/
def LookupFails (call : Call) : Prop := ∃ number, asked cfg provider stage call = some number ∧
    call.fetcher.l2BlockInfoByNumber number = none

/-- The same call at a time when some lookups fail. -/
structure Weaker (attempt call : Call) : Prop where
  parent : attempt.parent = call.parent
  l1Origins : attempt.l1Origins = call.l1Origins
  fetcher : ∀ number, attempt.fetcher.l2BlockInfoByNumber number = none ∨
      attempt.fetcher.l2BlockInfoByNumber number = call.fetcher.l2BlockInfoByNumber number

/-- The events of a run and those of a run of the same stage in which lookups
fail for a while: a call whose lookup failed is made again. -/
inductive Flaky : BatchStream σ → List Event → List Event → Prop where
  | nil {stage : BatchStream σ} : Flaky stage [] []
  | panic {stage : BatchStream σ} {event : Event} {events flaky : List Event}
      (hstep : step cfg provider stage event = none) :
      Flaky stage (event :: events) (event :: flaky)
  | same {stage after : BatchStream σ} {event : Event}
      {events flaky : List Event} {batch : Option (Batch SpanBatch)}
      (hstep : step cfg provider stage event = some (batch, after))
      (hrest : Flaky after events flaky) :
      Flaky stage (event :: events) (event :: flaky)
  | unnoticed {stage : BatchStream σ} {attempt call : Call}
      {events flaky : List Event} (hweaker : Weaker attempt call)
      (hanswered : ¬ LookupFails cfg provider stage attempt)
      (hrest : ∀ batch after, step cfg provider stage (.call attempt) = some (batch, after) →
          Flaky after events flaky) :
      Flaky stage (.call call :: events) (.call attempt :: flaky)
  | retry {stage after : BatchStream σ} {attempt call : Call}
      {events flaky : List Event} {batch : Option (Batch SpanBatch)}
      (hweaker : Weaker attempt call)
      (hfails : LookupFails cfg provider stage attempt)
      (hstep : step cfg provider stage (.call attempt) = some (batch, after))
      (hrest : Flaky after (.call call :: events) flaky) :
      Flaky stage (.call call :: events) (.call attempt :: flaky)

/-- Every block that the calls of a run ask for is found. -/
def Answered : BatchStream σ → List Event → Prop
  | _, [] => True
  | stage, event :: events =>
    (∀ call, event = .call call → ¬ LookupFails cfg provider stage call) ∧
      ∀ batch after, step cfg provider stage event = some (batch, after) → Answered after events

variable {cfg provider} {stage : BatchStream σ} {attempt call : Call} {events flaky : List Event}
  {origin : BlockInfo} {batch : SpanBatch}

/-- A lookup that is not asked for may fail. -/
theorem nextBatch_congr (hweaker : Weaker attempt call)
    (hanswered : ¬ LookupFails cfg provider stage attempt) :
    nextBatch cfg provider stage attempt = nextBatch cfg provider stage call := by
  obtain ⟨parent, l1Origins, fetcher⟩ := attempt
  obtain ⟨_, _, other⟩ := call
  obtain ⟨rfl, rfl, hfetcher⟩ := hweaker
  have hsame : stale cfg stage ⟨parent, l1Origins, fetcher⟩ =
      stale cfg stage ⟨parent, l1Origins, other⟩ := rfl
  unfold nextBatch isActive pull
  cases horigin : provider.origin stage.prev with
  | none => rfl
  | some =>
    rw [← hsame]
    split
    · rfl
    · rfl
    rename_i hactive
    split
    · rfl
    split
    · rfl
    rename_i hstale
    split
    · rename_i hempty
      cases hpull : provider.nextBatch stage.prev with
      | mk result =>
        rcases result with kind | batch
        · rfl
        · cases batch with
          | single => rfl
          | span =>
            dsimp only
            unfold stageSpan
            rw [show SpanBatch.checkBatchPrefix _ _ _ _ _ fetcher = _ from
              checkBatchPrefix_congr (?_ : ∀ number, _ → _ = other.l2BlockInfoByNumber number)]
            · rfl
            intro number hnumber
            apply (hfetcher number).resolve_left
            intro hnone
            refine hanswered ⟨number, ?_, hnone⟩
            unfold asked
            rw [horigin]
            dsimp only
            rw [if_pos ⟨Except.ok.inj hactive, hstale, hempty⟩, hpull]
            exact hnumber
    · rfl

/-- The batch whose lookup failed is gone. -/
theorem step_of_lookupFails (hfails : LookupFails cfg provider stage call) :
    step cfg provider stage (.call call) =
      some (none, { stage with prev := (provider.nextBatch stage.prev).2 }) := by
  obtain ⟨number, hasked, hnone⟩ := hfails
  unfold asked at hasked
  split at hasked
  · cases hasked
  rename_i origin horigin
  split at hasked
  · rename_i hpulls
    obtain ⟨hactive, hstale, hempty⟩ := hpulls
    split at hasked
    · rename_i batch hpulled
      have hbound := askedNumber_bound hasked
      have hpull : provider.nextBatch stage.prev =
          (.ok (.span batch), (provider.nextBatch stage.prev).2) := by
        rw [← hpulled]
      unfold step nextBatch isActive pull
      rw [horigin]
      dsimp only
      rw [hactive, if_neg (not_lt.mpr hbound), if_neg hstale, if_pos hempty, hpull]
      dsimp only
      unfold stageSpan
      rw [checkBatchPrefix_undecided hasked hnone]
      rfl
    · cases hasked
  · cases hasked

/-- If every block that is asked for is found, failed lookups do not change what
is handed out. -/
theorem Flaky.emitted_eq (hflaky : Flaky cfg provider stage events flaky)
    (hanswered : Answered cfg provider stage flaky) :
    emitted cfg provider stage flaky = emitted cfg provider stage events := by
  induction hflaky with
  | nil => rfl
  | panic hstep => simp [emitted, hstep]
  | same hstep hrest ih =>
    simp only [emitted, hstep]
    rw [ih (hanswered.2 _ _ hstep)]
  | @unnoticed stage attempt call events flaky hweaker hfound hrest ih =>
    have hsame : step cfg provider stage (.call attempt) =
        step cfg provider stage (.call call) := by
      simp [step, nextBatch_congr hweaker hfound]
    simp only [emitted, ← hsame]
    split
    · rfl
    · rename_i batch after hstep
      rw [ih batch after hstep (hanswered.2 _ _ hstep)]
  | retry hweaker hfails => exact absurd hfails (hanswered.1 _ rfl)

section Sample

open BatchValidator (sampleConfig sampleHash sampleChain sampleParent)

/-- A previous stage with a list of batches, at the L1 block 11. -/
def listProvider : BatchStreamProvider (List (Batch SpanBatch)) where
  nextBatch
    | [] => (PipelineError.eof.temp, [])
    | batch :: rest => (.ok batch, rest)
  flush _ := []
  origin _ := some (sampleChain 11)
  advanceOrigin batches := (.ok (), batches)

/-- A span batch of empty blocks with the given timestamps, on top of a block. -/
def sampleSpan (parent : UInt8) (timestamps : List Nat) : SpanBatch where
  parentCheck := ⟨List.replicate 20 parent, rfl⟩
  l1OriginCheck := ⟨List.replicate 20 10, rfl⟩
  batches := timestamps.map fun timestamp =>
    { epochNum := 10, timestamp, transactions := [] }

/-- The parent of the safe head. -/
def sampleGrandparent : L2BlockInfo where
  blockInfo :=
    { hash := sampleHash 49, number := 49, parentHash := sampleHash 48
      timestamp := 1098 }
  l1Origin := (sampleChain 10).id
  seqNum := 49

/-- A call while the L2 chain can be asked. -/
def sampleCall : Call where
  parent := sampleParent
  l1Origins := [sampleChain 10, sampleChain 11]
  fetcher :=
    { l2BlockInfoByNumber := fun number =>
        if number = 49 then some sampleGrandparent else none
      blockByNumber := fun _ => none }

/-- The same call while it cannot. -/
def sampleAttempt : Call :=
  { sampleCall with
    fetcher := { l2BlockInfoByNumber := fun _ => none, blockByNumber := fun _ => none } }

theorem sample_weaker : Weaker sampleAttempt sampleCall := ⟨rfl, rfl, fun _ => Or.inl rfl⟩

/-- The block that a span batch adds after the safe head. -/
def sampleEmitted : Batch SpanBatch := .single
    { parentHash := sampleHash 50, epochNum := 10
      epochHash := (sampleChain 10).hash, timestamp := 1102, transactions := [] }

theorem emitted_eq_sample :
    emitted sampleConfig listProvider (.new [.span (sampleSpan 50 [1102])])
        [.call sampleAttempt] = [sampleEmitted] ∧
      emitted sampleConfig listProvider (.new [.span (sampleSpan 50 [1102])])
        [.call sampleAttempt] =
          emitted sampleConfig listProvider
            (.new [.span (sampleSpan 50 [1102])]) [.call sampleCall] := by
  have hanswered : ¬ LookupFails sampleConfig listProvider
      (.new [.span (sampleSpan 50 [1102])]) sampleAttempt := by
    rintro ⟨number, hasked, -⟩
    revert hasked
    exact nofun
  refine ⟨by decide +kernel, Flaky.emitted_eq ?_ ⟨?_, fun _ _ _ => trivial⟩⟩
  · exact .unnoticed sample_weaker hanswered fun _ _ _ => .nil
  · intro call hcall
    cases hcall
    exact hanswered

/-- A span batch that overlaps the safe chain is lost when the lookup of its
parent fails once. -/
theorem overlapping_span_lost :
    Flaky sampleConfig listProvider
        (.new [.span (sampleSpan 49 [1100, 1102])])
        [.call sampleCall] [.call sampleAttempt, .call sampleCall] ∧
      emitted sampleConfig listProvider
        (.new [.span (sampleSpan 49 [1100, 1102])]) [.call sampleCall] =
          [sampleEmitted] ∧
      emitted sampleConfig listProvider
        (.new [.span (sampleSpan 49 [1100, 1102])])
        [.call sampleAttempt, .call sampleCall] = [] := by
  have hfails : LookupFails sampleConfig listProvider
      (.new [.span (sampleSpan 49 [1100, 1102])]) sampleAttempt := ⟨49, by decide +kernel, rfl⟩
  refine ⟨?_, by decide +kernel, by decide +kernel⟩
  refine .retry sample_weaker hfails (step_of_lookupFails hfails) ?_
  cases hstep : step sampleConfig listProvider
      { prev := [], span := none, buffer := [] } (.call sampleCall) with
  | none => exact .panic hstep
  | some => exact .same hstep .nil

end Sample

end BatchStream

end BaseChain
