/-
The blocks of a raw span batch.  Origin numbers are walked down from the last
block, timestamps are counted up from the first, and the transactions are dealt
out by the counts of the blocks.
-/
import BaseChain.CheckedArith
import BaseChain.SpanBatchCanonicity

namespace BaseChain

open Checked List SpanBatchBits SpanBatchTransactions Fault SpanBatchPayload

structure SpanBatchElement where
  epochNum : Nat
  timestamp : Nat
  transactions : List Bytes
deriving DecidableEq

structure SpanBatch where
  parentCheck : FixedBytes 20
  l1OriginCheck : FixedBytes 20
  batches : List SpanBatchElement
deriving DecidableEq

variable {count : Nat}

namespace SpanBatchTransactions

variable (codec : TxCodec) (chainId : U64) {txs : SpanBatchTransactions}

theorem required_ne_panic {α : Type} (value : Option α) : required value ≠ .error .panic := by
  cases value with
  | none => simp [required, decoding]
  | some => simp [required]

theorem takeRecipient_ne_panic (creation : Bool) (cursors : Cursors) :
    txs.takeRecipient creation cursors ≠ .error .panic := by
  unfold takeRecipient
  by_cases hmade : creation = true
  · simp [hmade]
  · cases txs.txTos[cursors.toIdx]? with
    | none => simp [hmade, decoding]
    | some => simp [hmade]

theorem reassemble_ne_panic (idx : Nat) (data : SpanBatchTransactionData)
    (nonce gas : U64) (recipient : Option Address) (cursors : Cursors) :
    reassemble codec chainId txs idx data nonce gas recipient cursors ≠ .error .panic := by
  unfold reassemble
  split
  · split <;> simp [decoding]
  · split
    · simp [decoding]
    · dsimp only
      split <;> simp

variable {idx : Nat}

/-- A transaction that has an entry is put together or refused. -/
theorem fullTx_ne_panic (hidx : idx < txs.txData.length) (cursors : Cursors) :
    fullTx codec chainId txs idx cursors ≠ .error .panic := by
  unfold fullTx
  rw [getElem?_eq_getElem hidx]
  dsimp only
  cases SpanBatchTransactionData.decode txs.txData[idx] with
  | error => simp [decoding]
  | ok =>
    intro hpanic
    rcases bind_eq_error.mp hpanic with hnonce | ⟨nonce, -, hpanic⟩
    · exact required_ne_panic _ hnonce
    rcases bind_eq_error.mp hpanic with hgas | ⟨gas, -, hpanic⟩
    · exact required_ne_panic _ hgas
    rcases bind_eq_error.mp hpanic with hmade | ⟨creation, -, hpanic⟩
    · exact required_ne_panic _ hmade
    rcases bind_eq_error.mp hpanic with htake | ⟨taken, -, hpanic⟩
    · exact takeRecipient_ne_panic _ _ htake
    · exact reassemble_ne_panic _ _ _ _ _ _ _ _ hpanic

variable {cursors : Cursors}

theorem fullTxsFrom_ne_panic (hroom : idx + count ≤ txs.txData.length) :
    fullTxsFrom codec chainId txs count idx cursors ≠ .error .panic := by
  induction count generalizing idx cursors with
  | zero => simp [fullTxsFrom]
  | succ count ih =>
    intro hpanic
    rcases bind_eq_error.mp hpanic with hfirst | ⟨first, -, hpanic⟩
    · exact fullTx_ne_panic codec chainId (by omega) _ hfirst
    rcases bind_eq_error.mp hpanic with hrest | ⟨raws, -, hpanic⟩
    · exact ih (by omega) hrest
    · cases hpanic

theorem length_fullTxsFrom {raws : List Bytes}
    (hraws : fullTxsFrom codec chainId txs count idx cursors = .ok raws) :
    raws.length = count := by
  induction count generalizing idx cursors raws with
  | zero =>
    cases hraws
    rfl
  | succ count ih =>
    obtain ⟨first, -, hraws⟩ := bind_eq_ok.mp hraws
    obtain ⟨rest, hrest, hraws⟩ := bind_eq_ok.mp hraws
    cases hraws
    rw [length_cons, ih hrest]

end SpanBatchTransactions

namespace RawSpanBatch

/-- The origin number of the block before the one at an index: a set bit says
that it is the previous one. -/
def previousOrigin (bit : Bool) (index number : Nat) : Except Fault Nat :=
  if bit ∧ 0 < index then Checked.sub .panic number 1 else .ok number

/-- The origin numbers of the first blocks, when the last of them has a given
one. -/
def blockOriginNums (bits : SpanBatchBits) : Nat → Nat → Except Fault (List Nat)
  | 0, _ => .ok []
  | index + 1, number =>
    match bits.getBit index with
    | none => .error (.decoding .l1OriginCheck)
    | some bit => do
        let previous ← previousOrigin bit index number
        let front ← blockOriginNums bits index previous
        return front ++ [number]

def takeTransactions (count : Nat) (txs : List Bytes) : Except Fault (List Bytes × List Bytes) :=
  if txs.length < count then .error .panic
  else .ok (txs.take count, txs.drop count)

section Derive

variable (blockTime genesisTime : Nat)

def elementTimestamp (relTimestamp index : Nat) : Except Fault Nat := do
  let start ← Checked.add .panic genesisTime relTimestamp
  let offset ← Checked.mul .panic blockTime index
  Checked.add .panic start offset

/-- The blocks from an index on, with the transactions not dealt out yet. -/
def elementsFrom (relTimestamp : Nat) (counts : List U64) (epochs : List Nat) :
    Nat → Nat → List Bytes → Except Fault (List SpanBatchElement)
  | 0, _, _ => .ok []
  | remaining + 1, index, txs => do
      let count ← Checked.get .panic counts[index]?
      let (transactions, txs) ← takeTransactions count.val txs
      let epochNum ← Checked.get .panic epochs[index]?
      let timestamp ← elementTimestamp blockTime genesisTime relTimestamp index
      let elements ← elementsFrom relTimestamp counts epochs remaining (index + 1) txs
      return { epochNum, timestamp, transactions } :: elements

variable (codec : TxCodec) (chainId : U64)

def derive (batch : RawSpanBatch) : Except Fault SpanBatch :=
  if batch.payload.blockCount.val = 0 then .error (.error .emptySpanBatch)
  else do
    let epochs ← blockOriginNums batch.payload.originBits
      batch.payload.blockCount.val batch.front.l1OriginNum.val
    let txs ← batch.payload.txs.fullTxs codec chainId
    let batches ← elementsFrom blockTime genesisTime
      batch.front.relTimestamp.val batch.payload.blockTxCounts epochs
      batch.payload.blockCount.val 0 txs
    return { parentCheck := batch.front.parentCheck
             l1OriginCheck := batch.front.l1OriginCheck, batches }

end Derive

variable (bits : SpanBatchBits)

/-- How many of the first blocks start a new epoch, the first block apart. -/
def originSteps (count : Nat) : Nat := (List.range count).countP fun index =>
    decide (0 < index) && bits.value.testBit index

theorem originSteps_succ (index : Nat) : originSteps bits (index + 1) = originSteps bits index +
      if bits.value.testBit index ∧ 0 < index then 1 else 0 := by
  rw [originSteps, range_succ, countP_append, countP_singleton]
  congr 1
  simp [and_comm]

variable {bits : SpanBatchBits} {index number : Nat}

theorem blockOriginNums_succ (hbits : index < 8 * bits.bytes.length) :
    blockOriginNums bits (index + 1) number = (do
      let previous ← previousOrigin (bits.value.testBit index) index number
      let front ← blockOriginNums bits index previous
      return front ++ [number]) := by
  have hget : bits.getBit index = some (bits.value.testBit index) := by
    rw [getBit_eq, if_pos]
    omega
  simp [blockOriginNums, hget]

theorem blockOriginNums_eq_ok (hbits : count ≤ 8 * bits.bytes.length)
    (hroom : originSteps bits count ≤ number) :
    ∃ epochs, blockOriginNums bits count number = .ok epochs ∧ epochs.length = count := by
  induction count generalizing number with
  | zero => exact ⟨[], rfl, rfl⟩
  | succ index ih =>
    rw [originSteps_succ] at hroom
    obtain ⟨previous, hprevious, hroom⟩ : ∃ previous,
        previousOrigin (bits.value.testBit index) index number =
          .ok previous ∧ originSteps bits index ≤ previous := by
      unfold previousOrigin
      by_cases hstep : bits.value.testBit index ∧ 0 < index
      · rw [if_pos hstep] at hroom
        rw [if_pos hstep, sub_eq_ok (by omega)]
        exact ⟨number - 1, rfl, by omega⟩
      · rw [if_neg hstep] at hroom
        rw [if_neg hstep]
        exact ⟨number, rfl, hroom⟩
    obtain ⟨epochs, hepochs, hlength⟩ := ih (by omega) hroom
    refine ⟨epochs ++ [number], ?_, by simp [hlength]⟩
    rw [blockOriginNums_succ (by omega), bind_ok hprevious, bind_ok hepochs]
    rfl

/-- Walking down the origins panics when there are more steps than the number
of the last origin. -/
theorem blockOriginNums_eq_panic (hbits : count ≤ 8 * bits.bytes.length)
    (hshort : number < originSteps bits count) :
    blockOriginNums bits count number = .error .panic := by
  induction count generalizing number with
  | zero => exact absurd hshort (Nat.not_lt_zero _)
  | succ index ih =>
    rw [originSteps_succ] at hshort
    rw [blockOriginNums_succ (by omega), previousOrigin]
    by_cases hstep : bits.value.testBit index ∧ 0 < index
    · rw [if_pos hstep] at hshort ⊢
      by_cases hzero : number < 1
      · exact bind_error (sub_eq_error hzero)
      · rw [bind_ok (sub_eq_ok (le_of_not_gt hzero))]
        exact bind_error (ih (by omega) (by omega))
    · rw [if_neg hstep] at hshort ⊢
      rw [bind_ok rfl]
      exact bind_error (ih (by omega) hshort)

/-- The timestamps of consecutive blocks. -/
def timestampAt (blockTime genesisTime relTimestamp index : Nat) : Nat :=
  genesisTime + relTimestamp + blockTime * index

variable {genesisTime blockTime relTimestamp : Nat}

theorem elementTimestamp_eq_ok
    (hroom : timestampAt blockTime genesisTime relTimestamp index ≤ u64Max) :
    elementTimestamp blockTime genesisTime relTimestamp index =
      .ok (timestampAt blockTime genesisTime relTimestamp index) := by
  unfold timestampAt at hroom
  rw [elementTimestamp, bind_ok (add_eq_ok (by omega)),
    bind_ok (mul_eq_ok (by omega)), add_eq_ok hroom]
  rfl

theorem elementTimestamp_eq_panic
    (hfull : u64Max < timestampAt blockTime genesisTime relTimestamp index) :
    elementTimestamp blockTime genesisTime relTimestamp index = .error .panic := by
  rw [elementTimestamp]
  by_cases hstart : u64Max < genesisTime + relTimestamp
  · exact bind_error (add_eq_error hstart)
  · rw [bind_ok (add_eq_ok (le_of_not_gt hstart))]
    by_cases hoffset : u64Max < blockTime * index
    · exact bind_error (if_pos hoffset)
    · rw [bind_ok (mul_eq_ok (le_of_not_gt hoffset))]
      exact add_eq_error hfull

section Elements

variable {blockTime genesisTime relTimestamp : Nat} {counts : List U64} {epochs : List Nat}

/-- The transactions left are those of the blocks from an index on. -/
def TxsLeft (counts : List U64) (index : Nat) (txs : List Bytes) : Prop :=
  txs.length = totalTxCount (counts.drop index)

/-- One block: nothing but its timestamp can leave its range. -/
theorem elementsFrom_succ {remaining index : Nat} {txs : List Bytes}
    (hcounts : index < counts.length) (hepochs : index < epochs.length)
    (htxs : TxsLeft counts index txs) :
    ∃ element left, TxsLeft counts (index + 1) left ∧
      elementsFrom blockTime genesisTime relTimestamp counts epochs (remaining + 1) index txs = (do
          let timestamp ← elementTimestamp blockTime genesisTime relTimestamp index
          let elements ← elementsFrom blockTime genesisTime relTimestamp counts
            epochs remaining (index + 1) left
          return { (element : SpanBatchElement) with timestamp } :: elements) := by
  have hdrop := drop_eq_getElem_cons hcounts
  have hroom : ¬ txs.length < (counts[index]).val := by
    rw [htxs, hdrop, totalTxCount, map_cons, sum_cons]
    omega
  refine ⟨⟨epochs[index], 0, txs.take (counts[index]).val⟩, txs.drop (counts[index]).val, ?_, ?_⟩
  · rw [TxsLeft, length_drop, htxs, hdrop, totalTxCount,
      map_cons, sum_cons, Nat.add_sub_cancel_left]
    rfl
  · have htake : takeTransactions (counts[index]).val txs = .ok
        (txs.take (counts[index]).val, txs.drop (counts[index]).val) := if_neg hroom
    simp only [elementsFrom, getElem?_eq_getElem hcounts, getElem?_eq_getElem hepochs, get_some]
    apply (bind_ok rfl).trans
    apply (bind_ok htake).trans
    rfl

variable {remaining : Nat} {txs : List Bytes}

theorem elementsFrom_eq_ok (hcounts : index + remaining ≤ counts.length)
    (hepochs : index + remaining ≤ epochs.length) (htxs : TxsLeft counts index txs)
    (hroom : remaining = 0 ∨ timestampAt blockTime genesisTime relTimestamp
      (index + remaining - 1) ≤ u64Max) :
    ∃ elements, elementsFrom blockTime genesisTime relTimestamp counts epochs
        remaining index txs = .ok elements ∧
      elements.map (·.timestamp) = (range' index remaining).map
        (timestampAt blockTime genesisTime relTimestamp) := by
  induction remaining generalizing index txs with
  | zero => exact ⟨[], rfl, rfl⟩
  | succ remaining ih =>
    have hlast : timestampAt blockTime genesisTime relTimestamp (index + remaining) ≤ u64Max :=
      hroom.resolve_left (Nat.succ_ne_zero _)
    have hfirst : timestampAt blockTime genesisTime relTimestamp index ≤
        u64Max := by
      refine le_trans ?_ hlast
      unfold timestampAt
      gcongr
      exact Nat.le_add_right _ _
    obtain ⟨element, left, hleft, hstep⟩ := @elementsFrom_succ blockTime
      genesisTime relTimestamp counts epochs remaining index txs (by omega) (by omega) htxs
    obtain ⟨elements, helements, htimes⟩ := ih (by omega) (by omega) hleft (by
      by_cases hzero : remaining = 0
      · exact .inl hzero
      · refine .inr ?_
        rwa [show index + 1 + remaining - 1 = index + remaining by omega])
    refine ⟨({ element with
      timestamp := timestampAt blockTime genesisTime relTimestamp index }) :: elements, ?_, ?_⟩
    · rw [hstep, bind_ok (elementTimestamp_eq_ok hfirst), bind_ok helements]
      rfl
    · rw [range'_succ, map_cons, map_cons, htimes]

theorem elementsFrom_eq_panic (hcounts : index + remaining ≤ counts.length)
    (hepochs : index + remaining ≤ epochs.length) (htxs : TxsLeft counts index txs)
    (hpos : remaining ≠ 0)
    (hfull : u64Max < timestampAt blockTime genesisTime relTimestamp (index + remaining - 1)) :
    elementsFrom blockTime genesisTime relTimestamp counts epochs remaining index
      txs = .error .panic := by
  induction remaining generalizing index txs with
  | zero => exact absurd rfl hpos
  | succ remaining ih =>
    obtain ⟨element, left, hleft, hstep⟩ := @elementsFrom_succ blockTime
      genesisTime relTimestamp counts epochs remaining index txs (by omega) (by omega) htxs
    rw [hstep]
    by_cases hfirst : u64Max < timestampAt blockTime genesisTime relTimestamp index
    · exact bind_error (elementTimestamp_eq_panic hfirst)
    · rw [bind_ok (elementTimestamp_eq_ok (le_of_not_gt hfirst))]
      have hmore : remaining ≠ 0 := by
        rintro rfl
        exact hfirst hfull
      apply bind_error
      apply ih (by omega) (by omega) hleft hmore
      rwa [show index + 1 + remaining - 1 = index + (remaining + 1) - 1 by omega]

end Elements

/-- What the blocks of a batch need: as many origin bits and counts as blocks,
and as many transactions as the counts say. -/
structure Shaped (batch : RawSpanBatch) : Prop where
  count_pos : batch.payload.blockCount.val ≠ 0
  origin : batch.payload.originBits.Fits batch.payload.blockCount.val
  counts : batch.payload.blockTxCounts.length = batch.payload.blockCount.val
  total : batch.payload.txs.totalBlockTxCount = totalTxCount batch.payload.blockTxCounts
  data : batch.payload.txs.txData.length = batch.payload.txs.totalBlockTxCount

theorem Shaped.origin_bits {batch : RawSpanBatch} (hshaped : batch.Shaped) :
    batch.payload.blockCount.val ≤ 8 * batch.payload.originBits.bytes.length := by
  rw [hshaped.origin.length_eq]
  exact (bufferLen_bounds _).1

section Derived

variable {blockTime genesisTime : Nat} {codec : TxCodec} {chainId : U64} {batch : RawSpanBatch}

/-- The origin bits take more steps than the last origin's number allows. -/
def OriginUnderflow (batch : RawSpanBatch) : Prop := batch.front.l1OriginNum.val <
    originSteps batch.payload.originBits batch.payload.blockCount.val

/-- The timestamp of the last block. -/
def lastTimestamp (blockTime genesisTime : Nat) (batch : RawSpanBatch) : Nat :=
  timestampAt blockTime genesisTime batch.front.relTimestamp.val (batch.payload.blockCount.val - 1)

variable (hshaped : batch.Shaped)
include hshaped

/-- Past the origins, what is left of deriving the blocks. -/
theorem derive_eq_of_epochs (horigin : ¬ batch.OriginUnderflow) :
    ∃ epochs, epochs.length = batch.payload.blockCount.val ∧
      batch.derive blockTime genesisTime codec chainId = (do
        let txs ← batch.payload.txs.fullTxs codec chainId
        let batches ← elementsFrom blockTime genesisTime
          batch.front.relTimestamp.val batch.payload.blockTxCounts epochs
          batch.payload.blockCount.val 0 txs
        return { parentCheck := batch.front.parentCheck
                 l1OriginCheck := batch.front.l1OriginCheck, batches }) := by
  obtain ⟨epochs, hepochs, hlength⟩ :=
    blockOriginNums_eq_ok hshaped.origin_bits (le_of_not_gt horigin)
  refine ⟨epochs, hlength, ?_⟩
  rw [derive, if_neg hshaped.count_pos, bind_ok hepochs]

theorem txsLeft_of_fullTxs {txs : List Bytes}
    (htxs : batch.payload.txs.fullTxs codec chainId = .ok txs) :
    TxsLeft batch.payload.blockTxCounts 0 txs := by
  rw [TxsLeft, drop_zero, ← hshaped.total]
  exact length_fullTxsFrom codec chainId htxs

/-- Deriving the blocks panics for two reasons only: the origin numbers are
walked below zero, or the transactions can be put together and the last
timestamp leaves its type. -/
theorem derive_eq_panic_iff :
    batch.derive blockTime genesisTime codec chainId = .error .panic ↔ batch.OriginUnderflow ∨
        (∃ txs, batch.payload.txs.fullTxs codec chainId = .ok txs) ∧
          u64Max < batch.lastTimestamp blockTime genesisTime := by
  by_cases horigin : batch.OriginUnderflow
  · rw [derive, if_neg hshaped.count_pos, bind_error
      (blockOriginNums_eq_panic hshaped.origin_bits horigin)]
    exact ⟨fun _ => .inl horigin, fun _ => rfl⟩
  · obtain ⟨epochs, hlength, hderive⟩ := @derive_eq_of_epochs blockTime
      genesisTime codec chainId batch hshaped horigin
    rw [hderive]
    constructor
    · intro hpanic
      refine .inr ?_
      rcases bind_eq_error.mp hpanic with htxs | ⟨txs, htxs, hpanic⟩
      · exact absurd htxs (fullTxsFrom_ne_panic codec chainId (by rw [hshaped.data, zero_add]))
      · refine ⟨⟨txs, htxs⟩, ?_⟩
        by_contra hroom
        obtain ⟨elements, helements, -⟩ := elementsFrom_eq_ok (by rw [hshaped.counts, zero_add])
          (by rw [hlength, zero_add]) (txsLeft_of_fullTxs hshaped htxs)
          (.inr (by rw [zero_add]; exact le_of_not_gt hroom))
        rw [bind_ok helements] at hpanic
        cases hpanic
    · rintro (habsurd | ⟨⟨txs, htxs⟩, hfull⟩)
      · exact absurd habsurd horigin
      · rw [bind_ok htxs]
        apply bind_error
        apply elementsFrom_eq_panic
        · rw [hshaped.counts, zero_add]
        · rw [hlength, zero_add]
        · exact txsLeft_of_fullTxs hshaped htxs
        · exact hshaped.count_pos
        · rw [zero_add]
          exact hfull

/-- The timestamps of derived blocks. -/
theorem derive_timestamps {span : SpanBatch}
    (hderive : batch.derive blockTime genesisTime codec chainId = .ok span) :
    span.batches.map (·.timestamp) = (range' 0 batch.payload.blockCount.val).map
        (timestampAt blockTime genesisTime batch.front.relTimestamp.val) := by
  have hsafe : ¬ (batch.derive blockTime genesisTime codec chainId = .error .panic) := by
    rw [hderive]
    simp
  rw [derive_eq_panic_iff hshaped, not_or] at hsafe
  obtain ⟨epochs, hlength, hrest⟩ := @derive_eq_of_epochs blockTime genesisTime
    codec chainId batch hshaped hsafe.1
  rw [hrest] at hderive
  obtain ⟨txs, htxs, hderive⟩ := bind_eq_ok.mp hderive
  obtain ⟨elements, helements, htimes⟩ := elementsFrom_eq_ok
    (by rw [hshaped.counts, zero_add]) (by rw [hlength, zero_add])
    (txsLeft_of_fullTxs hshaped htxs) (.inr (by
      rw [zero_add]
      exact le_of_not_gt fun hfull => hsafe.2 ⟨⟨txs, htxs⟩, hfull⟩))
  rw [bind_ok helements] at hderive
  cases hderive
  exact htimes

end Derived

end RawSpanBatch

end BaseChain
