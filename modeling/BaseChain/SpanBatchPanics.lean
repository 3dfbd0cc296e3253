/-
Where the checks on a span batch leave the range of 64-bit numbers.  Every step
of the checks is described by the inputs on which it succeeds and those on which
it panics; the steps are then put in sequence.
-/
import BaseChain.SpanBatchCheck
import BaseChain.SpanBatchDecodeSafety

namespace BaseChain

open Checked List Check SpanBatchTransactions SpanBatch

variable {varint : Varint} {codec : TxCodec} {chainId : U64}

namespace RawSpanBatch

variable {buf rest : Bytes}

theorem decodeTxs_shape {total : Nat} {txs : SpanBatchTransactions}
    (hdecode : SpanBatchTransactions.decode varint
      { SpanBatchTransactions.empty with totalBlockTxCount := total } buf = .ok (txs, rest)) :
    txs.totalBlockTxCount = total ∧ txs.txData.length = total := by
  obtain ⟨first, _, hfirst, hdecode⟩ := Reader.bind_eq_ok.mp hdecode
  obtain ⟨second, _, hsecond, hdecode⟩ := Reader.bind_eq_ok.mp hdecode
  obtain ⟨third, _, hthird, hdecode⟩ := Reader.bind_eq_ok.mp hdecode
  obtain ⟨fourth, _, hfourth, hdecode⟩ := Reader.bind_eq_ok.mp hdecode
  obtain ⟨fifth, _, hfifth, hdecode⟩ := Reader.bind_eq_ok.mp hdecode
  obtain ⟨sixth, _, hsixth, hdecode⟩ := Reader.bind_eq_ok.mp hdecode
  obtain ⟨seventh, _, hseventh, hdecode⟩ := Reader.bind_eq_ok.mp hdecode
  have hcount : first.totalBlockTxCount = total := by
    unfold decodeContractCreationBits at hfirst
    split at hfirst
    · simp [tooBig, Reader.fail] at hfirst
    · obtain ⟨bits, -, rfl⟩ := Reader.bind_pure_eq_ok.mp hfirst
      rfl
  obtain ⟨sigs, rfl, -, -⟩ := decodeTxSigs_eq_ok hsecond
  obtain ⟨tos, rfl, -, -⟩ := decodeTxTos_eq_ok hthird
  obtain ⟨entries, hentries, rfl⟩ := Reader.bind_pure_eq_ok.mp hfourth
  obtain ⟨nonces, -, rfl⟩ := Reader.bind_pure_eq_ok.mp hfifth
  obtain ⟨gases, -, rfl⟩ := Reader.bind_pure_eq_ok.mp hsixth
  have hlength := Reader.many_length hentries
  unfold decodeProtectedBits at hseventh
  split at hseventh
  · simp [tooBig, Reader.fail] at hseventh
  · obtain ⟨bits, -, rfl⟩ := Reader.bind_pure_eq_ok.mp hseventh
    obtain ⟨authData, -, rfl⟩ := Reader.bind_pure_eq_ok.mp hdecode
    refine ⟨hcount, ?_⟩
    rw [length_map, hlength]
    exact hcount

/-- Whatever is read has as many bits, counts and transactions as it says. -/
theorem decode_shaped {batch : RawSpanBatch}
    (hdecode : decode varint buf = .ok (batch, rest)) : batch.Shaped := by
  obtain ⟨front, _, -, hdecode⟩ := Reader.bind_eq_ok.mp hdecode
  obtain ⟨payload, hpayload, rfl⟩ := Reader.bind_pure_eq_ok.mp hdecode
  obtain ⟨blockCount, _, hcount, hdecode⟩ := Reader.bind_eq_ok.mp hpayload
  obtain ⟨originBits, _, horigin, hdecode⟩ := Reader.bind_eq_ok.mp hdecode
  obtain ⟨counts, _, hcounts, hdecode⟩ := Reader.bind_eq_ok.mp hdecode
  obtain ⟨txs, htxs, rfl⟩ := Reader.bind_pure_eq_ok.mp hdecode
  obtain ⟨hpos, hle⟩ : blockCount.val ≠ 0 ∧ blockCount.val ≤ maxSpanBatchElements := by
    obtain ⟨value, _, -, hcount⟩ := Reader.bind_eq_ok.mp hcount
    by_cases hbig : maxSpanBatchElements < value.val
    · simp [if_pos hbig, tooBig, Reader.fail] at hcount
    · by_cases hzero : value.val = 0
      · simp only [if_neg hbig, if_pos hzero, Reader.fail, reduceCtorEq] at hcount
      · rw [if_neg hbig, if_neg hzero] at hcount
        obtain ⟨rfl, -⟩ := Reader.pure_eq_ok.mp hcount
        exact ⟨hzero, le_of_not_gt hbig⟩
  rw [SpanBatchPayload.decodeOriginBits, if_neg (not_lt.mpr hle)] at horigin
  obtain ⟨htotal, hdata⟩ := decodeTxs_shape (decodeTxs_eq_ok htxs)
  exact
    { count_pos := hpos, origin := (SpanBatchBits.decode_eq_ok horigin).1
      counts := Reader.many_length hcounts, total := htotal
      data := hdata.trans htotal.symm }

end RawSpanBatch

variable {cfg : RollupConfig} {l1Blocks : List BlockInfo} {safeHead : L2BlockInfo}
  {inclusionBlock : BlockInfo} {fetcher : BatchValidationProvider}

namespace SpanBatch

variable {batch : SpanBatch} {safeHead parent : L2BlockInfo}

section Prefix

variable {epoch origin inclusionBlock : BlockInfo} {rest : List BlockInfo}
  {nextTimestamp start final startEpoch endEpoch : Nat}

/-- Span batches have not ended before the next block. -/
def NotEnded (cfg : RollupConfig) (safeHead : L2BlockInfo) : Prop :=
  ¬ cfg.isDenimActive (cfg.l2BlockTimestamp (safeHead.blockInfo.number + 1))

theorem nextNumber_eq_panic : nextNumber cfg safeHead = .error .panic ↔
      u64Max < safeHead.blockInfo.number + 1 := by
  rw [nextNumber, add_bind_eq_error, require_bind_eq_panic]
  simp [pure, Except.pure]

theorem nextNumber_eq_ok {next : Nat} : nextNumber cfg safeHead = .ok next ↔
      safeHead.blockInfo.number + 1 ≤ u64Max ∧ NotEnded cfg safeHead ∧
        next = safeHead.blockInfo.number + 1 := by
  rw [nextNumber, add_bind_eq_ok, require_bind_eq_ok]
  simp only [NotEnded, pure, Except.pure, Except.ok.injEq, eq_comm]

/-- The L1 block the first block of the span names. -/
def OriginOf (epoch : BlockInfo) (rest : List BlockInfo) (startEpoch : Nat)
    (origin : BlockInfo) : Prop :=
  if startEpoch = epoch.number + 1 then rest.head? = some origin
  else origin = epoch

theorem batchOrigin_eq_panic : batchOrigin epoch rest startEpoch = .error .panic ↔
      u64Max < epoch.number + 1 := by
  unfold batchOrigin
  rw [add_bind_eq_error]
  constructor
  · rintro (hfull | ⟨-, hpanic⟩)
    · exact hfull
    · split at hpanic
      · cases rest with
        | nil | cons second rest => cases hpanic
      · cases hpanic
  · intro hfull
    exact .inl hfull

theorem batchOrigin_eq_ok : batchOrigin epoch rest startEpoch = .ok origin ↔
      epoch.number + 1 ≤ u64Max ∧ OriginOf epoch rest startEpoch origin := by
  unfold batchOrigin OriginOf
  rw [add_bind_eq_ok]
  apply and_congr_right
  intro _
  by_cases hnext : startEpoch = epoch.number + 1
  · rw [if_pos hnext, if_pos hnext]
    cases rest with
    | nil => simp [stop]
    | cons => simp
  · rw [if_neg hnext, if_neg hnext, Except.ok.injEq, eq_comm]

/-- The span starts no later and ends no earlier than the next block. -/
def Timely (cfg : RollupConfig) (origin : BlockInfo) (nextTimestamp start final : Nat) : Prop :=
  cfg.isDeltaActive origin.timestamp = true ∧ start ≤ nextTimestamp ∧ nextTimestamp ≤ final

theorem checkTiming_ne_panic : checkTiming cfg origin inclusionBlock nextTimestamp start final ≠
      .error .panic := by
  intro hpanic
  rw [checkTiming, require_bind_eq_panic, require_bind_eq_panic] at hpanic
  exact require_ne_panic hpanic.2.2

theorem checkTiming_eq_ok {value : Unit} :
    checkTiming cfg origin inclusionBlock nextTimestamp start final =
      .ok value ↔ Timely cfg origin nextTimestamp start final := by
  rw [checkTiming, require_bind_eq_ok, require_bind_eq_ok, require_eq_ok, Timely]

/-- The number of safe blocks from the first block of the span on, the safe head
not counted. -/
def overlapCount (cfg : RollupConfig) (safeHead : L2BlockInfo) (start : Nat) :
    Nat :=
  (safeHead.blockInfo.timestamp - start) / cfg.blockTime

/-- The span starts at a block of the safe chain, by its timestamp. -/
def Overlaps (cfg : RollupConfig) (safeHead : L2BlockInfo) (nextTimestamp start : Nat) : Prop :=
  start < nextTimestamp ∧ start ≤ safeHead.blockInfo.timestamp ∧
    (safeHead.blockInfo.timestamp - start) % cfg.blockTime = 0

/-- The block before the span: the safe head, or a block of the safe chain. -/
def ParentOf (cfg : RollupConfig) (safeHead : L2BlockInfo)
    (fetcher : BatchValidationProvider) (nextTimestamp start : Nat)
    (parent : L2BlockInfo) : Prop :=
  ¬ start < nextTimestamp ∧ parent = safeHead ∨ Overlaps cfg safeHead nextTimestamp start ∧
      overlapCount cfg safeHead start < safeHead.blockInfo.number ∧
      fetcher.l2BlockInfoByNumber
        (safeHead.blockInfo.number - overlapCount cfg safeHead start - 1) = some parent

/-- The parent of a span that starts on the safe chain. -/
theorem parentBlock_of_overlaps (hblockTime : cfg.blockTime ≠ 0)
    (hoverlaps : Overlaps cfg safeHead nextTimestamp start) :
    parentBlock cfg safeHead fetcher nextTimestamp start = (do
      let first ← sub .panic safeHead.blockInfo.number (overlapCount cfg safeHead start)
      let parentNum ← sub .panic first 1
      fetchParent fetcher parentNum) := by
  obtain ⟨hstart, hsafe, halign⟩ := hoverlaps
  have hcount : overlap cfg safeHead start =
      .ok (overlapCount cfg safeHead start) := if_neg hblockTime
  rw [parentBlock, if_pos hstart, bind_ok (require_ok hsafe),
    bind_ok (require_ok halign), bind_ok hcount]

theorem fetchParent_ne_panic (number : Nat) : fetchParent fetcher number ≠ .error .panic := by
  unfold fetchParent
  cases fetcher.l2BlockInfoByNumber number with
  | none => simp [stop]
  | some => simp

theorem fetchParent_eq_ok {number : Nat} : fetchParent fetcher number = .ok parent ↔
      fetcher.l2BlockInfoByNumber number = some parent := by
  unfold fetchParent
  cases fetcher.l2BlockInfoByNumber number with
  | none => simp [stop]
  | some => simp

variable (fetcher) in
/-- A span that starts before the next block but not on the safe chain is
dropped. -/
theorem parentBlock_of_misaligned (hstart : start < nextTimestamp)
    (hmisaligned : ¬ Overlaps cfg safeHead nextTimestamp start) :
    ∃ reason, parentBlock cfg safeHead fetcher nextTimestamp start = Check.drop reason := by
  rw [parentBlock, if_pos hstart]
  by_cases hsafe : start ≤ safeHead.blockInfo.timestamp
  · rw [bind_ok (require_ok hsafe)]
    by_cases halign : (safeHead.blockInfo.timestamp - start) % cfg.blockTime = 0
    · exact absurd ⟨hstart, hsafe, halign⟩ hmisaligned
    · exact ⟨_, bind_error (if_neg halign)⟩
  · exact ⟨_, bind_error (if_neg hsafe)⟩

variable (fetcher) in
/-- The parent's number is below zero exactly when the whole safe chain is no
longer than the overlap. -/
theorem parentBlock_eq_panic (hblockTime : cfg.blockTime ≠ 0) :
    parentBlock cfg safeHead fetcher nextTimestamp start = .error .panic ↔
      Overlaps cfg safeHead nextTimestamp start ∧
        safeHead.blockInfo.number ≤ overlapCount cfg safeHead start := by
  by_cases hoverlaps : Overlaps cfg safeHead nextTimestamp start
  · rw [parentBlock_of_overlaps hblockTime hoverlaps]
    by_cases hbelow : safeHead.blockInfo.number ≤ overlapCount cfg safeHead start
    · refine iff_of_true ?_ ⟨hoverlaps, hbelow⟩
      by_cases hlt : safeHead.blockInfo.number < overlapCount cfg safeHead start
      · exact bind_error (sub_eq_error hlt)
      · rw [bind_ok (sub_eq_ok (le_of_not_gt hlt))]
        exact bind_error (sub_eq_error (by omega))
    · refine iff_of_false ?_ fun habsurd => hbelow habsurd.2
      rw [bind_ok (sub_eq_ok (by omega)), bind_ok (sub_eq_ok (by omega))]
      exact fetchParent_ne_panic _
  · refine iff_of_false ?_ fun habsurd => hoverlaps habsurd.1
    by_cases hstart : start < nextTimestamp
    · obtain ⟨reason, hreason⟩ := parentBlock_of_misaligned fetcher hstart hoverlaps
      rw [hreason]
      simp [Check.drop, stop]
    · rw [parentBlock, if_neg hstart]
      simp

theorem parentBlock_eq_ok (hblockTime : cfg.blockTime ≠ 0) :
    parentBlock cfg safeHead fetcher nextTimestamp start = .ok parent ↔
      ParentOf cfg safeHead fetcher nextTimestamp start parent := by
  unfold ParentOf
  by_cases hstart : start < nextTimestamp
  · by_cases hoverlaps : Overlaps cfg safeHead nextTimestamp start
    · rw [parentBlock_of_overlaps hblockTime hoverlaps]
      by_cases hbelow : overlapCount cfg safeHead start < safeHead.blockInfo.number
      · rw [bind_ok (sub_eq_ok (by omega)), bind_ok (sub_eq_ok (by omega)), fetchParent_eq_ok]
        simp [hstart, hoverlaps, hbelow]
      · have hpanic := (parentBlock_eq_panic fetcher hblockTime).mpr
          ⟨hoverlaps, le_of_not_gt hbelow⟩
        rw [← parentBlock_of_overlaps hblockTime hoverlaps, hpanic]
        simp [hstart, hbelow]
    · obtain ⟨reason, hreason⟩ := parentBlock_of_misaligned fetcher hstart hoverlaps
      rw [hreason]
      simp [Check.drop, stop, hstart, hoverlaps]
  · have hapart : ¬ Overlaps cfg safeHead nextTimestamp start := fun hoverlaps => hstart hoverlaps.1
    rw [parentBlock, if_neg hstart]
    simp [hstart, hapart, eq_comm]

/-- The parent matches, and the end of the sequence window or the parent's next
epoch leaves the range. -/
def EpochOverflow (cfg : RollupConfig) (batch : SpanBatch)
    (parent : L2BlockInfo) (inclusionBlock : BlockInfo) (startEpoch : Nat) :
    Prop :=
  batch.checkParentHash parent.blockInfo.hash = true ∧ (u64Max < startEpoch + cfg.seqWindowSize ∨
      inclusionBlock.number ≤ startEpoch + cfg.seqWindowSize ∧ u64Max < parent.l1Origin.number + 1)

variable {l1Origins : List BlockInfo}

theorem checkOrigins_eq_panic :
    checkOrigins cfg batch l1Origins parent inclusionBlock startEpoch endEpoch = .error .panic ↔
        EpochOverflow cfg batch parent inclusionBlock startEpoch := by
  unfold checkOrigins EpochOverflow
  rw [require_bind_eq_panic, add_bind_eq_error, require_bind_eq_panic, add_bind_eq_error,
    require_bind_eq_panic]
  apply and_congr_right
  intro _
  constructor
  · rintro (hfull | ⟨-, hwindow, hfull | ⟨-, -, habsurd⟩⟩)
    · exact .inl hfull
    · exact .inr ⟨hwindow, hfull⟩
    · split at habsurd
      · cases habsurd
      · exact absurd (require_bind_eq_panic.mp habsurd).2 require_ne_panic
  · rintro (hfull | ⟨hwindow, hfull⟩)
    · exact .inl hfull
    · by_cases hroom : u64Max < startEpoch + cfg.seqWindowSize
      · exact .inl hroom
      · exact .inr ⟨le_of_not_gt hroom, hwindow, .inl hfull⟩

/-- The prefix check meets a number out of range: the next block's number, the
next epoch's number, the number of the parent block, or one of the numbers
compared with the parent's origin. -/
def PrefixOverflow (cfg : RollupConfig) (batch : SpanBatch)
    (l1Origins : List BlockInfo) (safeHead : L2BlockInfo)
    (inclusionBlock : BlockInfo) (fetcher : BatchValidationProvider) : Prop :=
  ∃ epoch rest first more, l1Origins = epoch :: rest ∧ batch.batches = first :: more ∧
    (u64Max < safeHead.blockInfo.number + 1 ∨ NotEnded cfg safeHead ∧ (u64Max < epoch.number + 1 ∨
        ∃ origin, OriginOf epoch rest first.epochNum origin ∧ Timely cfg origin
            (cfg.l2BlockTimestamp (safeHead.blockInfo.number + 1))
            first.timestamp (more.getLastD first).timestamp ∧
          (Overlaps cfg safeHead (cfg.l2BlockTimestamp (safeHead.blockInfo.number + 1))
              first.timestamp ∧
            safeHead.blockInfo.number ≤ overlapCount cfg safeHead first.timestamp ∨
          ∃ parent, ParentOf cfg safeHead fetcher
              (cfg.l2BlockTimestamp (safeHead.blockInfo.number + 1))
              first.timestamp parent ∧
            EpochOverflow cfg batch parent inclusionBlock first.epochNum)))

theorem checkPrefix_eq_panic (hblockTime : cfg.blockTime ≠ 0) :
    checkPrefix cfg batch l1Origins safeHead inclusionBlock fetcher = .error .panic ↔
        PrefixOverflow cfg batch l1Origins safeHead inclusionBlock fetcher := by
  unfold PrefixOverflow
  cases l1Origins with
  | nil => simp [checkPrefix, stop]
  | cons epoch rest =>
    cases hbatches : batch.batches with
    | nil => simp [checkPrefix, hbatches, stop]
    | cons first more =>
      simp only [checkPrefix, hbatches, cons.injEq, and_assoc, exists_and_left, exists_eq_left']
      rw [bind_eq_error, nextNumber_eq_panic]
      refine or_congr_right' fun hfull => ?_
      simp only [nextNumber_eq_ok, le_of_not_gt hfull, true_and, and_assoc, exists_and_left,
        exists_eq_left]
      refine and_congr_right fun _ => ?_
      rw [bind_eq_error, batchOrigin_eq_panic]
      refine or_congr_right' fun hepoch => exists_congr fun origin => ?_
      rw [batchOrigin_eq_ok, and_iff_right (le_of_not_gt hepoch), bind_eq_error,
        or_iff_right checkTiming_ne_panic]
      simp only [checkTiming_eq_ok, exists_const]
      refine and_congr_right fun _ => and_congr_right fun _ => ?_
      rw [bind_eq_error, parentBlock_eq_panic fetcher hblockTime]
      refine or_congr_right (exists_congr fun parent => ?_)
      rw [parentBlock_eq_ok hblockTime, bind_eq_error, checkOrigins_eq_panic]
      simp [pure, Except.pure]

end Prefix

section Elements

variable {walk next : Walk} {element : SpanBatchElement} {origin : BlockInfo}
  {previous : Option Nat}

/-- The latest time the drift allows for an L1 origin leaves the range. -/
def DriftOverflow (cfg : RollupConfig) (element : SpanBatchElement) (origin : BlockInfo) : Prop :=
  origin.timestamp ≤ element.timestamp ∧
    u64Max < origin.timestamp + cfg.maxSequencerDrift origin.timestamp

/-- A new block names an L1 block that is found where the search stands. -/
def NamesOrigin (l1Blocks : List BlockInfo) (safeHead : L2BlockInfo)
    (walk : Walk) (element : SpanBatchElement) (origin : BlockInfo)
    (offset : Nat) : Prop :=
  safeHead.blockInfo.timestamp < element.timestamp ∧ safeHead.l1Origin.number ≤ element.epochNum ∧
    (l1Blocks.drop walk.originIndex).zipIdx.find?
      (·.1.number = element.epochNum) = some (origin, offset)

theorem checkDrift_ne_panic {maxTimestamp : Nat} :
    checkDrift l1Blocks walk element maxTimestamp ≠ .error .panic := by
  unfold checkDrift
  split
  · simp
  · split
    · split
      · simp
      · split
        · simp [stop]
        · exact require_ne_panic
    · simp [Check.drop, stop]

theorem checkAgainst_eq_panic : checkAgainst cfg l1Blocks walk element origin = .error .panic ↔
      DriftOverflow cfg element origin := by
  unfold checkAgainst DriftOverflow
  rw [require_bind_eq_panic, add_bind_eq_error]
  apply and_congr_right
  intro _
  constructor
  · rintro (hfull | ⟨-, hpanic⟩)
    · exact hfull
    · rcases bind_eq_error.mp hpanic with hdrift | ⟨_, -, hpanic⟩
      · exact absurd hdrift checkDrift_ne_panic
      · split at hpanic
        · cases hpanic
        · cases hpanic
  · intro hfull
    exact .inl hfull

theorem checkAgainst_eq_ok (hcheck : checkAgainst cfg l1Blocks walk element origin = .ok next) :
    next = walk := by
  obtain ⟨-, hcheck⟩ := require_bind_eq_ok.mp hcheck
  obtain ⟨-, hcheck⟩ := add_bind_eq_ok.mp hcheck
  obtain ⟨_, -, hcheck⟩ := bind_eq_ok.mp hcheck
  split at hcheck
  · cases hcheck
  · cases hcheck
    rfl

theorem blocksFrom_eq_ok {index : Nat} (hindex : index ≤ l1Blocks.length) :
    blocksFrom l1Blocks index = .ok (l1Blocks.drop index) :=
  if_neg (not_lt.mpr hindex)

section

variable (hindex : walk.originIndex ≤ l1Blocks.length)
include hindex

/-- The search never leaves the L1 blocks. -/
theorem checkElement_index (hcheck : checkElement cfg l1Blocks safeHead previous walk element =
      .ok next) : next.originIndex ≤ l1Blocks.length := by
  unfold checkElement at hcheck
  by_cases hold : element.timestamp ≤ safeHead.blockInfo.timestamp
  · rw [if_pos hold] at hcheck
    cases hcheck
    exact hindex
  · rw [if_neg hold] at hcheck
    obtain ⟨-, hcheck⟩ := require_bind_eq_ok.mp hcheck
    rw [bind_ok (blocksFrom_eq_ok hindex)] at hcheck
    split at hcheck
    · cases hcheck
    rename_i origin offset hfind
    rw [checkAgainst_eq_ok hcheck]
    have hget := mem_zipIdx_iff_getElem?.mp (mem_of_find?_eq_some hfind)
    have hlt := (List.getElem?_eq_some_iff.mp hget).1
    rw [length_drop] at hlt
    dsimp only at hlt ⊢
    omega

theorem checkElement_eq_panic :
    checkElement cfg l1Blocks safeHead previous walk element = .error .panic ↔
      ∃ origin offset, NamesOrigin l1Blocks safeHead walk element origin offset ∧
        DriftOverflow cfg element origin := by
  unfold checkElement NamesOrigin
  by_cases hold : element.timestamp ≤ safeHead.blockInfo.timestamp
  · rw [if_pos hold]
    refine iff_of_false (by simp) ?_
    rintro ⟨origin, offset, ⟨hnew, -⟩, -⟩
    exact absurd hold (not_le.mpr hnew)
  · rw [if_neg hold, require_bind_eq_panic, bind_ok (blocksFrom_eq_ok hindex)]
    cases hfind : (l1Blocks.drop walk.originIndex).zipIdx.find? (·.1.number = element.epochNum) with
    | none => simp [Check.drop, stop]
    | some pair =>
      rw [checkAgainst_eq_panic]
      constructor
      · rintro ⟨hepoch, hoverflow⟩
        exact ⟨pair.1, pair.2, ⟨lt_of_not_ge hold, hepoch, rfl⟩, hoverflow⟩
      · rintro ⟨origin, offset, ⟨-, hepoch, hpair⟩, hoverflow⟩
        cases hpair
        exact ⟨hepoch, hoverflow⟩

/-- The walk over the blocks stops at the first one whose drift leaves the
range, when the blocks before it are accepted. -/
theorem checkElements_eq_panic {elements : List SpanBatchElement} :
    checkElements cfg l1Blocks safeHead previous walk elements = .error .panic ↔
      ∃ front element back reached origin offset, elements = front ++ element :: back ∧
        checkElements cfg l1Blocks safeHead previous walk front = .ok reached ∧
        NamesOrigin l1Blocks safeHead reached element origin offset ∧
        DriftOverflow cfg element origin := by
  induction elements generalizing previous walk with
  | nil => simp [checkElements]
  | cons first elements ih =>
    rw [checkElements, bind_eq_error, checkElement_eq_panic hindex]
    constructor
    · rintro (⟨origin, offset, hnames, hoverflow⟩ | ⟨walk', hfirst, hrest⟩)
      · exact ⟨[], first, elements, walk, origin, offset, rfl, rfl, hnames, hoverflow⟩
      · obtain ⟨front, element, back, reached, origin, offset, hsplit, hfront,
          hend⟩ := (ih (checkElement_index hindex hfirst)).mp hrest
        refine ⟨first :: front, element, back, reached, origin, offset, ?_, ?_, hend⟩
        · rw [hsplit, cons_append]
        · rw [checkElements, bind_ok hfirst, hfront]
    · rintro ⟨front, element, back, reached, origin, offset, hsplit, hfront, hend⟩
      cases front with
      | nil =>
        cases hsplit
        cases hfront
        exact .inl ⟨origin, offset, hend⟩
      | cons other front =>
        cases hsplit
        obtain ⟨walk', hfirst, hfront⟩ := bind_eq_ok.mp hfront
        refine .inr ⟨walk', hfirst, ?_⟩
        exact (ih (checkElement_index hindex hfirst)).mpr
          ⟨front, element, back, reached, origin, offset, rfl, hfront, hend⟩

end

end Elements

section Overlap

variable {index : Nat}

theorem checkOverlappedTxs_ne_panic {txs : List BlockTransaction} {depositCount : Nat}
    {raws : List Bytes} (hroom : index + depositCount + raws.length ≤ txs.length) :
    checkOverlappedTxs txs depositCount index raws ≠ .error .panic := by
  induction raws generalizing index with
  | nil => simp [checkOverlappedTxs]
  | cons raw raws ih =>
    rw [length_cons] at hroom
    have hindex : index + depositCount < txs.length := by omega
    intro hpanic
    rw [checkOverlappedTxs, getElem?_eq_getElem hindex, get_some,
      bind_ok rfl, require_bind_eq_panic] at hpanic
    exact ih (by omega) hpanic.2

/-- The number of deposits is at most the number of transactions, and the rest
is as long as the block of the span. -/
theorem checkOverlapped_ne_panic (block : BaseBlock) (element : SpanBatchElement) :
    checkOverlapped cfg block element ≠ .error .panic := by
  have hdeposits : block.transactions.countP (·.isDeposit) ≤
      block.transactions.length := countP_le_length
  intro hpanic
  unfold checkOverlapped at hpanic
  rw [bind_ok (sub_eq_ok hdeposits), require_bind_eq_panic] at hpanic
  obtain ⟨hcount, hpanic⟩ := hpanic
  rcases bind_eq_error.mp hpanic with htxs | ⟨_, -, hpanic⟩
  · exact checkOverlappedTxs_ne_panic (by omega) htxs
  obtain ⟨info, hinfo⟩ := L2BlockInfo.fromBlockAndGenesis_total block cfg.genesis
  rw [bind_ok hinfo] at hpanic
  cases info with
  | none => cases hpanic
  | some => exact require_ne_panic hpanic

theorem checkOverlap_ne_panic {parentNum remaining : Nat}
    (hnumber : parentNum + index + remaining ≤ u64Max)
    (hroom : index + remaining ≤ batch.batches.length) :
    checkOverlap cfg batch fetcher parentNum remaining index ≠ .error .panic := by
  induction remaining generalizing index with
  | zero => simp [checkOverlap]
  | succ remaining ih =>
    have hindex : index < batch.batches.length := by omega
    intro hpanic
    unfold checkOverlap at hpanic
    rw [bind_ok (add_eq_ok (by omega)), bind_ok (add_eq_ok (by omega))] at hpanic
    split at hpanic
    · cases hpanic
    rw [getElem?_eq_getElem hindex, get_some, bind_ok rfl] at hpanic
    rcases bind_eq_error.mp hpanic with hfirst | ⟨_, -, hrest⟩
    · exact checkOverlapped_ne_panic _ _ hfirst
    · exact ih (by omega) (by omega) hrest

end Overlap

section Whole

/-- The blocks of the span are one block time apart. -/
def Spaced (blockTime : Nat) (batch : SpanBatch) : Prop :=
  ∃ start, batch.batches.map (·.timestamp) =
    (List.range' 0 batch.batches.length).map (start + blockTime * ·)

variable {more : List SpanBatchElement} {first : SpanBatchElement}

theorem Spaced.last {blockTime : Nat} (hspaced : Spaced blockTime batch)
    (hbatches : batch.batches = first :: more) :
    (more.getLastD first).timestamp = first.timestamp + blockTime * more.length := by
  obtain ⟨start, htimes⟩ := hspaced
  have hget : ∀ index, index < (first :: more).length → (batch.batches.map (·.timestamp))[index]? =
        some (start + blockTime * index) := by
    intro index hindex
    rw [htimes, getElem?_map, hbatches, getElem?_range' hindex, Option.map_some, zero_add, one_mul]
  have hfirst := hget 0 (by simp)
  have hlast := hget more.length (by simp)
  rw [hbatches] at hfirst hlast
  have hend : (first :: more)[more.length]? = some (more.getLastD first) := by
    have hlastElement := @List.getLast?_eq_getElem? _ (first :: more)
    rw [length_cons, Nat.add_sub_cancel, getLast?_cons] at hlastElement
    rw [← hlastElement, getLastD_eq_getLast?]
  rw [getElem?_map, hend] at hlast
  simp only [map_cons, getElem?_cons_zero, Option.some.injEq, Nat.mul_zero, add_zero] at hfirst
  simp only [Option.map_some, Option.some.injEq] at hlast
  rw [hlast, hfirst]

/-- What an accepted prefix says. -/
structure Accepted (cfg : RollupConfig) (batch : SpanBatch)
    (safeHead : L2BlockInfo) (fetcher : BatchValidationProvider)
    (first : SpanBatchElement) (more : List SpanBatchElement)
    (parent : L2BlockInfo) : Prop where
  batches : batch.batches = first :: more
  number : safeHead.blockInfo.number + 1 ≤ u64Max
  final : cfg.l2BlockTimestamp (safeHead.blockInfo.number + 1) ≤ (more.getLastD first).timestamp
  parentOf : ParentOf cfg safeHead fetcher
    (cfg.l2BlockTimestamp (safeHead.blockInfo.number + 1)) first.timestamp parent
  nextEpoch : parent.l1Origin.number + 1 ≤ u64Max

theorem parentBlock_avoids {nextTimestamp start : Nat} : Avoids .accept
      (parentBlock cfg safeHead fetcher nextTimestamp start) := by
  unfold parentBlock
  split
  · apply Avoids.bind (.require (by simp))
    intro _
    apply Avoids.bind (.require (by simp))
    intro _
    apply Avoids.bind
    · unfold overlap
      split
      · exact .panic
      · exact .ok _
    intro count
    apply Avoids.bind (.sub _ _)
    intro first
    apply Avoids.bind (.sub _ _)
    intro number
    unfold fetchParent
    split
    · exact .stop (by simp)
    · exact .ok _
  · exact .ok _

theorem checkOrigins_avoids {startEpoch endEpoch : Nat} :
    Avoids .accept (checkOrigins cfg batch l1Blocks parent inclusionBlock startEpoch endEpoch) := by
  apply Avoids.bind (.require (by simp))
  intro _
  apply Avoids.bind (.add _ _)
  intro windowEnd
  apply Avoids.bind (.require (by simp))
  intro _
  apply Avoids.bind (.add _ _)
  intro nextEpoch
  apply Avoids.bind (.require (by simp))
  intro _
  split
  · exact .stop (by simp)
  · apply Avoids.bind (.require (by simp))
    intro _
    exact .require (by simp)

/-- An accepted prefix always comes with the parent block. -/
theorem checkPrefix_avoids : Avoids .accept
      (checkPrefix cfg batch l1Blocks safeHead inclusionBlock fetcher) := by
  unfold checkPrefix
  split
  · exact .stop (by simp)
  · exact .stop (by simp)
  · apply Avoids.bind
    · apply Avoids.bind (.add _ _)
      intro next
      apply Avoids.bind (.require (by simp))
      intro _
      exact .ok next
    intro next
    apply Avoids.bind
    · apply Avoids.bind (.add _ _)
      intro nextEpoch
      split
      · split
        · exact .stop (by simp)
        · exact .ok _
      · exact .ok _
    intro origin
    apply Avoids.bind
    · apply Avoids.bind (.require (by simp))
      intro _
      apply Avoids.bind (.require (by split <;> simp))
      intro _
      exact .require (by split <;> simp)
    intro _
    apply Avoids.bind parentBlock_avoids
    intro parent
    apply Avoids.bind checkOrigins_avoids
    intro _
    exact .ok parent

variable (hblockTime : cfg.blockTime ≠ 0)
include hblockTime

theorem checkPrefix_accepted
    (hchecked : checkPrefix cfg batch l1Blocks safeHead inclusionBlock fetcher = .ok parent) :
    ∃ first more, Accepted cfg batch safeHead fetcher first more parent := by
  cases hl1 : l1Blocks with
  | nil => simp [hl1, checkPrefix, stop] at hchecked
  | cons =>
    cases hbatches : batch.batches with
    | nil => simp [hl1, checkPrefix, hbatches, stop] at hchecked
    | cons first more =>
      simp only [hl1, checkPrefix, hbatches] at hchecked
      obtain ⟨next, hnext, hchecked⟩ := bind_eq_ok.mp hchecked
      obtain ⟨hnumber, -, rfl⟩ := nextNumber_eq_ok.mp hnext
      obtain ⟨origin, -, hchecked⟩ := bind_eq_ok.mp hchecked
      obtain ⟨_, htiming, hchecked⟩ := bind_eq_ok.mp hchecked
      obtain ⟨parent', hparent, hchecked⟩ := bind_eq_ok.mp hchecked
      obtain ⟨_, horigins, hpure⟩ := bind_eq_ok.mp hchecked
      cases hpure
      obtain ⟨-, horigins⟩ := require_bind_eq_ok.mp horigins
      obtain ⟨-, horigins⟩ := add_bind_eq_ok.mp horigins
      obtain ⟨-, horigins⟩ := require_bind_eq_ok.mp horigins
      obtain ⟨hepoch, -⟩ := add_bind_eq_ok.mp horigins
      exact ⟨first, more,
        { batches := hbatches, number := hnumber
          final := (checkTiming_eq_ok.mp htiming).2.2
          parentOf := (parentBlock_eq_ok hblockTime).mp hparent
          nextEpoch := hepoch }⟩

theorem checkBatchPrefix_eq_none :
    checkBatchPrefix cfg batch l1Blocks safeHead inclusionBlock fetcher = none ↔
      PrefixOverflow cfg batch l1Blocks safeHead inclusionBlock fetcher := by
  rw [← checkPrefix_eq_panic hblockTime, checkBatchPrefix]
  cases checkPrefix cfg batch l1Blocks safeHead inclusionBlock fetcher with
  | ok => simp
  | error halt =>
    cases halt with
    | verdict validity | panic => simp

variable (hspaced : Spaced cfg.blockTime batch)
  (hsafe : safeHead.blockInfo.timestamp = cfg.l2BlockTimestamp safeHead.blockInfo.number)
include hspaced hsafe

/-- The span reaches past the safe head, so it has a block for every safe block
it shares. -/
theorem Accepted.shared_le (hacc : Accepted cfg batch safeHead fetcher first more parent)
    (hoverlaps : Overlaps cfg safeHead
      (cfg.l2BlockTimestamp (safeHead.blockInfo.number + 1)) first.timestamp) :
    overlapCount cfg safeHead first.timestamp ≤ more.length := by
  have hlast := hspaced.last hacc.batches
  have hmono := cfg.l2BlockTimestamp_mono (Nat.le_add_right safeHead.blockInfo.number 1)
  have hfinal := hacc.final
  obtain ⟨-, hstart, halign⟩ := hoverlaps
  have hexact := Nat.div_mul_cancel (Nat.dvd_of_mod_eq_zero halign)
  rw [← overlapCount, mul_comm] at hexact
  apply Nat.le_of_mul_le_mul_left _ (Nat.pos_of_ne_zero hblockTime)
  omega

/-- The blocks before one of the span are accepted, and the latest time for its
L1 origin leaves the range. -/
def BodyOverflow (cfg : RollupConfig) (batch : SpanBatch)
    (l1Blocks : List BlockInfo) (safeHead parent : L2BlockInfo) : Prop :=
  ∃ first front element back reached origin offset, batch.batches.head? = some first ∧
    batch.batches = front ++ element :: back ∧
    checkElements cfg l1Blocks safeHead none
      { originIndex := 0
        originAdvanced := first.epochNum = parent.l1Origin.number + 1 } front = .ok reached ∧
    NamesOrigin l1Blocks safeHead reached element origin offset ∧
    DriftOverflow cfg element origin

variable (hfetcher : ∀ number block, fetcher.l2BlockInfoByNumber number = some block →
  block.blockInfo.number = number)
include hfetcher

/-- The blocks shared with the safe chain are in range. -/
theorem Accepted.overlap_ne_panic (hacc : Accepted cfg batch safeHead fetcher first more parent) :
    (if first.timestamp < cfg.l2BlockTimestamp (saturatingAdd safeHead.blockInfo.number 1) then do
      let shared ← sub .panic safeHead.blockInfo.number parent.blockInfo.number
      checkOverlap cfg batch fetcher parent.blockInfo.number shared 0
    else .ok () : Check Unit) ≠ .error .panic := by
  have hnumber := hacc.number
  have hnext : saturatingAdd safeHead.blockInfo.number 1 =
      safeHead.blockInfo.number + 1 := Nat.min_eq_left hnumber
  rw [hnext]
  by_cases hstart : first.timestamp < cfg.l2BlockTimestamp (safeHead.blockInfo.number + 1)
  · rw [if_pos hstart]
    rcases hacc.parentOf with ⟨habsurd, -⟩ | ⟨hoverlaps, hbelow, hfetch⟩
    · exact absurd hstart habsurd
    · have hshared := hacc.shared_le hblockTime hspaced hsafe hoverlaps
      have hparent := hfetcher _ _ hfetch
      rw [bind_ok (sub_eq_ok (by omega))]
      apply checkOverlap_ne_panic
      · omega
      · rw [hacc.batches, length_cons]
        omega
  · rw [if_neg hstart]
    simp

theorem checkBody_eq_panic
    (hchecked : checkPrefix cfg batch l1Blocks safeHead inclusionBlock fetcher = .ok parent) :
    checkBody cfg batch l1Blocks safeHead fetcher parent = .error .panic ↔
      BodyOverflow cfg batch l1Blocks safeHead parent := by
  obtain ⟨first, more, hacc⟩ := checkPrefix_accepted hblockTime hchecked
  have hhead : batch.batches.head? = some first := by
    rw [hacc.batches]
    rfl
  have hrest := hacc.overlap_ne_panic hblockTime hspaced hsafe hfetcher
  unfold checkBody BodyOverflow
  rw [hhead, get_some, bind_ok rfl, bind_ok (add_eq_ok hacc.nextEpoch),
    bind_eq_error, checkElements_eq_panic (Nat.zero_le _)]
  constructor
  · rintro (⟨front, element, back, reached, origin, offset, hend⟩ | ⟨_, -, hpanic⟩)
    · exact ⟨first, front, element, back, reached, origin, offset, rfl, hend⟩
    · exact absurd hpanic hrest
  · rintro ⟨first', front, element, back, reached, origin, offset, hfirst, hend⟩
    cases hfirst
    exact .inl ⟨front, element, back, reached, origin, offset, hend⟩

theorem checkBatch_eq_none :
    checkBatch cfg batch l1Blocks safeHead inclusionBlock fetcher = none ↔
      PrefixOverflow cfg batch l1Blocks safeHead inclusionBlock fetcher ∨
        ∃ parent, checkPrefix cfg batch l1Blocks safeHead inclusionBlock fetcher = .ok parent ∧
          BodyOverflow cfg batch l1Blocks safeHead parent := by
  rw [← checkPrefix_eq_panic hblockTime, checkBatch, checkBatchPrefix]
  cases hchecked : checkPrefix cfg batch l1Blocks safeHead inclusionBlock fetcher with
  | ok parent =>
    have hbody := checkBody_eq_panic hblockTime hspaced hsafe hfetcher hchecked
    simp only [Except.ok.injEq, reduceCtorEq, false_or, exists_eq_left', ← hbody]
    cases checkBody cfg batch l1Blocks safeHead fetcher parent with
    | ok => simp
    | error halt =>
      cases halt with
      | verdict validity | panic => simp
  | error halt =>
    cases halt with
    | verdict validity =>
      cases validity with
      | accept => exact absurd hchecked checkPrefix_avoids
      | drop reason | undecided | future | past => simp
    | panic => simp

end Whole

end SpanBatch

namespace RawSpanBatch

section Hostile

variable (varint : Varint) (codec : TxCodec) (chainId : U64) (cfg : RollupConfig)
  (l1Blocks : List BlockInfo) (safeHead : L2BlockInfo) (inclusionBlock : BlockInfo)
  (fetcher : BatchValidationProvider) (buf : Bytes)

/-- Reading a string as a span batch, deriving its blocks and checking them ends
with a result or an error. -/
def PanicFree : Prop := decode varint buf ≠ .error .panic ∧
  ∀ raw rest, decode varint buf = .ok (raw, rest) →
    raw.derive cfg.blockTime cfg.genesis.l2Time codec chainId ≠ .error .panic ∧
    ∀ batch, raw.derive cfg.blockTime cfg.genesis.l2Time codec chainId = .ok batch →
      checkBatchPrefix cfg batch l1Blocks safeHead inclusionBlock fetcher ≠ none ∧
      checkBatch cfg batch l1Blocks safeHead inclusionBlock fetcher ≠ none

/-- No number that the batch, the configuration, the L1 blocks and the safe
chain give rise to leaves its range. -/
def InRange : Prop := ∀ raw rest, decode varint buf = .ok (raw, rest) → ¬ raw.OriginUnderflow ∧
    ((∃ txs, raw.payload.txs.fullTxs codec chainId = .ok txs) →
      raw.lastTimestamp cfg.blockTime cfg.genesis.l2Time ≤ u64Max) ∧
    ∀ batch, raw.derive cfg.blockTime cfg.genesis.l2Time codec chainId = .ok batch →
      ¬ SpanBatch.PrefixOverflow cfg batch l1Blocks safeHead inclusionBlock fetcher ∧
      ∀ parent, checkPrefix cfg batch l1Blocks safeHead inclusionBlock fetcher = .ok parent →
        ¬ SpanBatch.BodyOverflow cfg batch l1Blocks safeHead parent

end Hostile

section Exact

variable {buf : Bytes}

theorem derive_spaced {blockTime genesisTime : Nat} {raw : RawSpanBatch}
    {batch : SpanBatch} (hshaped : raw.Shaped)
    (hderive : raw.derive blockTime genesisTime codec chainId = .ok batch) :
    Spaced blockTime batch := by
  have htimes := derive_timestamps hshaped hderive
  have hlength := congrArg length htimes
  rw [length_map, length_map, length_range'] at hlength
  refine ⟨genesisTime + raw.front.relTimestamp.val, ?_⟩
  rw [htimes, hlength]
  rfl

/-- Hostile bytes cause a panic exactly when some number leaves its range. -/
theorem panicFree_iff_inRange (hblockTime : cfg.blockTime ≠ 0)
    (hsafe : safeHead.blockInfo.timestamp =
      cfg.l2BlockTimestamp safeHead.blockInfo.number)
    (hfetcher : ∀ number block, fetcher.l2BlockInfoByNumber number = some block →
      block.blockInfo.number = number) :
    PanicFree varint codec chainId cfg l1Blocks safeHead inclusionBlock fetcher
        buf ↔
      InRange varint codec chainId cfg l1Blocks safeHead inclusionBlock fetcher
        buf := by
  unfold PanicFree InRange
  rw [and_iff_right (decode_neverPanics varint buf)]
  apply forall_congr'
  intro raw
  apply forall_congr'
  intro rest
  apply imp_congr_right
  intro hdecode
  have hshaped := decode_shaped hdecode
  rw [Ne, derive_eq_panic_iff hshaped, not_or, not_and, Nat.not_lt, and_assoc]
  apply and_congr_right
  intro _
  apply and_congr_right
  intro _
  apply forall_congr'
  intro batch
  apply imp_congr_right
  intro hderive
  have hspaced := derive_spaced hshaped hderive
  rw [Ne, Ne, SpanBatch.checkBatchPrefix_eq_none hblockTime,
    SpanBatch.checkBatch_eq_none hblockTime hspaced hsafe hfetcher]
  constructor
  · rintro ⟨hchecked, hbody⟩
    refine ⟨hchecked, ?_⟩
    intro parent hparent hoverflow
    exact hbody (Or.inr ⟨parent, hparent, hoverflow⟩)
  · rintro ⟨hchecked, hbody⟩
    refine ⟨hchecked, ?_⟩
    rintro (habsurd | ⟨parent, hparent, hoverflow⟩)
    · exact hchecked habsurd
    · exact hbody parent hparent hoverflow

end Exact

def plainHash : B256 := ⟨List.replicate 32 0, rfl⟩

/-- A chain that accepts span batches, with two-second blocks. -/
def plainConfig : RollupConfig where
  genesis := { l1 := ⟨0, plainHash⟩, l2 := ⟨0, plainHash⟩, l2Time := 0 }
  blockTime := 2
  maxSequencerDriftSeconds := 600
  seqWindowSize := 3600
  channelTimeoutBlocks := 300
  graniteChannelTimeout := 50
  l2ChainId := 1
  activation upgrade := if upgrade = .delta then some 0 else none

def plainHead : L2BlockInfo where
  blockInfo := { hash := plainHash, number := 1, parentHash := plainHash, timestamp := 2 }
  l1Origin := ⟨0, plainHash⟩
  seqNum := 0

/-- Nothing can be looked up. -/
def emptyProvider : BatchValidationProvider where
  l2BlockInfoByNumber _ := none
  blockByNumber _ := none

theorem panicFree_cutBatch :
    PanicFree .leb128 SpanBatchTransactions.sampleCodec 1 plainConfig []
      plainHead plainHead.blockInfo emptyProvider cutBatch := by
  apply (panicFree_iff_inRange (by decide) (by decide) (by
    intro number block hblock
    cases hblock)).mpr
  intro raw rest hdecode
  rw [decode_cutBatch] at hdecode
  cases hdecode
  refine ⟨?_, ?_, ?_⟩
  · unfold OriginUnderflow
    decide +kernel
  · intro _
    decide +kernel
  intro batch _
  constructor
  · rintro ⟨epoch, rest, first, more, habsurd, -⟩
    cases habsurd
  · intro parent habsurd
    cases habsurd

/-- Two empty blocks whose last origin is the first L1 block, and whose origin
bits say that the second block starts a new epoch. -/
def hostileBatch : Bytes := List.replicate 42 0 ++ [2, 2, 0, 0]

/-- The origin number of the first block would be below zero. -/
theorem hostileBatch_not_panicFree :
    plainConfig.blockTime ≠ 0 ∧
      plainHead.blockInfo.timestamp =
        plainConfig.l2BlockTimestamp plainHead.blockInfo.number ∧
      ¬ PanicFree .leb128 SpanBatchTransactions.sampleCodec 1 plainConfig []
        plainHead plainHead.blockInfo emptyProvider hostileBatch := by
  refine ⟨by decide, by decide, ?_⟩
  rintro ⟨-, hderive⟩
  have hdecode : ∃ raw, decode .leb128 hostileBatch = .ok (raw, []) ∧
      raw.derive 2 0 SpanBatchTransactions.sampleCodec 1 = .error .panic := by
    refine ⟨{ front := { cutResult.front with relTimestamp := 0 }
              payload := { blockCount := 2, originBits := ⟨[2]⟩
                           blockTxCounts := [0, 0]
                           txs := .empty } }, ?_, ?_⟩
    · decide +kernel
    · decide +kernel
  obtain ⟨raw, hdecode, hpanic⟩ := hdecode
  exact (hderive raw [] hdecode).1 hpanic

end RawSpanBatch

end BaseChain
