/-
Reading a span batch never panics: the bit lists that are indexed are as long
as their columns, and a column that ends too early is an error.
-/
import BaseChain.SpanBatchCanonicity

namespace BaseChain

namespace Reader

variable {α β : Type}

/-- The reader returns a value or an error on every buffer. -/
def NeverPanics (read : Reader Fault α) : Prop := ∀ buf, read buf ≠ .error .panic

theorem NeverPanics.pure (value : α) : NeverPanics (Pure.pure value : Reader Fault α) := by
  intro buf hpanic
  cases hpanic

variable {read : Reader Fault α}

/-- What comes after a read may rely on what the read returns. -/
theorem NeverPanics.bind {next : α → Reader Fault β} (hread : NeverPanics read)
    (hnext : ∀ buf value rest, read buf = .ok (value, rest) →
      NeverPanics (next value)) : NeverPanics (read >>= next) := by
  intro buf hpanic
  rcases bind_eq_error.mp hpanic with hfirst | ⟨first, middle, hfirst, hrest⟩
  · exact hread buf hfirst
  · exact hnext buf first middle hfirst middle hrest

theorem NeverPanics.many (hread : NeverPanics read) (count : Nat) :
    NeverPanics (read.many count) := by
  induction count with
  | zero => exact .pure []
  | succ count ih =>
    apply hread.bind
    intro _ value _ _
    apply ih.bind
    intro _ values _ _
    exact .pure (value :: values)

theorem NeverPanics.fail (error : SpanBatchError) :
    NeverPanics (fail (.error error) : Reader Fault α) := by
  intro buf hpanic
  cases hpanic

theorem NeverPanics.varint (varint : Varint) (error : SpanDecodingError) :
    NeverPanics (varint.read (.decoding error)) := by
  intro buf hpanic
  unfold Varint.read at hpanic
  cases hdecode : varint.decode buf with
  | none => simp [hdecode, Fault.decoding] at hpanic
  | some => simp [hdecode] at hpanic

variable (error : SpanDecodingError)

theorem NeverPanics.chunk (width : Nat) : NeverPanics (chunk (.decoding error) width) := by
  intro buf hpanic
  unfold Reader.chunk at hpanic
  split at hpanic
  · cases hpanic
  · cases hpanic

theorem NeverPanics.fixed (width : Nat) : NeverPanics (fixed (.decoding error) width) := by
  intro buf hpanic
  unfold Reader.fixed at hpanic
  split at hpanic
  · cases hpanic
  · cases hpanic

end Reader

open Reader

theorem SpanBatchBits.decode_neverPanics (bitLength : Nat) :
    NeverPanics (SpanBatchBits.decode bitLength) := by
  intro buf hpanic
  unfold SpanBatchBits.decode at hpanic
  dsimp only at hpanic
  split at hpanic
  · split at hpanic
    · cases hpanic
    · cases hpanic
  · split at hpanic
    · cases hpanic
    · cases hpanic

namespace SpanBatchTransactions

/-- The parity bits are as many as the signatures. -/
theorem readSigs_neverPanics {bits : SpanBatchBits} {bitLength index count : Nat}
    (hfits : bits.Fits bitLength) (hroom : index + count ≤ bitLength) :
    NeverPanics (readSigs bits index count) := by
  induction count generalizing index with
  | zero => exact .pure []
  | succ count ih =>
    have hparity : NeverPanics (readParity bits index) := by
      rw [readParity, hfits.getBit (by omega)]
      exact .pure _
    apply hparity.bind
    intro _ yParity _ _
    apply (NeverPanics.chunk _ _).bind
    intro _ data _ _
    apply (ih (by omega)).bind
    intro _ sigs _ _
    exact .pure _

variable (txs : SpanBatchTransactions)

theorem decodeContractCreationBits_neverPanics : NeverPanics txs.decodeContractCreationBits := by
  unfold decodeContractCreationBits
  split
  · exact .fail _
  · apply (SpanBatchBits.decode_neverPanics _).bind
    intro _ bits _ _
    exact .pure _

theorem decodeTxSigs_neverPanics : NeverPanics txs.decodeTxSigs := by
  apply (SpanBatchBits.decode_neverPanics _).bind
  intro _ bits _ hbits
  have hfits := (SpanBatchBits.decode_eq_ok hbits).1
  apply (readSigs_neverPanics hfits (zero_add _).le).bind
  intro _ sigs _ _
  exact .pure _

variable {txs : SpanBatchTransactions}

/-- There are no more contract creations than transactions. -/
theorem decodeTxTos_neverPanics (hmade : txs.contractCreationBits.Fits txs.totalBlockTxCount) :
    NeverPanics txs.decodeTxTos := by
  have hle : txs.contractCreationCount ≤ txs.totalBlockTxCount := hmade.count_le
  unfold decodeTxTos
  rw [if_neg (not_lt.mpr hle)]
  apply ((NeverPanics.fixed _ _).many _).bind
  intro _ tos _ _
  exact .pure _

theorem readList_neverPanics : NeverPanics readList := by
  intro buf hpanic
  unfold readList at hpanic
  split at hpanic
  · cases hpanic
  split at hpanic
  · cases hpanic
  dsimp only at hpanic
  split at hpanic
  · cases hpanic
  · exact NeverPanics.chunk _ _ _ hpanic

theorem readTyped_neverPanics (front : Bytes) (typeByte : UInt8) :
    NeverPanics (readTyped front typeByte) := by
  apply readList_neverPanics.bind
  intro _ payload _ _
  split
  · exact .fail _
  · exact .pure _

theorem readTxData_neverPanics : NeverPanics readTxData := by
  intro buf hpanic
  cases buf with
  | nil => cases hpanic
  | cons =>
    unfold readTxData at hpanic
    dsimp only at hpanic
    split at hpanic
    · exact readTyped_neverPanics _ _ _ hpanic
    · exact readTyped_neverPanics _ _ _ hpanic

variable (varint : Varint)

theorem decodeEip8130Proof_neverPanics : NeverPanics (decodeEip8130Proof varint) := by
  apply (NeverPanics.varint varint _).bind
  intro _ length _ _
  split
  · exact .fail _
  · exact .chunk _ _

theorem decodeProofs_neverPanics : NeverPanics (decodeProofs varint) := by
  apply (decodeEip8130Proof_neverPanics varint).bind
  intro _ sender _ _
  apply (decodeEip8130Proof_neverPanics varint).bind
  intro _ payer _ _
  exact .pure _

theorem decodeProtectedBits_neverPanics (txs : SpanBatchTransactions) :
    NeverPanics txs.decodeProtectedBits := by
  unfold decodeProtectedBits
  split
  · exact .fail _
  · apply (SpanBatchBits.decode_neverPanics _).bind
    intro _ bits _ _
    exact .pure _

theorem decodeContractCreationBits_fits {next : SpanBatchTransactions}
    {buf rest : Bytes} (hdecode : txs.decodeContractCreationBits buf = .ok (next, rest)) :
    next.contractCreationBits.Fits next.totalBlockTxCount := by
  unfold decodeContractCreationBits at hdecode
  split at hdecode
  · simp [tooBig, fail] at hdecode
  · obtain ⟨bits, hbits, rfl⟩ := bind_pure_eq_ok.mp hdecode
    exact (SpanBatchBits.decode_eq_ok hbits).1

theorem decode_neverPanics (txs : SpanBatchTransactions) : NeverPanics (txs.decode varint) := by
  apply (decodeContractCreationBits_neverPanics txs).bind
  intro _ first _ hfirst
  have hfits := decodeContractCreationBits_fits hfirst
  apply (decodeTxSigs_neverPanics first).bind
  intro _ second _ hsecond
  obtain ⟨sigs, rfl, -, -⟩ := decodeTxSigs_eq_ok hsecond
  apply NeverPanics.bind
  · exact decodeTxTos_neverPanics hfits
  intro _ third _ _
  apply NeverPanics.bind
  · apply (readTxData_neverPanics.many _).bind
    intro _ entries _ _
    exact .pure _
  intro _ fourth _ _
  apply NeverPanics.bind
  · apply ((NeverPanics.varint varint _).many _).bind
    intro _ nonces _ _
    exact .pure _
  intro _ fifth _ _
  apply NeverPanics.bind
  · apply ((NeverPanics.varint varint _).many _).bind
    intro _ gases _ _
    exact .pure _
  intro _ sixth _ _
  apply (decodeProtectedBits_neverPanics sixth).bind
  intro _ seventh _ _
  apply ((decodeProofs_neverPanics varint).many _).bind
  intro _ authData _ _
  exact .pure _

end SpanBatchTransactions

namespace RawSpanBatch

open SpanBatchPayload

variable (varint : Varint)

theorem decodePrefix_neverPanics : NeverPanics (SpanBatchPrefix.decodePrefix varint) := by
  apply (NeverPanics.varint varint _).bind
  intro _ relTimestamp _ _
  apply (NeverPanics.varint varint _).bind
  intro _ l1OriginNum _ _
  apply (NeverPanics.fixed _ _).bind
  intro _ parentCheck _ _
  apply (NeverPanics.fixed _ _).bind
  intro _ l1OriginCheck _ _
  exact .pure _

theorem decodeBlockCount_neverPanics : NeverPanics (decodeBlockCount varint) := by
  apply (NeverPanics.varint varint _).bind
  intro _ blockCount _ _
  split
  · exact .fail _
  · split
    · exact .fail _
    · exact .pure _

theorem decodeOriginBits_neverPanics (blockCount : U64) :
    NeverPanics (decodeOriginBits blockCount) := by
  unfold decodeOriginBits
  split
  · exact NeverPanics.fail _
  · exact SpanBatchBits.decode_neverPanics _

theorem decodeBlockTxCount_neverPanics : NeverPanics (decodeBlockTxCount varint) := by
  apply (NeverPanics.varint varint _).bind
  intro _ count _ _
  split
  · exact .fail _
  · exact .pure _

theorem decodeTxs_neverPanics (counts : List U64) : NeverPanics (decodeTxs varint counts) := by
  unfold decodeTxs
  split
  · exact .fail _
  · split
    · exact NeverPanics.fail _
    · split
      · exact NeverPanics.fail _
      · exact SpanBatchTransactions.decode_neverPanics varint _

/-- Reading a span batch ends with a batch or an error, whatever the bytes. -/
theorem decode_neverPanics : NeverPanics (decode varint) := by
  apply (decodePrefix_neverPanics varint).bind
  intro _ front _ _
  apply NeverPanics.bind
  · apply (decodeBlockCount_neverPanics varint).bind
    intro _ blockCount _ _
    apply (decodeOriginBits_neverPanics blockCount).bind
    intro _ originBits _ _
    apply ((decodeBlockTxCount_neverPanics varint).many _).bind
    intro _ counts _ _
    apply (decodeTxs_neverPanics varint counts).bind
    intro _ txs _ _
    exact .pure _
  intro _ payload _ _
  exact .pure _

end RawSpanBatch

end BaseChain
