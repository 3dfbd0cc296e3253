/-
The span batch transaction codec returns what it was given.  The columns are a
function of the list of transactions, adding transactions extends that list,
decoding an encoding restores the columns, and the reassembly meets each
transaction at its own place in every column.
-/
import BaseChain.SpanBatchTransactions
import Mathlib.Data.List.Forall2

namespace BaseChain

open List Reader SpanBatchBits SpanBatchEip8130TransactionData SpanBatchTransactionData Word Rlp
open TxColumns
open Reader (Reads)
open SpanBatchTransactionData (tryFrom)

variable {bits : SpanBatchBits}

namespace SpanBatchBits

theorem setAll_append (bits : SpanBatchBits) (index : Nat) (front back : List Bool) :
    bits.setAll index (front ++ back) =
      (bits.setAll index front).setAll (index + front.length) back := by
  induction front generalizing bits index with
  | nil => rfl
  | cons _ _ ih =>
    rw [cons_append, setAll, ih, length_cons, setAll, add_right_comm, add_assoc]

variable {bitLength : Nat}

theorem Fits.setAll (hfits : bits.Fits bitLength) (values : List Bool) :
    (bits.setAll bitLength values).Fits (bitLength + values.length) := by
  induction values generalizing bits bitLength with
  | nil => exact hfits
  | cons value _ ih =>
    have htail := ih (hfits.setBit value)
    rw [add_right_comm] at htail
    exact htail

variable {index : Nat} (values : List Bool)

theorem testBit_setAll_of_lt (hindex : index < bitLength) :
    (bits.setAll bitLength values).value.testBit index = bits.value.testBit index := by
  induction values generalizing bits bitLength with
  | nil => rfl
  | cons _ _ ih =>
    rw [setAll, ih (Nat.lt_succ_of_lt hindex), testBit_setBit, if_neg (ne_of_lt hindex)]

/-- Bits set one after the other are the values they were set to. -/
theorem testBit_setAll {bits : SpanBatchBits} {bitLength offset : Nat}
    {values : List Bool} {value : Bool}
    (hvalue : values[offset]? = some value) :
    (bits.setAll bitLength values).value.testBit (bitLength + offset) =
      value := by
  induction values generalizing bits bitLength offset with
  | nil => cases hvalue
  | cons _ values ih =>
    cases offset with
    | zero =>
      cases hvalue
      change (setAll _ (bitLength + 1) values).value.testBit bitLength = _
      rw [testBit_setAll_of_lt _ (Nat.lt_add_one bitLength), testBit_setBit, if_pos rfl]
    | succ =>
      rw [← add_assoc, add_right_comm]
      exact ih hvalue

/-- The list with exactly these bits. -/
def ofBits : SpanBatchBits := empty.setAll 0 values

theorem ofBits_fits : (ofBits values).Fits values.length := by
  have hfits := empty_fits.setAll values
  rwa [zero_add] at hfits

variable {value : Bool} {values : List Bool}

theorem testBit_ofBits (hvalue : values[index]? = some value) :
    (ofBits values).value.testBit index = value := by
  have hbit := @testBit_setAll empty 0 index values value hvalue
  rwa [zero_add] at hbit

theorem getBit_ofBits (hvalue : values[index]? = some value) :
    (ofBits values).getBit index = some value := by
  have hindex : index < values.length := (List.getElem?_eq_some_iff.mp hvalue).1
  rw [(ofBits_fits values).getBit hindex, testBit_ofBits hvalue]

theorem ofBits_concat (values : List Bool) (value : Bool) :
    (ofBits values).setBit values.length value = ofBits (values ++ [value]) := by
  rw [ofBits, ofBits, setAll_append, zero_add]
  rfl

theorem count_ofBits (values : List Bool) : (ofBits values).count = values.countP id := by
  have hfits := ofBits_fits values
  have hdigits : (range values.length).map (ofBits values).value.testBit =
      values := by
    apply ext_getElem
    · simp
    · intro index hleft hright
      rw [getElem_map, getElem_range]
      exact testBit_ofBits (getElem?_eq_getElem hright)
  rw [count_eq hfits.length_eq hfits.bitLen_le]
  conv_rhs => rw [← hdigits]
  rw [countP_map]
  rfl

end SpanBatchBits

/-- The columns of a list of transactions. -/
def SpanBatchTransactions.ofColumns (columns : List TxColumns) : SpanBatchTransactions where
  totalBlockTxCount := columns.length
  contractCreationBits := .ofBits (columns.map (·.recipient.isNone))
  txSigs := columns.map (·.signature)
  txNonces := columns.map (·.nonce)
  txGases := columns.map (·.gas)
  txTos := columns.filterMap (·.recipient)
  txData := columns.map (·.data.encode)
  protectedBits := .ofBits (columns.filterMap (·.protectedBit))
  txTypes := columns.map (·.txType)
  legacyTxCount := (columns.filterMap (·.protectedBit)).length
  eip8130AuthData := columns.filterMap (·.auth)

/-- The columns of each raw transaction. -/
def TxColumns.Of (codec : TxCodec) (chainId : U64) (raw : Bytes) (columns : TxColumns) : Prop :=
  ∃ tx, codec.decode raw = .ok tx ∧ ofEnvelope chainId tx = .ok columns

namespace TxColumns

/-- The columns that depend on the type of the transaction agree with it. -/
structure Consistent (columns : TxColumns) : Prop where
  txType_eq : columns.txType = columns.data.txType
  valid : columns.data.Valid
  protectedBit_isSome : columns.protectedBit.isSome = decide (columns.txType = .legacy)
  auth_isSome : columns.auth.isSome = decide (columns.txType = .eip8130)

/-- The transaction that the columns are put together to. -/
inductive Joins (chainId : U64) : TxColumns → BaseTxEnvelope → Prop where
  | eip8130 {columns : TxColumns} {tx : BaseTxEnvelope}
      {data : SpanBatchEip8130TransactionData} {senderProof payerProof : Bytes}
      (hdata : columns.data = .eip8130 data)
      (hauth : columns.auth = some (senderProof, payerProof))
      (hrecipient : columns.recipient = none)
      (htx : tx = .eip8130 (data.toTx chainId columns.nonce columns.gas senderProof payerProof)) :
      Joins chainId columns tx
  | signed {columns : TxColumns} {tx : BaseTxEnvelope}
      (htype : columns.data.txType ≠ .eip8130)
      (hsigned : columns.data.toSignedTx columns.nonce columns.gas
        columns.recipient chainId columns.signature
        (columns.protectedBit.getD true) = .ok tx) :
      Joins chainId columns tx

variable {chainId : U64} {columns : TxColumns}

theorem ofEnvelope_legacy {tx : TxLegacy} {signature : Signature}
    (hcolumns : ofEnvelope chainId (.legacy tx signature) = .ok columns) :
    columns.Consistent ∧ Joins chainId columns (.legacy tx signature) := by
  simp only [ofEnvelope, tryFrom] at hcolumns
  split at hcolumns
  · cases hcolumns
  rename_i hchain
  cases hcolumns
  refine ⟨⟨rfl, trivial, rfl, rfl⟩, .signed (by simp [SpanBatchTransactionData.txType]) ?_⟩
  have hchainId : (if tx.chainId.isSome then some chainId else none) = tx.chainId := by
    cases hid : tx.chainId with
    | none => rfl
    | some id =>
      have hsame : id = chainId := by
        by_contra hne
        exact hchain ⟨by rw [hid]; rfl, by
          rw [hid]
          exact fun heq => hne (Option.some.inj heq)⟩
      rw [hsame]
      rfl
  simp [toSignedTx, hchainId]

theorem ofEnvelope_eip8130 {signed : Eip8130Signed}
    (hcolumns : ofEnvelope chainId (.eip8130 signed) = .ok columns) :
    columns.Consistent ∧ Joins chainId columns (.eip8130 signed) := by
  cases hsender : splitAuth signed.senderAuth signed.tx.sender.isSome with
  | error => simp [ofEnvelope, tryFrom, hsender, bind, Except.bind] at hcolumns
  | ok =>
    cases hpayer : splitAuth signed.payerAuth (namedPayer signed.tx.payer) with
    | error =>
      simp [ofEnvelope, tryFrom, hsender, hpayer, bind, Except.bind] at hcolumns
    | ok =>
      simp only [ofEnvelope, tryFrom, hsender,
        hpayer, bind, Except.bind, pure, Except.pure] at hcolumns
      obtain ⟨hjoinSender, hvalidSender⟩ := splitAuth_ok hsender
      obtain ⟨hjoinPayer, hvalidPayer⟩ := splitAuth_ok hpayer
      split at hcolumns
      · cases hcolumns
      rename_i hchain
      obtain rfl := not_not.mp hchain
      cases hcolumns
      refine ⟨⟨rfl, ⟨hvalidSender, hvalidPayer⟩, rfl, rfl⟩, ?_⟩
      apply Joins.eip8130 rfl rfl rfl
      simp [toTx, hjoinSender, hjoinPayer]

/-- A transaction's columns are consistent and join to it. -/
theorem ofEnvelope_ok {tx : BaseTxEnvelope} (hcolumns : ofEnvelope chainId tx = .ok columns) :
    columns.Consistent ∧ Joins chainId columns tx := by
  cases tx with
  | legacy => exact ofEnvelope_legacy hcolumns
  | eip2930 tx signature | eip1559 tx signature | eip7702 tx signature =>
    simp only [ofEnvelope, tryFrom] at hcolumns
    split at hcolumns
    · cases hcolumns
    rename_i hchain
    obtain rfl := not_not.mp hchain
    cases hcolumns
    refine ⟨⟨rfl, trivial, rfl, rfl⟩, .signed (by simp [SpanBatchTransactionData.txType]) ?_⟩
    simp [toSignedTx]
  | eip8130 => exact ofEnvelope_eip8130 hcolumns
  | deposit => simp [ofEnvelope, tryFrom] at hcolumns

end TxColumns

namespace SpanBatchTransactions

variable {codec : TxCodec} {α β : Type}

section Adding

variable {chainId : U64}

theorem filterMap_concat (f : α → Option β) (front : List α) (last : α) :
    (front ++ [last]).filterMap f = front.filterMap f ++ (f last).toList := by
  cases hlast : f last with
  | none | some value => simp [hlast]

/-- Pushing the next transaction extends the list the columns are of. -/
theorem push_ofColumns (front : List TxColumns) (columns : TxColumns) (total : Nat) :
    push { ofColumns front with totalBlockTxCount := total } front.length columns =
      { ofColumns (front ++ [columns]) with totalBlockTxCount := total } := by
  have hmade := ofBits_concat (front.map (·.recipient.isNone)) columns.recipient.isNone
  rw [length_map] at hmade
  cases hbit : columns.protectedBit with
  | none =>
    simp only [push, ofColumns, filterMap_concat, map_append, map_cons, map_nil, hmade, hbit,
      Option.toList_none, append_nil, length_nil, add_zero]
  | some =>
    simp only [push, ofColumns, filterMap_concat, map_append,
      map_cons, map_nil, length_append, hmade, hbit, Option.toList_some, ofBits_concat]

variable {front : List TxColumns} {added : SpanBatchTransactions} {raws : List Bytes}

theorem addFrom_ofColumns {total : Nat} (hadd : addFrom codec chainId
      { ofColumns front with totalBlockTxCount := total } front.length raws = .ok added) :
    ∃ back, Forall₂ (Of codec chainId) raws back ∧
      added = { ofColumns (front ++ back) with totalBlockTxCount := total } := by
  induction raws generalizing front with
  | nil =>
    cases hadd
    exact ⟨[], Forall₂.nil, by rw [append_nil]⟩
  | cons _ _ ih =>
    rw [addFrom] at hadd
    split at hadd
    · cases hadd
    rename_i tx hdecode
    split at hadd
    · cases hadd
    rename_i columns hcolumns
    rw [push_ofColumns, ← length_singleton (a := columns), ← length_append] at hadd
    obtain ⟨back, hback, hadded⟩ := ih hadd
    refine ⟨columns :: back, .cons ⟨tx, hdecode, hcolumns⟩ hback, ?_⟩
    rw [hadded, append_assoc, singleton_append]

theorem addTxs_ofColumns (hadd : addTxs codec chainId (ofColumns front) raws = .ok added) :
    ∃ back, Forall₂ (Of codec chainId) raws back ∧ added = ofColumns (front ++ back) := by
  rw [addTxs] at hadd
  split at hadd
  · cases hadd
  rename_i next hnext
  obtain ⟨back, hback, rfl⟩ := addFrom_ofColumns hnext
  cases hadd
  refine ⟨back, hback, ?_⟩
  simp [ofColumns, hback.length_eq]

/-- Several calls of `addTxs`, one after the other. -/
def addCalls (codec : TxCodec) (chainId : U64) : SpanBatchTransactions → List (List Bytes) →
      Except SpanBatchError SpanBatchTransactions
  | txs, [] => .ok txs
  | txs, raws :: calls =>
    match addTxs codec chainId txs raws with
    | .error error => .error error
    | .ok added => addCalls codec chainId added calls

theorem addCalls_ofColumns {front : List TxColumns}
    {calls : List (List Bytes)} {added : SpanBatchTransactions}
    (hadd : addCalls codec chainId (ofColumns front) calls = .ok added) :
    ∃ back, Forall₂ (Of codec chainId) calls.flatten back ∧ added = ofColumns (front ++ back) := by
  induction calls generalizing front with
  | nil =>
    cases hadd
    exact ⟨[], Forall₂.nil, by rw [append_nil]⟩
  | cons _ _ ih =>
    rw [addCalls] at hadd
    split at hadd
    · cases hadd
    rename_i next hnext
    obtain ⟨middle, hmiddle, rfl⟩ := addTxs_ofColumns hnext
    obtain ⟨back, hback, hadded⟩ := ih hadd
    refine ⟨middle ++ back, ?_, ?_⟩
    · exact rel_append hmiddle hback
    · rw [hadded, append_assoc]

end Adding

/-- Transaction data without its type byte. -/
def listPart : Bytes → Bytes
  | [] => []
  | first :: rest => if first.toNat ≤ 0x7F then rest else first :: rest

/-- Every item of the columns is within the limits of the decoder. -/
structure WithinCaps (txs : SpanBatchTransactions) : Prop where
  count_le : txs.totalBlockTxCount ≤ maxSpanBatchElements
  data_le : ∀ data ∈ txs.txData, (listPart data).length ≤ maxSpanBatchElements
  proofs_le : ∀ proofs ∈ txs.eip8130AuthData, proofs.1.length ≤ maxAuthProofBytes ∧
      proofs.2.length ≤ maxAuthProofBytes

section Wire

variable {varint : Varint}

theorem toByte_le (txType : OpTxType) : txType.toByte.toNat ≤ 0x7F := by
  cases txType <;> decide

theorem encode_cases (data : SpanBatchTransactionData) : ∃ payload,
    data.txType = .legacy ∧ data.encode = encodeList payload ∨
      data.encode = data.txType.toByte :: encodeList payload := by
  cases data with
  | legacy data => exact ⟨data.payload, .inl ⟨rfl, rfl⟩⟩
  | eip2930 data | eip1559 data | eip7702 data | eip8130 data => exact ⟨data.payload, .inr rfl⟩

theorem length_le_listPart (data : Bytes) : data.length ≤ (listPart data).length + 1 := by
  cases data with
  | nil => exact Nat.zero_le _
  | cons =>
    rw [listPart]
    split
    · exact le_refl _
    · exact Nat.le_succ _

theorem readList_reads {payload : Bytes}
    (hcap : (encodeList payload).length ≤ maxSpanBatchElements) :
    Reads readList (encodeList payload) (encodeList payload) := by
  intro rest
  have hlength : payload.length < 2 ^ 64 :=
    lt_of_le_of_lt ((length_le_encodeList payload).trans hcap) (by decide)
  have hheader : Header.decode (encodeList payload ++ rest) =
      .ok (⟨true, payload.length⟩, payload ++ rest) := by
    rw [encodeList, append_assoc, Header.decode_encode rest (list_canonical hlength)]
  have htotal : payload.length + (Header.encode ⟨true, payload.length⟩).length =
      (encodeList payload).length := by
    rw [encodeList, length_append, add_comm]
  simp only [readList, hheader, htotal]
  rw [if_neg (not_lt.mpr hcap)]
  exact chunk_reads _ rfl rest

theorem readTyped_reads {front payload : Bytes} {typeByte : UInt8}
    {txType : OpTxType} (htype : OpTxType.ofByte? typeByte = some txType)
    (hcap : (encodeList payload).length ≤ maxSpanBatchElements) :
    Reads (readTyped front typeByte) (encodeList payload)
      (front ++ encodeList payload, txType) := by
  rw [readTyped, htype]
  exact (readList_reads hcap).map fun payload => (front ++ payload, txType)

theorem readTxData_reads {data : SpanBatchTransactionData}
    (hcap : (listPart data.encode).length ≤ maxSpanBatchElements) :
    Reads readTxData data.encode (data.encode, data.txType) := by
  intro rest
  have hshort := (length_le_listPart data.encode).trans (Nat.succ_le_succ hcap)
  obtain ⟨payload, ⟨htype, hencode⟩ | hencode⟩ := encode_cases data
  · have hlength : payload.length < 2 ^ 64 := by
      rw [hencode] at hshort
      exact lt_of_le_of_lt ((length_le_encodeList payload).trans hshort) (by decide)
    obtain ⟨first, tail, hfirst, hhead⟩ := encodeList_head hlength
    have hlarge : ¬ first.toNat ≤ 0x7F := by omega
    rw [hencode, hfirst, listPart, if_neg hlarge, ← hfirst] at hcap
    have hreads : readTyped [] 0 (encodeList payload ++ rest) =
        .ok (([] ++ encodeList payload, .legacy), rest) := readTyped_reads rfl hcap rest
    rw [hencode, htype]
    rw [hfirst] at hreads
    rw [hfirst, cons_append, readTxData]
    simp only [if_neg hlarge]
    exact hreads
  · have hbyte := toByte_le data.txType
    rw [hencode, listPart, if_pos hbyte] at hcap
    rw [hencode, cons_append, readTxData]
    simp only [if_pos hbyte]
    exact readTyped_reads (OpTxType.ofByte?_toByte _) hcap rest

variable {sigs : List Signature}

theorem readSigs_reads {index : Nat} (hbits : ∀ offset sig, sigs[offset]? = some sig →
      bits.getBit (index + offset) = some sig.yParity) :
    Reads (readSigs bits index sigs.length) (sigs.flatMap encodeSig)
      sigs := by
  induction sigs generalizing index with
  | nil => exact Reads.pure []
  | cons sig sigs ih =>
    have hparity : Reads (readParity bits index) [] sig.yParity := by
      intro rest
      have hbit : bits.getBit index = some sig.yParity := hbits 0 sig rfl
      rw [readParity, hbit]
      rfl
    have hchunk : Reads (chunk (Fault.decoding .invalidTransactionData) 64)
        (encodeSig sig) (encodeSig sig) := by
      apply chunk_reads
      simp [encodeSig]
    have htail : Reads (readSigs bits (index + 1) sigs.length) (sigs.flatMap encodeSig) sigs := by
      apply ih
      intro offset other hother
      rw [add_assoc, add_comm 1]
      exact hbits (offset + 1) other hother
    have hsplit : sig :: sigs =
        { r := ofBytes 32 ((encodeSig sig).take 32)
          s := ofBytes 32 ((encodeSig sig).drop 32)
          yParity := sig.yParity } :: sigs := by
      rw [encodeSig, take_left' (length_toBytes _), drop_left' (length_toBytes _), ofBytes_toBytes,
        ofBytes_toBytes]
    rw [flatMap_cons, length_cons, hsplit]
    apply hparity.bind
    apply hchunk.bind
    exact htail.map _

theorem decodeEip8130Proof_reads (hvarint : varint.Inverse) {proof : Bytes} (hcap : proof.length ≤
      maxAuthProofBytes) :
    Reads (decodeEip8130Proof varint) (encodeProof varint proof)
      proof := by
  have hword : (Fin.ofNat (256 ^ 8) proof.length).val = proof.length :=
    Nat.mod_eq_of_lt (lt_of_le_of_lt hcap (by decide))
  apply (hvarint.reads _ _).bind
  simp only [hword]
  rw [if_neg (not_lt.mpr hcap)]
  exact chunk_reads _ rfl

theorem decodeProofs_reads (hvarint : varint.Inverse) {proofs : Bytes × Bytes}
    (hsender : proofs.1.length ≤ maxAuthProofBytes)
    (hpayer : proofs.2.length ≤ maxAuthProofBytes) :
    Reads (decodeProofs varint) (encodeProofs varint proofs) proofs :=
  (decodeEip8130Proof_reads hvarint hsender).bind
    ((decodeEip8130Proof_reads hvarint hpayer).map fun proof => (proofs.1, proof))

/-- Transactions without a recipient are counted by the creation bits. -/
theorem length_recipients (columns : List TxColumns) :
    columns.length - (ofColumns columns).contractCreationCount =
      (columns.filterMap (·.recipient)).length := by
  have hsum : (columns.map (·.recipient.isNone)).countP id +
      (columns.filterMap (·.recipient)).length = columns.length := by
    induction columns with
    | nil => rfl
    | cons first _ ih =>
      cases hrecipient : first.recipient with
      | none | some recipient => simp [hrecipient] at ih ⊢; omega
  simp only [contractCreationCount, ofColumns, count_ofBits]
  omega

variable {columns : List TxColumns}

/-- A column that exactly the transactions of one type have an entry in. -/
theorem count_txType {entry : TxColumns → Option β} {txType : OpTxType}
    (hentry : ∀ column ∈ columns, (entry column).isSome = decide (column.txType = txType)) :
    (columns.map (·.txType)).count txType = (columns.filterMap entry).length := by
  induction columns with
  | nil => rfl
  | cons first =>
    cases hvalue : entry first with
    | none | some value => simp_all

variable {txs : SpanBatchTransactions}

theorem decodeContractCreationBits_reads (hcap : txs.totalBlockTxCount ≤ maxSpanBatchElements)
    (hfits : bits.Fits txs.totalBlockTxCount) :
    Reads txs.decodeContractCreationBits bits.bytes { txs with contractCreationBits := bits } := by
  rw [decodeContractCreationBits, if_neg (not_lt.mpr hcap)]
  exact hfits.reads.map _

theorem yParityBits_fits (sigs : List Signature) : (yParityBits sigs).Fits sigs.length := by
  have hfits := ofBits_fits (sigs.map (·.yParity))
  rwa [length_map] at hfits

theorem decodeTxSigs_reads (hlength : sigs.length = txs.totalBlockTxCount) :
    Reads txs.decodeTxSigs ((yParityBits sigs).bytes ++ sigs.flatMap encodeSig)
      { txs with txSigs := sigs } := by
  have hfits := yParityBits_fits sigs
  rw [decodeTxSigs, ← hlength]
  apply hfits.reads.bind
  apply (readSigs_reads ?_).map
  intro offset sig hsig
  rw [zero_add]
  apply getBit_ofBits
  rw [getElem?_map, hsig]
  rfl

theorem decodeTxTos_reads {tos : List Address}
    (hcount : tos.length = txs.totalBlockTxCount - txs.contractCreationCount)
    (hle : txs.contractCreationCount ≤ txs.totalBlockTxCount) :
    Reads txs.decodeTxTos (tos.flatMap (·.val)) { txs with txTos := tos } := by
  rw [decodeTxTos, if_neg (not_lt.mpr hle), ← hcount]
  apply (Reads.many fun address _ => ?_).map
  exact fixed_reads _ address

theorem decodeTxData_reads {data : List Bytes} {types : List OpTxType} {legacy : Nat}
    (hdata : data.length = txs.totalBlockTxCount)
    (htypes : types.length = txs.totalBlockTxCount)
    (hlegacy : txs.legacyTxCount + types.count .legacy = legacy)
    (hreads : ∀ entry ∈ data.zip types, Reads readTxData entry.1 entry) :
    Reads txs.decodeTxData (data.flatMap id)
      { txs with
        txData := data, txTypes := types, legacyTxCount := legacy } := by
  have hlength : (data.zip types).length = txs.totalBlockTxCount := by
    rw [length_zip, hdata, htypes, Nat.min_self]
  have hfst : (data.zip types).map (·.1) = data := map_fst_zip (hdata.trans htypes.symm).le
  have hsnd : (data.zip types).map (·.2) = types := map_snd_zip (htypes.trans hdata.symm).le
  have hbytes : data.flatMap id = (data.zip types).flatMap (·.1) := by
    conv_lhs => rw [← hfst]
    rw [flatMap_map]
    rfl
  have hresult : ({ txs with
      txData := data, txTypes := types, legacyTxCount := legacy } : SpanBatchTransactions) =
      { txs with
        txData := (data.zip types).map (·.1)
        txTypes := (data.zip types).map (·.2)
        legacyTxCount := txs.legacyTxCount + ((data.zip types).map (·.2)).count .legacy } := by
    rw [hfst, hsnd, hlegacy]
  have hmany := Reads.many hreads
  rw [hlength] at hmany
  rw [hbytes, hresult]
  exact hmany.map _

section

variable (hvarint : varint.Inverse)
include hvarint

variable {nonces : List U64}

theorem decodeTxNonces_reads (hlength : nonces.length = txs.totalBlockTxCount) :
    Reads (txs.decodeTxNonces varint) (nonces.flatMap varint.encode)
      { txs with txNonces := nonces } := by
  rw [decodeTxNonces, ← hlength]
  exact (Reads.many fun nonce _ => hvarint.reads _ nonce).map _

variable {gases : List U64}

theorem decodeTxGases_reads (hlength : gases.length = txs.totalBlockTxCount) :
    Reads (txs.decodeTxGases varint) (gases.flatMap varint.encode)
      { txs with txGases := gases } := by
  rw [decodeTxGases, ← hlength]
  exact (Reads.many fun gas _ => hvarint.reads _ gas).map _

end

/-- Columns that agree with each other: their lengths follow from the counts,
and the transaction data says what it is. -/
structure Aligned (txs : SpanBatchTransactions) : Prop where
  creation : txs.contractCreationBits.Fits txs.totalBlockTxCount
  sigs : txs.txSigs.length = txs.totalBlockTxCount
  tos : txs.txTos.length = txs.totalBlockTxCount - txs.contractCreationCount
  data : txs.txData.length = txs.totalBlockTxCount
  types : txs.txTypes.length = txs.totalBlockTxCount
  entries : ∀ entry ∈ txs.txData.zip txs.txTypes, Reads readTxData entry.1 entry
  nonces : txs.txNonces.length = txs.totalBlockTxCount
  gases : txs.txGases.length = txs.totalBlockTxCount
  legacy : txs.legacyTxCount = txs.txTypes.count .legacy
  protectedFits : txs.protectedBits.Fits txs.legacyTxCount
  auth : txs.eip8130AuthData.length = txs.txTypes.count .eip8130
  proofs : ∀ proofs ∈ txs.eip8130AuthData, proofs.1.length ≤ maxAuthProofBytes ∧
      proofs.2.length ≤ maxAuthProofBytes
  count_le : txs.totalBlockTxCount ≤ maxSpanBatchElements

/-- The wire form of aligned columns. -/
def wire (varint : Varint) (txs : SpanBatchTransactions) : Bytes :=
  txs.contractCreationBits.bytes ++
    (((yParityBits txs.txSigs).bytes ++ txs.txSigs.flatMap encodeSig) ++
      (txs.encodeTxTos ++ (txs.encodeTxData ++ (txs.encodeTxNonces varint ++
        (txs.encodeTxGases varint ++ (txs.protectedBits.bytes ++
          txs.encodeEip8130AuthData varint))))))

/-- The wire form before the protected bits. -/
def front (varint : Varint) (txs : SpanBatchTransactions) : Bytes :=
  txs.contractCreationBits.bytes ++
    (((yParityBits txs.txSigs).bytes ++ txs.txSigs.flatMap encodeSig) ++
      (txs.encodeTxTos ++ (txs.encodeTxData ++
        (txs.encodeTxNonces varint ++ txs.encodeTxGases varint))))

theorem wire_eq : wire varint txs =
    txs.front varint ++ (txs.protectedBits.bytes ++ txs.encodeEip8130AuthData varint) := by
  simp [wire, front]

theorem Aligned.encode_eq (halign : txs.Aligned) : txs.encode varint = .ok (wire varint txs) := by
  have hmade : txs.encodeContractCreationBits =
      .ok txs.contractCreationBits.bytes := halign.creation.encode
  have hparity := yParityBits_fits txs.txSigs
  rw [halign.sigs] at hparity
  have hsigs : txs.encodeTxSigs =
      .ok ((yParityBits txs.txSigs).bytes ++ txs.txSigs.flatMap encodeSig) := by
    rw [encodeTxSigs, hparity.encode]
    rfl
  have hprotected : txs.encodeProtectedBits = .ok txs.protectedBits.bytes :=
    halign.protectedFits.encode
  rw [encode, hmade, hsigs, hprotected]
  rfl

theorem Aligned.legacy_le (halign : txs.Aligned) : txs.legacyTxCount ≤ maxSpanBatchElements := by
  rw [halign.legacy]
  exact (count_le_length.trans_eq halign.types).trans halign.count_le

section

variable (hvarint : varint.Inverse) (halign : txs.Aligned)
include hvarint halign

/-- The columns before the protected bits are restored, whatever follows. -/
theorem Aligned.decode_front {back middle rest : Bytes}
    (hbits : SpanBatchBits.decode txs.legacyTxCount back = .ok (txs.protectedBits, middle))
    (hauth : (decodeProofs varint).many (txs.txTypes.count .eip8130) middle =
      .ok (txs.eip8130AuthData, rest)) :
    decode varint { empty with totalBlockTxCount := txs.totalBlockTxCount }
      (txs.front varint ++ back) = .ok (txs, rest) := by
  simp only [front, append_assoc]
  rw [← append_assoc (yParityBits txs.txSigs).bytes]
  apply Reads.run_bind
  · apply decodeContractCreationBits_reads
    · exact halign.count_le
    · exact halign.creation
  apply Reads.run_bind
  · apply decodeTxSigs_reads
    exact halign.sigs
  apply Reads.run_bind
  · apply decodeTxTos_reads
    · exact halign.tos
    · exact halign.creation.count_le
  apply Reads.run_bind
  · apply decodeTxData_reads
    · exact halign.data
    · exact halign.types
    · exact (zero_add _).trans halign.legacy.symm
    · exact halign.entries
  apply Reads.run_bind
  · apply decodeTxNonces_reads hvarint
    exact halign.nonces
  apply Reads.run_bind
  · apply decodeTxGases_reads hvarint
    exact halign.gases
  apply bind_eq_ok.mpr
  refine ⟨{ txs with eip8130AuthData := [] }, middle, ?_, bind_eq_ok.mpr ⟨_, _, hauth, rfl⟩⟩
  rw [decodeProtectedBits, if_neg (not_lt.mpr halign.legacy_le)]
  exact bind_eq_ok.mpr ⟨_, _, hbits, rfl⟩

/-- Decoding the wire form restores the columns. -/
theorem Aligned.reads : Reads
      (decode varint { empty with totalBlockTxCount := txs.totalBlockTxCount })
      (wire varint txs) txs := by
  intro rest
  rw [wire_eq, append_assoc, append_assoc]
  apply halign.decode_front hvarint (halign.protectedFits.reads _)
  rw [← halign.auth]
  apply Reads.many
  intro proofs hproofs
  exact decodeProofs_reads hvarint (halign.proofs proofs hproofs).1 (halign.proofs proofs hproofs).2

end

end Wire

variable {columns : List TxColumns}

theorem aligned_ofColumns (hcons : ∀ column ∈ columns, column.Consistent)
    (hcaps : (ofColumns columns).WithinCaps) : (ofColumns columns).Aligned where
  creation := by
    have hfits := ofBits_fits (columns.map (·.recipient.isNone))
    rwa [length_map] at hfits
  sigs := length_map _
  tos := (length_recipients columns).symm
  data := length_map _
  types := length_map _
  entries := by
    intro entry hentry
    simp only [ofColumns, zip_map', mem_map] at hentry
    obtain ⟨column, hcolumn, rfl⟩ := hentry
    have hcap := hcaps.data_le column.data.encode (mem_map_of_mem hcolumn)
    have hreads := readTxData_reads hcap
    rwa [← (hcons column hcolumn).txType_eq] at hreads
  nonces := length_map _
  gases := length_map _
  legacy := (count_txType fun column hcolumn => (hcons column hcolumn).protectedBit_isSome).symm
  protectedFits := ofBits_fits _
  auth := (count_txType fun column hcolumn => (hcons column hcolumn).auth_isSome).symm
  proofs := hcaps.proofs_le
  count_le := hcaps.count_le

section Joining

variable {chainId : U64}

/-- The positions in the columns after a list of transactions. -/
def cursorsAfter (front : List TxColumns) : Cursors where
  toIdx := (front.filterMap (·.recipient)).length
  protectedBitIdx := (front.filterMap (·.protectedBit)).length
  eip8130Idx := (front.filterMap (·.auth)).length

theorem getElem?_filterMap {f : α → Option β} {front back : List α}
    {item : α} {value : β} (hvalue : f item = some value) :
    ((front ++ item :: back).filterMap f)[(front.filterMap f).length]? = some value := by
  rw [filterMap_append, filterMap_cons_some hvalue, getElem?_append_right (le_refl _), Nat.sub_self,
    getElem?_cons_zero]

theorem getElem?_map_middle (f : α → β) (front back : List α) (item : α) :
    ((front ++ item :: back).map f)[front.length]? = some (f item) := by
  rw [getElem?_map, getElem?_append_right (le_refl _), Nat.sub_self]
  rfl

theorem takeRecipient_ofColumns (front back : List TxColumns) (column : TxColumns) :
    takeRecipient (ofColumns (front ++ column :: back)) column.recipient.isNone
        (cursorsAfter front) =
      .ok (column.recipient, { cursorsAfter front with
        toIdx := (cursorsAfter (front ++ [column])).toIdx }) := by
  cases hrecipient : column.recipient with
  | none => simp [takeRecipient, cursorsAfter, hrecipient]
  | some => simp [takeRecipient, ofColumns, cursorsAfter, hrecipient]

theorem takeProtected_ofColumns {front back : List TxColumns}
    {column : TxColumns} (hcons : column.Consistent) (toIdx : Nat) :
    takeProtected (ofColumns (front ++ column :: back)) column.data
        { cursorsAfter front with toIdx } =
      (column.protectedBit.getD true, { cursorsAfter front with
        toIdx
        protectedBitIdx := (cursorsAfter (front ++ [column])).protectedBitIdx }) := by
  have hsome := hcons.protectedBit_isSome
  rw [hcons.txType_eq] at hsome
  cases hbit : column.protectedBit with
  | none =>
    have htype : ¬ column.data.txType = .legacy := by simpa [hbit] using hsome
    simp [takeProtected, htype, cursorsAfter, hbit]
  | some bit =>
    have htype : column.data.txType = .legacy := by simpa [hbit] using hsome
    have hlookup : (ofColumns (front ++ column :: back)).protectedBits.getBit
        (front.filterMap (·.protectedBit)).length = some bit :=
      getBit_ofBits (getElem?_filterMap hbit)
    simp [takeProtected, htype, cursorsAfter, hbit, hlookup]

variable {front back : List TxColumns} {tx : BaseTxEnvelope} {column : TxColumns}

/-- One transaction is put together from its place in every column. -/
theorem reassemble_ofColumns (hcons : column.Consistent) (hjoins : Joins chainId column tx) :
    reassemble codec chainId (ofColumns (front ++ column :: back)) front.length
        column.data column.nonce column.gas column.recipient
        { cursorsAfter front with
          toIdx := (cursorsAfter (front ++ [column])).toIdx } =
      .ok (codec.encode2718 tx, cursorsAfter (front ++ [column])) := by
  have hauthSome := hcons.auth_isSome
  have hprotectedSome := hcons.protectedBit_isSome
  rw [hcons.txType_eq] at hauthSome hprotectedSome
  cases hjoins with
  | eip8130 hdata hauth _ htx =>
    have hbit : column.protectedBit = none := by
      simpa [hdata, SpanBatchTransactionData.txType] using hprotectedSome
    simp [reassemble, hdata, ofColumns, cursorsAfter, hauth, hbit, htx]
  | signed htype hsigned =>
    have hauth : column.auth = none := by simpa [htype] using hauthSome
    have hsig : (ofColumns (front ++ column :: back)).txSigs[front.length]? =
        some column.signature := getElem?_map_middle _ _ _ _
    have htake := @takeProtected_ofColumns front back column hcons
      (cursorsAfter (front ++ [column])).toIdx
    have hcursors : ({ cursorsAfter front with
        toIdx := (cursorsAfter (front ++ [column])).toIdx
        protectedBitIdx := (cursorsAfter (front ++ [column])).protectedBitIdx } : Cursors) =
        cursorsAfter (front ++ [column]) := by
      simp [cursorsAfter, hauth]
    rw [hcursors] at htake
    generalize column.data = data at *
    cases data with
    | eip8130 => exact absurd rfl htype
    | legacy data | eip2930 data | eip1559 data | eip7702 data =>
      simp [reassemble, hsig, htake, hsigned]

theorem fullTx_ofColumns (hcons : column.Consistent) (hjoins : Joins chainId column tx)
    (hlength : column.data.encode.length < 2 ^ 64) :
    fullTx codec chainId (ofColumns (front ++ column :: back)) front.length (cursorsAfter front) =
      .ok (codec.encode2718 tx, cursorsAfter (front ++ [column])) := by
  have hraw : (ofColumns (front ++ column :: back)).txData[front.length]? =
      some column.data.encode := getElem?_map_middle _ _ _ _
  have hnonce : (ofColumns (front ++ column :: back)).txNonces[front.length]? =
      some column.nonce := getElem?_map_middle _ _ _ _
  have hgas : (ofColumns (front ++ column :: back)).txGases[front.length]? =
      some column.gas := getElem?_map_middle _ _ _ _
  have hmade : (ofColumns (front ++ column :: back)).contractCreationBits.getBit
        front.length = some column.recipient.isNone := getBit_ofBits (getElem?_map_middle _ _ _ _)
  have hdecode := decode_encode hcons.valid hlength
  simp only [fullTx, hraw, hdecode, hnonce, hgas, hmade]
  change (takeRecipient _ _ _ >>= _) = _
  rw [takeRecipient_ofColumns]
  exact reassemble_ofColumns hcons hjoins

theorem consistent_of_forall₂ {raws : List Bytes} (hof : Forall₂ (Of codec chainId) raws columns) :
    ∀ column ∈ columns, column.Consistent := by
  induction hof with
  | nil => exact nofun
  | cons hfirst _ ih =>
    intro column hcolumn
    rcases mem_cons.mp hcolumn with rfl | hmem
    · obtain ⟨tx, -, htx⟩ := hfirst
      exact (ofEnvelope_ok htx).1
    · exact ih column hmem

/-- The walk over the columns returns the transactions they came from. -/
theorem fullTxsFrom_ofColumns {front back : List TxColumns} {raws : List Bytes}
    (hcanon : ∀ raw ∈ raws, codec.Canonical raw)
    (hof : Forall₂ (Of codec chainId) raws back)
    (hlength : ∀ column ∈ back, column.data.encode.length < 2 ^ 64) :
    fullTxsFrom codec chainId (ofColumns (front ++ back)) back.length
        front.length (cursorsAfter front) = .ok raws := by
  induction hof generalizing front with
  | nil => rfl
  | @cons raw column raws back hfirst hrest ih =>
    obtain ⟨tx, hdecode, hcolumn⟩ := hfirst
    obtain ⟨other, hencode, hother⟩ := hcanon raw mem_cons_self
    obtain rfl : other = tx := Except.ok.inj (hother.symm.trans hdecode)
    obtain ⟨hcons, hjoins⟩ := ofEnvelope_ok hcolumn
    have htx : fullTx codec chainId (ofColumns (front ++ column :: back))
        front.length (cursorsAfter front) = .ok (raw, cursorsAfter (front ++ [column])) := by
      rw [fullTx_ofColumns hcons hjoins (hlength column mem_cons_self), hencode]
    have htail := @ih (front ++ [column]) (fun raw hraw => hcanon raw (mem_cons_of_mem _ hraw))
      (fun column hcolumn => hlength column (mem_cons_of_mem _ hcolumn))
    rw [append_assoc, singleton_append, length_append, length_singleton] at htail
    rw [length_cons, fullTxsFrom, htx]
    change (fullTxsFrom _ _ _ _ _ _ >>= _) = _
    rw [htail]
    rfl

end Joining

/-- Transactions added in any number of calls are encoded, decoded and put
together again as they were. -/
theorem addCalls_roundTrip {codec : TxCodec} {varint : Varint}
    (hvarint : varint.Inverse) {chainId : U64} {calls : List (List Bytes)}
    (hcanonical : ∀ raw ∈ calls.flatten, codec.Canonical raw)
    {added : SpanBatchTransactions}
    (hadd : addCalls codec chainId empty calls = .ok added)
    (hcaps : added.WithinCaps) :
    ∃ bytes, added.encode varint = .ok bytes ∧
      ∀ rest, ∃ decoded,
        decode varint
          { empty with totalBlockTxCount := calls.flatten.length }
          (bytes ++ rest) = .ok (decoded, rest) ∧
        decoded.fullTxs codec chainId = .ok calls.flatten := by
  obtain ⟨columns, hof, rfl⟩ := @addCalls_ofColumns codec chainId [] calls added hadd
  have haligned := aligned_ofColumns (consistent_of_forall₂ hof) hcaps
  have hlength : ∀ column ∈ columns, column.data.encode.length < 2 ^ 64 := by
    intro column hcolumn
    have hcap := hcaps.data_le column.data.encode (List.mem_map_of_mem hcolumn)
    have hwhole := length_le_listPart column.data.encode
    unfold maxSpanBatchElements at hcap
    omega
  refine ⟨wire varint (ofColumns columns), haligned.encode_eq, fun rest => ?_⟩
  refine ⟨ofColumns columns, ?_, ?_⟩
  · rw [hof.length_eq]
    exact haligned.reads hvarint rest
  · exact @fullTxsFrom_ofColumns codec chainId [] columns _ hcanonical hof hlength

/-- The signed form of a legacy transaction: the six fields, the recovery value
and the signature. -/
def legacyEncoding (tx : TxLegacy) (signature : Signature) : Bytes :=
  let parity := signature.yParity.toNat
  let v := match tx.chainId with
    | none => 27 + parity
    | some chainId => 35 + 2 * chainId.val + parity
  encodeList (encodeWord tx.nonce ++ (encodeWord tx.gasPrice ++
    (encodeWord tx.gasLimit ++ (encodeBytes ((tx.kind.recipient?.map (·.val)).getD []) ++
        (encodeWord tx.value ++ (encodeBytes tx.input ++
          (encodeUint v ++ (encodeWord signature.r ++ encodeWord signature.s))))))))

def sampleSignature : Signature where
  r := 0x28ef61340bd939bc2195fe537567866003e1a15d3c71ff63e1590620aa636276
  s := 0x67cbe9d8997f761aecb703304b3800ccf555c9f3dc64214b297fb1966a3b6d83
  yParity := false

def sampleTx : TxLegacy where
  chainId := some 1
  nonce := 9
  gasPrice := 20000000000
  gasLimit := 21000
  kind := .call ⟨List.replicate 20 0x35, rfl⟩
  value := 1000000000000000000
  input := []

def sampleRaw : Bytes := legacyEncoding sampleTx sampleSignature

/-- A codec that knows legacy transactions, and reads back one of them. -/
def sampleCodec : TxCodec where
  encode2718 tx := match tx with
    | .legacy tx signature => legacyEncoding tx signature
    | _ => []
  decode raw := if raw = sampleRaw then .ok (.legacy sampleTx sampleSignature)
    else .error .custom

def sampleColumns : TxColumns where
  data := .legacy { value := sampleTx.value
                    gasPrice := U128.toU256 sampleTx.gasPrice, data := [] }
  txType := .legacy
  signature := sampleSignature
  recipient := sampleTx.kind.recipient?
  nonce := 9
  gas := 21000
  protectedBit := some true
  auth := none

theorem sample_decode : sampleCodec.decode sampleRaw = .ok (.legacy sampleTx sampleSignature) := by
  simp [sampleCodec]

theorem sample_canonical : sampleCodec.Canonical sampleRaw :=
  ⟨.legacy sampleTx sampleSignature, by simp [sampleCodec, sampleRaw], sample_decode⟩

theorem sample_added : addCalls sampleCodec 1 empty [[sampleRaw], [sampleRaw]] =
    .ok (ofColumns [sampleColumns, sampleColumns]) := by
  simp only [addCalls, addTxs, addFrom, sample_decode]
  rfl

theorem sample_caps : (ofColumns [sampleColumns, sampleColumns]).WithinCaps where
  count_le := by decide
  data_le := by
    intro data hdata
    simp only [ofColumns, map_cons, map_nil, mem_cons, not_mem_nil, or_false, or_self] at hdata
    subst hdata
    decide +kernel
  proofs_le := by
    intro proofs hproofs
    cases hproofs

theorem addCalls_roundTrip_twoCalls :
    ∃ bytes decoded,
      (ofColumns [sampleColumns, sampleColumns]).encode .leb128 = .ok bytes ∧
      decode .leb128 { empty with totalBlockTxCount := 2 } (bytes ++ []) =
        .ok (decoded, []) ∧
      decoded.fullTxs sampleCodec 1 = .ok [sampleRaw, sampleRaw] := by
  obtain ⟨bytes, hencode, hdecode⟩ := addCalls_roundTrip Varint.leb128_inverse (by
      intro raw hraw
      simp only [List.flatten_cons, List.flatten_nil, List.append_nil,
        List.singleton_append, List.mem_cons, List.not_mem_nil, or_false, or_self] at hraw
      rw [hraw]
      exact sample_canonical)
    sample_added sample_caps
  obtain ⟨decoded, hdecoded, hfull⟩ := hdecode []
  exact ⟨bytes, decoded, hencode, hdecoded, hfull⟩

end SpanBatchTransactions

end BaseChain
