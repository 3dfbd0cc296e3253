/-
Signed transactions and their span batch data: what is taken out of a
transaction when it enters a span batch, and how a transaction is put together
again.  The wire codec of whole transactions is a parameter.
-/
import BaseChain.SpanTransactionData

namespace BaseChain

open List Rlp Rlp.Header SpanBatchEip8130TransactionData U256

inductive OpTxType where
  | legacy
  | eip2930
  | eip1559
  | eip7702
  | eip8130
  | deposit
deriving Repr, DecidableEq

namespace OpTxType

def toByte : OpTxType → UInt8
  | .legacy => 0
  | .eip2930 => 1
  | .eip1559 => 2
  | .eip7702 => 4
  | .eip8130 => 0x79
  | .deposit => 0x7E

def ofByte? (byte : UInt8) : Option OpTxType := match byte.toNat with
  | 0 => some .legacy
  | 1 => some .eip2930
  | 2 => some .eip1559
  | 4 => some .eip7702
  | 0x79 => some .eip8130
  | 0x7E => some .deposit
  | _ => none

theorem ofByte?_toByte (txType : OpTxType) : ofByte? txType.toByte = some txType := by
  cases txType <;> rfl

end OpTxType

structure Signature where
  r : U256
  s : U256
  yParity : Bool
deriving DecidableEq

inductive TxKind where
  | create
  | call (recipient : Address)
deriving DecidableEq

namespace TxKind

def recipient? : TxKind → Option Address
  | .create => none
  | .call recipient => some recipient

def ofOption : Option Address → TxKind
  | none => .create
  | some recipient => .call recipient

@[simp] theorem ofOption_recipient? (kind : TxKind) : ofOption kind.recipient? = kind := by
  cases kind <;> rfl

end TxKind

structure TxLegacy where
  chainId : Option U64
  nonce : U64
  gasPrice : U128
  gasLimit : U64
  kind : TxKind
  value : U256
  input : Bytes
deriving DecidableEq

structure TxEip2930 where
  chainId : U64
  nonce : U64
  gasPrice : U128
  gasLimit : U64
  kind : TxKind
  value : U256
  accessList : AccessList
  input : Bytes
deriving DecidableEq

structure TxEip1559 where
  chainId : U64
  nonce : U64
  gasLimit : U64
  maxFeePerGas : U128
  maxPriorityFeePerGas : U128
  kind : TxKind
  value : U256
  accessList : AccessList
  input : Bytes
deriving DecidableEq

structure TxEip7702 where
  chainId : U64
  nonce : U64
  gasLimit : U64
  maxFeePerGas : U128
  maxPriorityFeePerGas : U128
  recipient : Address
  value : U256
  accessList : AccessList
  authorizationList : List SignedAuthorization
  input : Bytes
deriving DecidableEq

structure TxEip8130 where
  chainId : U64
  sender : Option Address
  nonceKey : U256
  nonceSequence : U64
  validAfter : U64
  validBefore : U64
  maxPriorityFeePerGas : U128
  maxFeePerGas : U128
  gasLimit : U64
  accountChanges : List AccountChange
  calls : List (List Call)
  metadata : Bytes
  payer : Option Address
deriving DecidableEq

structure Eip8130Signed where
  tx : TxEip8130
  senderAuth : Bytes
  payerAuth : Bytes
deriving DecidableEq

/-- A signed transaction.  The hash that a signed transaction caches is not part
of its encoding and is left out; a deposit is never taken apart. -/
inductive BaseTxEnvelope where
  | legacy (tx : TxLegacy) (signature : Signature)
  | eip2930 (tx : TxEip2930) (signature : Signature)
  | eip1559 (tx : TxEip1559) (signature : Signature)
  | eip7702 (tx : TxEip7702) (signature : Signature)
  | eip8130 (signed : Eip8130Signed)
  | deposit (contents : Bytes)
deriving DecidableEq

def BaseTxEnvelope.txType : BaseTxEnvelope → OpTxType
  | .legacy .. => .legacy
  | .eip2930 .. => .eip2930
  | .eip1559 .. => .eip1559
  | .eip7702 .. => .eip7702
  | .eip8130 .. => .eip8130
  | .deposit .. => .deposit

/-- The typed transaction codec. -/
structure TxCodec where
  encode2718 : BaseTxEnvelope → Bytes
  decode : Bytes → Except Rlp.Error BaseTxEnvelope

/-- The canonical encoding of a transaction: what its encoder writes and its
decoder reads back. -/
def TxCodec.Canonical (codec : TxCodec) (raw : Bytes) : Prop :=
  ∃ tx, codec.encode2718 tx = raw ∧ codec.decode raw = .ok tx

inductive SpanBatchTransactionData where
  | legacy (data : SpanBatchLegacyTransactionData)
  | eip2930 (data : SpanBatchEip2930TransactionData)
  | eip1559 (data : SpanBatchEip1559TransactionData)
  | eip7702 (data : SpanBatchEip7702TransactionData)
  | eip8130 (data : SpanBatchEip8130TransactionData)
deriving DecidableEq

/-- A 128-bit fee as a 256-bit word. -/
def U128.toU256 (fee : U128) : U256 := fee.castLE (Nat.pow_le_pow_right (by decide) (by decide))

/-- The low sixteen bytes of a 256-bit word. -/
def U256.toU128 (fee : U256) : U128 := Word.ofBytes 16 (fee.toBytes.drop 16)

theorem drop_beBytes (skip width value : Nat) :
    (beBytes (skip + width) value).drop skip = beBytes width value := by
  induction skip with
  | zero => rw [zero_add, drop_zero]
  | succ skip ih => rw [Nat.succ_add, beBytes, drop_succ_cons, ih]

@[simp] theorem U256.toU128_toU256 (fee : U128) : toU128 (U128.toU256 fee) = fee := by
  have hdrop : (U128.toU256 fee).toBytes.drop 16 = fee.toBytes := drop_beBytes 16 16 fee.val
  rw [toU128, hdrop, Word.ofBytes_toBytes]

namespace SpanBatchEip8130TransactionData

theorem splitAuth_ok {blob authenticator proof : Bytes} {configured : Bool}
    (hsplit : splitAuth blob configured = .ok (authenticator, proof)) :
    joinAuth authenticator proof configured = blob ∧
      validateAuthenticator authenticator configured = some () := by
  cases configured with
  | false =>
    cases hsplit
    exact ⟨rfl, rfl⟩
  | true =>
    by_cases hshort : blob.length < 20
    · simp [splitAuth, hshort] at hsplit
    · simp only [splitAuth, if_neg hshort] at hsplit
      obtain ⟨rfl, rfl⟩ := hsplit
      have hlength : (blob.take 20).length = 20 := by
        rw [length_take]
        omega
      constructor
      · by_cases hempty : (blob.drop 20).isEmpty
        · have hnil := isEmpty_iff.mp hempty
          have hjoin := take_append_drop 20 blob
          rw [hnil, append_nil] at hjoin
          simp only [joinAuth, if_pos hempty]
          exact hjoin
        · simp only [joinAuth, hempty]
          exact take_append_drop 20 blob
      · simp [validateAuthenticator, hlength]

/-- Put the transaction together from its data, the shared columns and the two
proofs. -/
def toTx (data : SpanBatchEip8130TransactionData) (chainId nonce gas : U64)
    (senderProof payerProof : Bytes) : Eip8130Signed where
  tx :=
    { chainId
      sender := data.sender
      nonceKey := data.nonceKey
      nonceSequence := nonce
      validAfter := data.validAfter
      validBefore := data.validBefore
      maxPriorityFeePerGas := data.maxPriorityFeePerGas
      maxFeePerGas := data.maxFeePerGas
      gasLimit := gas
      accountChanges := data.accountChanges
      calls := data.calls
      metadata := data.metadata
      payer := data.payer }
  senderAuth := joinAuth data.senderAuthenticator senderProof data.sender.isSome
  payerAuth := joinAuth data.payerAuthenticator payerProof (namedPayer data.payer)

end SpanBatchEip8130TransactionData

namespace SpanBatchTransactionData

def txType : SpanBatchTransactionData → OpTxType
  | .legacy _ => .legacy
  | .eip2930 _ => .eip2930
  | .eip1559 _ => .eip1559
  | .eip7702 _ => .eip7702
  | .eip8130 _ => .eip8130

def encode : SpanBatchTransactionData → Bytes
  | .legacy data => data.encode
  | .eip2930 data => OpTxType.eip2930.toByte :: data.encode
  | .eip1559 data => OpTxType.eip1559.toByte :: data.encode
  | .eip7702 data => OpTxType.eip7702.toByte :: data.encode
  | .eip8130 data => OpTxType.eip8130.toByte :: data.encode

/-- Keep what a reader returns and drop what it leaves. -/
def parsed {α : Type} (wrap : α → SpanBatchTransactionData)
    (result : Except Rlp.Error (α × Bytes)) :
    Except Rlp.Error SpanBatchTransactionData :=
  result.map fun pair => wrap pair.1

def decodeTyped (data : Bytes) : Except Rlp.Error SpanBatchTransactionData :=
  if data.length ≤ 1 then .error .custom
  else
    match data with
    | [] => .error .custom
    | first :: rest =>
      match OpTxType.ofByte? first with
      | some .eip2930 =>
        parsed .eip2930 (SpanBatchEip2930TransactionData.decode rest)
      | some .eip1559 =>
        parsed .eip1559 (SpanBatchEip1559TransactionData.decode rest)
      | some .eip7702 =>
        parsed .eip7702 (SpanBatchEip7702TransactionData.decode rest)
      | some .eip8130 =>
        parsed .eip8130 (SpanBatchEip8130TransactionData.decode rest)
      | _ => .error .custom

def decode (data : Bytes) : Except Rlp.Error SpanBatchTransactionData := match data with
  | [] => decodeTyped []
  | first :: rest =>
    if 0x7F < first.toNat then
      parsed .legacy (SpanBatchLegacyTransactionData.decode (first :: rest))
    else decodeTyped (first :: rest)

/-- The data of a transaction; a deposit has none. -/
def tryFrom : BaseTxEnvelope → Except SpanBatchError SpanBatchTransactionData
  | .legacy tx _ => .ok (.legacy
      { value := tx.value, gasPrice := U128.toU256 tx.gasPrice
        data := tx.input })
  | .eip2930 tx _ => .ok (.eip2930
      { value := tx.value, gasPrice := U128.toU256 tx.gasPrice
        data := tx.input, accessList := tx.accessList })
  | .eip1559 tx _ => .ok (.eip1559
      { value := tx.value, maxFeePerGas := U128.toU256 tx.maxFeePerGas
        maxPriorityFeePerGas := U128.toU256 tx.maxPriorityFeePerGas
        data := tx.input, accessList := tx.accessList })
  | .eip7702 tx _ => .ok (.eip7702
      { value := tx.value, maxFeePerGas := U128.toU256 tx.maxFeePerGas
        maxPriorityFeePerGas := U128.toU256 tx.maxPriorityFeePerGas
        data := tx.input, accessList := tx.accessList
        authorizationList := tx.authorizationList })
  | .eip8130 signed => do
      let tx := signed.tx
      let sender ← splitAuth signed.senderAuth tx.sender.isSome
      let payer ← splitAuth signed.payerAuth (namedPayer tx.payer)
      return .eip8130
        { sender := tx.sender, nonceKey := tx.nonceKey
          validAfter := tx.validAfter, validBefore := tx.validBefore
          maxPriorityFeePerGas := tx.maxPriorityFeePerGas
          maxFeePerGas := tx.maxFeePerGas, payer := tx.payer
          accountChanges := tx.accountChanges, calls := tx.calls
          metadata := tx.metadata, senderAuthenticator := sender.1
          payerAuthenticator := payer.1 }
  | .deposit _ => .error (.decoding .invalidTransactionType)

def toSignedTx (data : SpanBatchTransactionData) (nonce gas : U64)
    (recipient : Option Address) (chainId : U64) (signature : Signature)
    (isProtected : Bool) : Except SpanBatchError BaseTxEnvelope :=
  match data with
  | .legacy data => .ok (.legacy
      { chainId := if isProtected then some chainId else none, nonce
        gasPrice := toU128 data.gasPrice, gasLimit := gas
        kind := TxKind.ofOption recipient, value := data.value
        input := data.data } signature)
  | .eip2930 data => .ok (.eip2930
      { chainId, nonce, gasPrice := toU128 data.gasPrice, gasLimit := gas
        kind := TxKind.ofOption recipient, value := data.value
        input := data.data, accessList := data.accessList } signature)
  | .eip1559 data => .ok (.eip1559
      { chainId, nonce, maxFeePerGas := toU128 data.maxFeePerGas
        maxPriorityFeePerGas := toU128 data.maxPriorityFeePerGas
        gasLimit := gas, kind := TxKind.ofOption recipient, value := data.value
        input := data.data, accessList := data.accessList } signature)
  | .eip7702 data =>
    match recipient with
    | none => .error (.decoding .invalidTransactionData)
    | some recipient => .ok (.eip7702
        { chainId, nonce, maxFeePerGas := toU128 data.maxFeePerGas
          maxPriorityFeePerGas := toU128 data.maxPriorityFeePerGas
          gasLimit := gas, recipient, value := data.value, input := data.data
          accessList := data.accessList
          authorizationList := data.authorizationList } signature)
  | .eip8130 _ => .error (.decoding .invalidTransactionType)

/-- The data can stand in a span batch. -/
def Valid : SpanBatchTransactionData → Prop
  | .eip8130 data => data.Authenticated
  | _ => True

variable {payload : Bytes}

theorem encodeList_head (hlength : payload.length < 2 ^ 64) :
    ∃ first rest, encodeList payload = first :: rest ∧ 0xC0 ≤ first.toNat := by
  by_cases hshort : payload.length < 56
  · refine ⟨UInt8.ofNat (0xC0 + payload.length), payload, ?_, ?_⟩
    · simp [encodeList, Rlp.Header.encode, hshort]
    · rw [toNat_ofNat_byte (by omega)]
      omega
  · have hwidth : (beMin payload.length).length ≤ 8 := by
      rw [beMin_length]
      exact byteLength_le hlength
    refine ⟨UInt8.ofNat (0xF7 + (beMin payload.length).length),
      beMin payload.length ++ payload, ?_, ?_⟩
    · simp [encodeList, Rlp.Header.encode, hshort]
    · rw [toNat_ofNat_byte (by omega)]
      omega

theorem parsed_of_reads {α : Type} {wrap : α → SpanBatchTransactionData}
    {read : Reader Error α} {bytes : Bytes} {value : α}
    (hreads : Reader.Reads read bytes value) :
    parsed wrap (read bytes) = .ok (wrap value) := by
  have hread := hreads []
  rw [append_nil] at hread
  rw [hread]
  rfl

/-- Typed data is dispatched on its type byte. -/
theorem decode_cons {first : UInt8} (hfirst : first.toNat ≤ 0x7F) :
    decode (first :: encodeList payload) = match OpTxType.ofByte? first with
      | some .eip2930 => parsed .eip2930
          (SpanBatchEip2930TransactionData.decode (encodeList payload))
      | some .eip1559 => parsed .eip1559
          (SpanBatchEip1559TransactionData.decode (encodeList payload))
      | some .eip7702 => parsed .eip7702
          (SpanBatchEip7702TransactionData.decode (encodeList payload))
      | some .eip8130 => parsed .eip8130
          (SpanBatchEip8130TransactionData.decode (encodeList payload))
      | _ => .error .custom := by
  have hlong : ¬ (first :: encodeList payload).length ≤ 1 := by
    have hne := length_pos_iff.mpr (encodeList_ne_nil payload)
    rw [length_cons]
    omega
  rw [decode, if_neg (not_lt.mpr hfirst), decodeTyped, if_neg hlong]

theorem decode_encode {data : SpanBatchTransactionData} (hvalid : data.Valid)
    (hlength : data.encode.length < 2 ^ 64) :
    decode data.encode = .ok data := by
  cases data with
  | legacy data =>
    have hpayload := lt_of_le_of_lt (length_le_encodeList _) hlength
    obtain ⟨first, rest, hfirst, hlist⟩ := encodeList_head hpayload
    have hreads := SpanBatchLegacyTransactionData.inverse.reads hlength
    have hencode : encode (.legacy data) = first :: rest := hfirst
    have hhead : 0x7F < first.toNat := by omega
    rw [hencode, decode, if_pos hhead, ← hencode]
    exact parsed_of_reads hreads
  | eip2930 =>
    rw [encode, length_cons] at hlength
    rw [encode, SpanBatchEip2930TransactionData.encode, decode_cons (by decide)]
    exact parsed_of_reads (SpanBatchEip2930TransactionData.inverse.reads (by omega))
  | eip1559 =>
    rw [encode, length_cons] at hlength
    rw [encode, SpanBatchEip1559TransactionData.encode, decode_cons (by decide)]
    exact parsed_of_reads (SpanBatchEip1559TransactionData.inverse.reads (by omega))
  | eip7702 =>
    rw [encode, length_cons] at hlength
    rw [encode, SpanBatchEip7702TransactionData.encode, decode_cons (by decide)]
    exact parsed_of_reads (SpanBatchEip7702TransactionData.inverse.reads (by omega))
  | eip8130 =>
    rw [encode, length_cons] at hlength
    rw [encode, SpanBatchEip8130TransactionData.encode, decode_cons (by decide)]
    exact parsed_of_reads (decode_reads hvalid (by omega))

end SpanBatchTransactionData

end BaseChain
