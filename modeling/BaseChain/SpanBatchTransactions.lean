/-
The transactions of a span batch, torn into columns.  Each column has its own
wire form; some transactions contribute to a column and some do not, and the
reassembly walks every column with its own index.
-/
import BaseChain.SpanTransactionEnvelope
import BaseChain.Varint

namespace BaseChain

open Reader SpanBatchEip8130TransactionData

def maxSpanBatchElements : Nat := 10000000

structure SpanBatchTransactions where
  totalBlockTxCount : Nat
  contractCreationBits : SpanBatchBits
  txSigs : List Signature
  txNonces : List U64
  txGases : List U64
  txTos : List Address
  txData : List Bytes
  protectedBits : SpanBatchBits
  txTypes : List OpTxType
  legacyTxCount : Nat
  eip8130AuthData : List (Bytes × Bytes)
deriving DecidableEq

/-- Set the bits from an index on. -/
def SpanBatchBits.setAll (bits : SpanBatchBits) (index : Nat) : List Bool → SpanBatchBits
  | [] => bits
  | value :: values => setAll (bits.setBit index value) (index + 1) values

/-- A value that the code looks up and reports as invalid when it is missing. -/
def required {α : Type} : Option α → Except Fault α
  | none => .error (.decoding .invalidTransactionData)
  | some value => .ok value

namespace SpanBatchTransactions

def empty : SpanBatchTransactions where
  totalBlockTxCount := 0
  contractCreationBits := .empty
  txSigs := []
  txNonces := []
  txGases := []
  txTos := []
  txData := []
  protectedBits := .empty
  txTypes := []
  legacyTxCount := 0
  eip8130AuthData := []

variable (varint : Varint)

section Encode

variable (txs : SpanBatchTransactions)

def encodeContractCreationBits : Except Fault Bytes :=
  SpanBatchBits.encode txs.totalBlockTxCount txs.contractCreationBits

def encodeProtectedBits : Except Fault Bytes :=
  SpanBatchBits.encode txs.legacyTxCount txs.protectedBits

def yParityBits (sigs : List Signature) : SpanBatchBits :=
  SpanBatchBits.empty.setAll 0 (sigs.map (·.yParity))

def encodeSig (sig : Signature) : Bytes := sig.r.toBytes ++ sig.s.toBytes

def encodeTxSigs : Except Fault Bytes := do
  let bits ← SpanBatchBits.encode txs.totalBlockTxCount (yParityBits txs.txSigs)
  return bits ++ txs.txSigs.flatMap encodeSig

def encodeTxTos : Bytes := txs.txTos.flatMap (·.val)

def encodeTxData : Bytes := txs.txData.flatMap id

def encodeTxNonces : Bytes := txs.txNonces.flatMap varint.encode

def encodeTxGases : Bytes := txs.txGases.flatMap varint.encode

/-- The length of a proof and the proof. -/
def encodeProof (proof : Bytes) : Bytes := varint.encode (Fin.ofNat (256 ^ 8) proof.length) ++ proof

def encodeProofs (proofs : Bytes × Bytes) : Bytes :=
  encodeProof varint proofs.1 ++ encodeProof varint proofs.2

def encodeEip8130AuthData : Bytes := txs.eip8130AuthData.flatMap (encodeProofs varint)

def encode : Except Fault Bytes := do
  let creation ← txs.encodeContractCreationBits
  let sigs ← txs.encodeTxSigs
  let isProtected ← txs.encodeProtectedBits
  return creation ++ (sigs ++ (txs.encodeTxTos ++ (txs.encodeTxData ++
    (txs.encodeTxNonces varint ++ (txs.encodeTxGases varint ++
      (isProtected ++ txs.encodeEip8130AuthData varint))))))

end Encode

section Decode

/-- The error returned when a count is above the limit. -/
def tooBig {α : Type} : Reader Fault α := fail (.error .tooBigSpanBatchSize)

variable (txs : SpanBatchTransactions)

def decodeContractCreationBits : Reader Fault SpanBatchTransactions :=
  if maxSpanBatchElements < txs.totalBlockTxCount then tooBig
  else do
    let bits ← SpanBatchBits.decode txs.totalBlockTxCount
    return { txs with contractCreationBits := bits }

def decodeProtectedBits : Reader Fault SpanBatchTransactions :=
  if maxSpanBatchElements < txs.legacyTxCount then tooBig
  else do
    let bits ← SpanBatchBits.decode txs.legacyTxCount
    return { txs with protectedBits := bits }

/-- The parity of a signature; a missing bit would be a panic. -/
def readParity (bits : SpanBatchBits) (index : Nat) : Reader Fault Bool :=
  match bits.getBit index with
  | none => fail .panic
  | some bit => pure bit

def readSigs (bits : SpanBatchBits) : Nat → Nat → Reader Fault (List Signature)
  | _, 0 => pure []
  | index, count + 1 => do
      let yParity ← readParity bits index
      let data ← chunk (.decoding .invalidTransactionData) 64
      let sigs ← readSigs bits (index + 1) count
      return { r := Word.ofBytes 32 (data.take 32)
               s := Word.ofBytes 32 (data.drop 32), yParity } :: sigs

def decodeTxSigs : Reader Fault SpanBatchTransactions := do
  let bits ← SpanBatchBits.decode txs.totalBlockTxCount
  let sigs ← readSigs bits 0 txs.totalBlockTxCount
  return { txs with txSigs := sigs }

def decodeTxNonces : Reader Fault SpanBatchTransactions := do
  let nonces ← (varint.read (.decoding .txNonces)).many txs.totalBlockTxCount
  return { txs with txNonces := nonces }

def decodeTxGases : Reader Fault SpanBatchTransactions := do
  let gases ← (varint.read (.decoding .txNonces)).many txs.totalBlockTxCount
  return { txs with txGases := gases }

def contractCreationCount : Nat := txs.contractCreationBits.count

def decodeTxTos : Reader Fault SpanBatchTransactions :=
  if txs.totalBlockTxCount < txs.contractCreationCount then fail .panic
  else do
    let tos ← (fixed (.decoding .invalidTransactionData) 20).many
      (txs.totalBlockTxCount - txs.contractCreationCount)
    return { txs with txTos := tos }

/-- The list at the front of the buffer, header included. -/
def readList : Reader Fault Bytes := fun buf =>
  match Rlp.Header.decode buf with
  | .error _ => .error (.decoding .invalidTransactionData)
  | .ok (header, _) =>
    if header.list = false then .error (.decoding .invalidTransactionData)
    else
      let length := header.payloadLength + header.encode.length
      if maxSpanBatchElements < length then .error (.error .tooBigSpanBatchSize)
      else chunk (.decoding .invalidTransactionData) length buf

def readTyped (front : Bytes) (typeByte : UInt8) : Reader Fault (Bytes × OpTxType) := do
  let payload ← readList
  match OpTxType.ofByte? typeByte with
  | none => fail (.decoding .invalidTransactionType)
  | some txType => return (front ++ payload, txType)

/-- One transaction's data: a type byte below `0x80`, if there is one, and a
list. -/
def readTxData : Reader Fault (Bytes × OpTxType) := fun buf =>
  match buf with
  | [] => .error (.decoding .invalidTransactionData)
  | first :: rest =>
    if first.toNat ≤ 0x7F then readTyped [first] first rest
    else readTyped [] 0 (first :: rest)

def decodeTxData : Reader Fault SpanBatchTransactions := do
  let entries ← readTxData.many txs.totalBlockTxCount
  let txTypes := entries.map (·.2)
  return { txs with
    txData := entries.map (·.1), txTypes
    legacyTxCount := txs.legacyTxCount + txTypes.count .legacy }

def decodeEip8130Proof : Reader Fault Bytes := do
  let length ← varint.read (.decoding .invalidAuthData)
  if maxAuthProofBytes < length.val then tooBig
  else chunk (.decoding .invalidTransactionData) length.val

def decodeProofs : Reader Fault (Bytes × Bytes) := do
  let senderProof ← decodeEip8130Proof varint
  let payerProof ← decodeEip8130Proof varint
  return (senderProof, payerProof)

def decodeEip8130AuthData : Reader Fault SpanBatchTransactions := do
  let authData ← (decodeProofs varint).many (txs.txTypes.count .eip8130)
  return { txs with eip8130AuthData := authData }

def decode : Reader Fault SpanBatchTransactions := do
  let txs ← txs.decodeContractCreationBits
  let txs ← txs.decodeTxSigs
  let txs ← txs.decodeTxTos
  let txs ← txs.decodeTxData
  let txs ← txs.decodeTxNonces varint
  let txs ← txs.decodeTxGases varint
  let txs ← txs.decodeProtectedBits
  txs.decodeEip8130AuthData varint

end Decode

end SpanBatchTransactions

/-- What one transaction contributes to the columns.  Only legacy transactions
have a protected bit and only EIP-8130 transactions have proofs. -/
structure TxColumns where
  data : SpanBatchTransactionData
  txType : OpTxType
  signature : Signature
  recipient : Option Address
  nonce : U64
  gas : U64
  protectedBit : Option Bool
  auth : Option (Bytes × Bytes)
deriving DecidableEq

namespace TxColumns

def invalidData {α : Type} : Except SpanBatchError α := .error (.decoding .invalidTransactionData)

/-- The signature column of an EIP-8130 transaction. -/
def zeroSignature : Signature := { r := 0, s := 0, yParity := false }

def ofEnvelope (chainId : U64) (tx : BaseTxEnvelope) : Except SpanBatchError TxColumns :=
  match SpanBatchTransactionData.tryFrom tx with
  | .error error => .error error
  | .ok data =>
    match tx with
    | .legacy inner signature =>
      if inner.chainId.isSome ∧ inner.chainId ≠ some chainId then invalidData
      else .ok
        { data, txType := tx.txType, signature
          recipient := inner.kind.recipient?, nonce := inner.nonce
          gas := inner.gasLimit, protectedBit := some inner.chainId.isSome
          auth := none }
    | .eip2930 inner signature =>
      if inner.chainId ≠ chainId then invalidData
      else .ok
        { data, txType := tx.txType, signature
          recipient := inner.kind.recipient?, nonce := inner.nonce
          gas := inner.gasLimit, protectedBit := none, auth := none }
    | .eip1559 inner signature =>
      if inner.chainId ≠ chainId then invalidData
      else .ok
        { data, txType := tx.txType, signature
          recipient := inner.kind.recipient?, nonce := inner.nonce
          gas := inner.gasLimit, protectedBit := none, auth := none }
    | .eip7702 inner signature =>
      if inner.chainId ≠ chainId then invalidData
      else .ok
        { data, txType := tx.txType, signature
          recipient := some inner.recipient, nonce := inner.nonce
          gas := inner.gasLimit, protectedBit := none, auth := none }
    | .eip8130 signed =>
      if signed.tx.chainId ≠ chainId then invalidData
      else
        match splitAuth signed.senderAuth
            signed.tx.sender.isSome with
        | .error error => .error error
        | .ok (_, senderProof) =>
          match splitAuth signed.payerAuth
              (namedPayer signed.tx.payer) with
          | .error error => .error error
          | .ok (_, payerProof) => .ok
              { data, txType := tx.txType, signature := zeroSignature
                recipient := none, nonce := signed.tx.nonceSequence
                gas := signed.tx.gasLimit, protectedBit := none
                auth := some (senderProof, payerProof) }
    | .deposit _ => .error (.decoding .invalidTransactionType)

end TxColumns

namespace SpanBatchTransactions

/-- Append one transaction's columns, as the transaction with a given index. -/
def push (txs : SpanBatchTransactions) (index : Nat) (columns : TxColumns) :
    SpanBatchTransactions :=
  { txs with
    protectedBits := match columns.protectedBit with
      | none => txs.protectedBits
      | some bit => txs.protectedBits.setBit txs.legacyTxCount bit
    legacyTxCount := txs.legacyTxCount + columns.protectedBit.toList.length
    eip8130AuthData := txs.eip8130AuthData ++ columns.auth.toList
    txTos := txs.txTos ++ columns.recipient.toList
    txSigs := txs.txSigs ++ [columns.signature]
    contractCreationBits := txs.contractCreationBits.setBit index columns.recipient.isNone
    txNonces := txs.txNonces ++ [columns.nonce]
    txData := txs.txData ++ [columns.data.encode]
    txGases := txs.txGases ++ [columns.gas]
    txTypes := txs.txTypes ++ [columns.txType] }

section Transactions

variable (codec : TxCodec) (chainId : U64)

def addFrom : SpanBatchTransactions → Nat → List Bytes → Except SpanBatchError SpanBatchTransactions
  | txs, _, [] => .ok txs
  | txs, index, raw :: raws =>
    match codec.decode raw with
    | .error _ => TxColumns.invalidData
    | .ok tx =>
      match TxColumns.ofEnvelope chainId tx with
      | .error error => .error error
      | .ok columns => addFrom (txs.push index columns) (index + 1) raws

variable (txs : SpanBatchTransactions)

def addTxs (raws : List Bytes) : Except SpanBatchError SpanBatchTransactions :=
  match addFrom codec chainId txs txs.totalBlockTxCount raws with
  | .error error => .error error
  | .ok added => .ok { added with
      totalBlockTxCount := added.totalBlockTxCount + raws.length }

/-- The positions in the columns that not every transaction advances. -/
structure Cursors where
  toIdx : Nat
  protectedBitIdx : Nat
  eip8130Idx : Nat
deriving Repr, DecidableEq

def Cursors.zero : Cursors := ⟨0, 0, 0⟩

def takeRecipient (creation : Bool) (cursors : Cursors) : Except Fault (Option Address × Cursors) :=
  if creation then .ok (none, cursors)
  else
    match txs.txTos[cursors.toIdx]? with
    | none => .error (.decoding .invalidTransactionData)
    | some recipient =>
      .ok (some recipient, { cursors with toIdx := cursors.toIdx + 1 })

def takeProtected (data : SpanBatchTransactionData) (cursors : Cursors) : Bool × Cursors :=
  if data.txType = .legacy then
    ((txs.protectedBits.getBit cursors.protectedBitIdx).getD false,
      { cursors with protectedBitIdx := cursors.protectedBitIdx + 1 })
  else (true, cursors)

/-- Put one transaction together from its data and its columns. -/
def reassemble (idx : Nat) (data : SpanBatchTransactionData) (nonce gas : U64)
    (recipient : Option Address) (cursors : Cursors) :
    Except Fault (Bytes × Cursors) :=
  match data with
  | .eip8130 inner =>
    match txs.eip8130AuthData[cursors.eip8130Idx]? with
    | none => .error (.decoding .invalidTransactionData)
    | some (senderProof, payerProof) =>
      .ok (codec.encode2718 (.eip8130 (inner.toTx chainId nonce gas senderProof payerProof)),
        { cursors with eip8130Idx := cursors.eip8130Idx + 1 })
  | data =>
    match txs.txSigs[idx]? with
    | none => .error (.decoding .invalidTransactionData)
    | some sig =>
      let (isProtected, cursors) := txs.takeProtected data cursors
      match data.toSignedTx nonce gas recipient chainId sig isProtected with
      | .error error => .error (.error error)
      | .ok tx => .ok (codec.encode2718 tx, cursors)

def fullTx (idx : Nat) (cursors : Cursors) : Except Fault (Bytes × Cursors) :=
  match txs.txData[idx]? with
  | none => .error .panic
  | some raw =>
    match SpanBatchTransactionData.decode raw with
    | .error _ => .error (.decoding .invalidTransactionData)
    | .ok data => do
        let nonce ← required txs.txNonces[idx]?
        let gas ← required txs.txGases[idx]?
        let creation ← required (txs.contractCreationBits.getBit idx)
        let (recipient, cursors) ← txs.takeRecipient creation cursors
        reassemble codec chainId txs idx data nonce gas recipient cursors

def fullTxsFrom (txs : SpanBatchTransactions) : Nat → Nat → Cursors → Except Fault (List Bytes)
  | 0, _, _ => .ok []
  | count + 1, idx, cursors => do
      let (raw, cursors) ← fullTx codec chainId txs idx cursors
      let raws ← fullTxsFrom txs count (idx + 1) cursors
      return raw :: raws

/-- All the transactions of the span, in order. -/
def fullTxs : Except Fault (List Bytes) :=
  fullTxsFrom codec chainId txs txs.totalBlockTxCount 0 .zero

end Transactions

end SpanBatchTransactions

end BaseChain
