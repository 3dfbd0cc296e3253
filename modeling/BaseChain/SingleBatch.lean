/-
The single batch: one L2 block as it is written into a channel.  A channel
entry is a byte string that holds the batch type and the record of the batch.
-/
import BaseChain.Rlp
import BaseChain.RollupConfig

namespace BaseChain

open List Rlp

structure SingleBatch where
  parentHash : B256
  epochNum : Nat
  epochHash : B256
  timestamp : Nat
  transactions : List Bytes
deriving DecidableEq

inductive BatchType where
  | single
  | span
deriving Repr, DecidableEq

def BatchType.toByte : BatchType → UInt8
  | .single => 0
  | .span => 1

namespace SingleBatch

variable (batch : SingleBatch)

def epoch : BlockNumHash := { number := batch.epochNum, hash := batch.epochHash }

/-- The fields of the record, in order. -/
def payload : Bytes := encodeBytes batch.parentHash.val ++ (encodeUint batch.epochNum ++
    (encodeBytes batch.epochHash.val ++ (encodeUint batch.timestamp ++
      encodeList (batch.transactions.flatMap encodeBytes))))

def encode : Bytes := encodeList batch.payload

def length (batch : SingleBatch) : Nat := batch.encode.length

def rlpHeader : Rlp.Header := { list := false, payloadLength := 1 + batch.length }

/-- The wire form of one single batch in a channel: string header, type byte,
record. -/
def channelEntry : Bytes := batch.rlpHeader.encode ++ (BatchType.single.toByte :: batch.encode)

def decodeFields (buf : Bytes) : Except Rlp.Error (SingleBatch × Bytes) := do
  let (parentHash, buf) ← decodeFixed 32 buf
  let (epochNum, buf) ← decodeUint 8 buf
  let (epochHash, buf) ← decodeFixed 32 buf
  let (timestamp, buf) ← decodeUint 8 buf
  let (transactions, buf) ← decodeList (decodePayload false) buf
  return ({ parentHash, epochNum, epochHash, timestamp, transactions }, buf)

def decode (buf : Bytes) : Except Rlp.Error (SingleBatch × Bytes) := decodeRecord decodeFields buf

/-- The machine-word and memory bounds of a batch value. -/
structure Bounded (batch : SingleBatch) : Prop where
  epochNum_lt : batch.epochNum < 2 ^ 64
  timestamp_lt : batch.timestamp < 2 ^ 64
  length_lt : batch.length < 2 ^ 64

theorem payload_length_le : batch.payload.length ≤ batch.length := by
  simp [length, encode, encodeList]

theorem encodedTransactions_length_le :
    (batch.transactions.flatMap encodeBytes).length ≤ batch.payload.length := by
  simp only [payload, length_append, encodeList]
  omega

theorem transaction_length_le {data : Bytes} : data.length ≤ (encodeBytes data).length := by
  unfold encodeBytes
  split
  · split <;> simp
  · simp

variable {batch : SingleBatch}

theorem mem_transaction_length_le {data : Bytes} (hdata : data ∈ batch.transactions) :
    data.length ≤ batch.length := by
  have hmem : (encodeBytes data).length ≤ (batch.transactions.flatMap encodeBytes).length := by
    obtain ⟨front, back, hsplit⟩ := append_of_mem hdata
    simp only [hsplit, flatMap_append, flatMap_cons, length_append]
    omega
  have hdata := @transaction_length_le data
  have hpayload := batch.encodedTransactions_length_le
  have htotal := batch.payload_length_le
  omega

/-- A written batch is read back and leaves the bytes behind it. -/
theorem decode_encode (hbound : batch.Bounded) (rest : Bytes) :
    decode (batch.encode ++ rest) = .ok (batch, rest) := by
  have hpayload : batch.payload.length < 2 ^ 64 :=
    lt_of_le_of_lt batch.payload_length_le hbound.length_lt
  have htxs : (batch.transactions.flatMap encodeBytes).length < 2 ^ 64 :=
    lt_of_le_of_lt batch.encodedTransactions_length_le hpayload
  refine decodeRecord_encodeList rest hpayload ?_
  simp only [payload, append_assoc, decodeFields, bind, Except.bind]
  rw [decodeFixed_encodeBytes _ _ (by decide)]
  dsimp only
  rw [decodeUint_encodeUint _ hbound.epochNum_lt (by decide)]
  dsimp only
  rw [decodeFixed_encodeBytes _ _ (by decide)]
  dsimp only
  rw [decodeUint_encodeUint _ hbound.timestamp_lt (by decide)]
  dsimp only
  rw [decodeList_encodeList _ _ htxs]
  · rfl
  · intro data hdata rest
    exact decodePayload_encodeBytes rest
      (lt_of_le_of_lt (mem_transaction_length_le hdata) hbound.length_lt)
  · intro data hdata
    exact encodeBytes_ne_nil data

end SingleBatch

end BaseChain
