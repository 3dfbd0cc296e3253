/-
The raw span batch: a fixed prefix, the number of blocks, one bit and one
transaction count for each block, and the columns of all transactions.
-/
import BaseChain.SpanBatchTransactions

namespace BaseChain

open Reader SpanBatchTransactions

structure SpanBatchPrefix where
  relTimestamp : U64
  l1OriginNum : U64
  parentCheck : FixedBytes 20
  l1OriginCheck : FixedBytes 20
deriving DecidableEq

variable (varint : Varint)

namespace SpanBatchPrefix

def encodePrefix (front : SpanBatchPrefix) : Bytes :=
  varint.encode front.relTimestamp ++ (varint.encode front.l1OriginNum ++
    (front.parentCheck.val ++ front.l1OriginCheck.val))

def decodePrefix : Reader Fault SpanBatchPrefix := do
  let relTimestamp ← varint.read (.decoding .relativeTimestamp)
  let l1OriginNum ← varint.read (.decoding .l1OriginNumber)
  let parentCheck ← fixed (.decoding .parentCheck) 20
  let l1OriginCheck ← fixed (.decoding .l1OriginCheck) 20
  return { relTimestamp, l1OriginNum, parentCheck, l1OriginCheck }

end SpanBatchPrefix

structure SpanBatchPayload where
  blockCount : U64
  originBits : SpanBatchBits
  blockTxCounts : List U64
  txs : SpanBatchTransactions
deriving DecidableEq

namespace SpanBatchPayload

/-- The number of transactions of all blocks. -/
def totalTxCount (counts : List U64) : Nat := (counts.map (·.val)).sum

def decodeBlockCount : Reader Fault U64 := do
  let blockCount ← varint.read (.decoding .blockCount)
  if maxSpanBatchElements < blockCount.val then
    tooBig
  else if blockCount.val = 0 then
    fail (.error .emptySpanBatch)
  else
    return blockCount

def decodeOriginBits (blockCount : U64) : Reader Fault SpanBatchBits :=
  if maxSpanBatchElements < blockCount.val then tooBig
  else SpanBatchBits.decode blockCount.val

def decodeBlockTxCount : Reader Fault U64 := do
  let count ← varint.read (.decoding .blockTxCounts)
  if maxSpanBatchElements < count.val then tooBig
  else return count

/-- The transactions; the sum of the counts may neither leave its type nor pass
the limit. -/
def decodeTxs (counts : List U64) : Reader Fault SpanBatchTransactions := if counts.isEmpty then
    fail (.error .emptySpanBatch)
  else if u64Max < totalTxCount counts then
    tooBig
  else if maxSpanBatchElements < totalTxCount counts then
    tooBig
  else
    SpanBatchTransactions.decode varint
      { SpanBatchTransactions.empty with
        totalBlockTxCount := totalTxCount counts }

def decodePayload : Reader Fault SpanBatchPayload := do
  let blockCount ← decodeBlockCount varint
  let originBits ← decodeOriginBits blockCount
  let blockTxCounts ← (decodeBlockTxCount varint).many blockCount.val
  let txs ← decodeTxs varint blockTxCounts
  return { blockCount, originBits, blockTxCounts, txs }

def encodePayload (payload : SpanBatchPayload) : Except Fault Bytes := do
  let originBits ← SpanBatchBits.encode payload.blockCount.val payload.originBits
  let txs ← payload.txs.encode varint
  return varint.encode payload.blockCount ++ (originBits ++
    (payload.blockTxCounts.flatMap varint.encode ++ txs))

end SpanBatchPayload

structure RawSpanBatch where
  front : SpanBatchPrefix
  payload : SpanBatchPayload
deriving DecidableEq

namespace RawSpanBatch

def encode (batch : RawSpanBatch) : Except Fault Bytes := do
  let payload ← batch.payload.encodePayload varint
  return batch.front.encodePrefix varint ++ payload

def decode : Reader Fault RawSpanBatch := do
  let front ← SpanBatchPrefix.decodePrefix varint
  let payload ← SpanBatchPayload.decodePayload varint
  return { front, payload }

end RawSpanBatch

end BaseChain
