/-
The safe head database: which L2 block was safe once an L1 block had been processed.
A write either happens as a whole or not at all, and here it always happens.
-/
import BaseChain.RollupConfig
import BaseChain.OrderedTable

namespace BaseChain

namespace ConsensusNode

/-- What is stored under the number of an L1 block. -/
@[ext] structure SafeHeadRecord where
  l1Hash : B256
  l2Hash : B256
  l2Number : Nat
deriving DecidableEq

namespace SafeHeadRecord

def encodeValue (record : SafeHeadRecord) : FixedBytes 72 :=
  ⟨record.l1Hash.val ++ record.l2Hash.val ++ beBytes 8 record.l2Number, by simp⟩

def decodeValue (bytes : FixedBytes 72) : SafeHeadRecord where
  l1Hash := ⟨slice bytes.val 0 32, by simp⟩
  l2Hash := ⟨slice bytes.val 32 64, by simp⟩
  l2Number := beNat (slice bytes.val 64 72)

end SafeHeadRecord

/-- The table, by the number of the L1 block. -/
abbrev SafeDb := OrderedTable Nat (FixedBytes 72)

structure SafeHeadResponse where
  l1Block : BlockNumHash
  safeHead : BlockNumHash
deriving DecidableEq

namespace SafeDb

variable (db : SafeDb)

def safeHeadUpdated (safeHead : L2BlockInfo) (l1Block : BlockInfo) : SafeDb :=
  db.insert l1Block.number (SafeHeadRecord.encodeValue
    ⟨l1Block.hash, safeHead.blockInfo.hash, safeHead.blockInfo.number⟩)

/-- The scan starts at the L1 origin of the head and stops at the first entry for a block
at or above it.  Everything from there on is deleted, and the head itself is recorded
under its L1 origin. -/
def safeHeadReset (resetSafeHead : L2BlockInfo) : SafeDb :=
  let firstKey := (db.startingAt resetSafeHead.l1Origin.number).find? fun entry =>
    resetSafeHead.blockInfo.number ≤ (SafeHeadRecord.decodeValue entry.2).l2Number
  match firstKey with
  | some (key, _) =>
    (db.filterKeys fun other => other < key).insert resetSafeHead.l1Origin.number
      (SafeHeadRecord.encodeValue ⟨resetSafeHead.l1Origin.hash,
        resetSafeHead.blockInfo.hash, resetSafeHead.blockInfo.number⟩)
  | none => db

def safeHeadAtL1 (l1BlockNum : Nat) : Option SafeHeadResponse :=
  (db.atMost l1BlockNum).map fun (key, value) =>
    let record := SafeHeadRecord.decodeValue value
    ⟨⟨key, record.l1Hash⟩, ⟨record.l2Number, record.l2Hash⟩⟩

end SafeDb

end ConsensusNode

end BaseChain
