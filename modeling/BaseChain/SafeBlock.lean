/-
Blocks of the safe chain as a provider returns them, and the L1 origin that is
read from the first deposit of a block.
-/
import BaseChain.BatchValidity

namespace BaseChain

open Checked List

/-- A transaction of a block: the call data of a deposit, and the encoded form
of the transaction. -/
structure BlockTransaction where
  deposit : Option Bytes
  encoded : Bytes
deriving DecidableEq

def BlockTransaction.isDeposit (tx : BlockTransaction) : Bool := tx.deposit.isSome

structure BaseBlock where
  info : BlockInfo
  transactions : List BlockTransaction

/-- Safe blocks by number; a lookup can fail. -/
structure BatchValidationProvider where
  l2BlockInfoByNumber : Nat → Option L2BlockInfo
  blockByNumber : Nat → Option BaseBlock

variable (data : Bytes)

/-- A sub-slice of call data. -/
def sliceAt (start width : Nat) : Check Bytes := if data.length < start + width then .error .panic
  else .ok ((data.drop start).take width)

structure L1BlockInfoTx where
  number : Nat
  blockHash : B256
  sequenceNumber : Nat

namespace L1BlockInfoTx

/-- Where the upgrades put the fields: the selector, the length of the call data
and the position of the sequence number. -/
structure Layout where
  selector : Bytes
  length : Nat
  sequenceAt : Nat

def bedrock : Layout :=
  { selector := [0x01, 0x5d, 0x8e, 0xb9], length := 4 + 32 * 8, sequenceAt := 156 }

def ecotone : Layout :=
  { selector := [0x44, 0x0a, 0x5e, 0x20], length := 4 + 32 * 5, sequenceAt := 12 }

def isthmus : Layout :=
  { selector := [0x09, 0x89, 0x99, 0xbe], length := 4 + 32 * 5 + 4 + 8
    sequenceAt := 12 }

def jovian : Layout :=
  { selector := [0x3d, 0xb6, 0xbe, 0x2b], length := 4 + 32 * 5 + 4 + 8 + 2
    sequenceAt := 12 }

def layouts : List Layout := [bedrock, ecotone, isthmus, jovian]

/-- Read the fields of one layout; `none` is a decoding error. -/
def decodeLayout (layout : Layout) (data : Bytes) : Check (Option L1BlockInfoTx) :=
  if data.length ≠ layout.length then .ok none
  else do
    let number ← sliceAt data 28 8
    let blockHash ← sliceAt data 100 32
    let sequenceNumber ← sliceAt data layout.sequenceAt 8
    if hhash : blockHash.length = 32 then
      return some
        { number := beNat number, blockHash := ⟨blockHash, hhash⟩
          sequenceNumber := beNat sequenceNumber }
    else .error .panic

def decodeCalldata : Check (Option L1BlockInfoTx) := if data.length < 4 then .ok none
  else
    match layouts.find? (·.selector = data.take 4) with
    | none => .ok none
    | some layout => decodeLayout layout data

theorem sliceAt_eq_ok {data : Bytes} {start width : Nat} (hroom : start + width ≤ data.length) :
    sliceAt data start width = .ok ((data.drop start).take width) :=
  if_neg (Nat.not_lt.mpr hroom)

/-- Every layout has room for the fields that are read. -/
theorem layout_room {layout : Layout} (hlayout : layout ∈ layouts) :
    132 ≤ layout.length ∧ layout.sequenceAt + 8 ≤ layout.length := by
  simp only [layouts, mem_cons, not_mem_nil, or_false] at hlayout
  rcases hlayout with rfl | rfl | rfl | rfl
  · decide
  · decide
  · decide
  · decide

theorem decodeCalldata_total : ∃ info, decodeCalldata data = .ok info := by
  unfold decodeCalldata
  by_cases hshort : data.length < 4
  · exact ⟨none, if_pos hshort⟩
  rw [if_neg hshort]
  cases hfind : layouts.find? (·.selector = data.take 4) with
  | none => exact ⟨none, rfl⟩
  | some layout =>
    have hroom := layout_room (mem_of_find?_eq_some hfind)
    dsimp only
    unfold decodeLayout
    by_cases hlength : data.length = layout.length
    · rw [if_neg (not_not.mpr hlength), bind_ok (sliceAt_eq_ok (by omega)),
        bind_ok (sliceAt_eq_ok (by omega)), bind_ok (sliceAt_eq_ok (by omega))]
      have hhash : ((data.drop 100).take 32).length = 32 := by
        rw [length_take, length_drop]
        omega
      exact ⟨_, dif_pos hhash⟩
    · exact ⟨none, if_pos hlength⟩

end L1BlockInfoTx

/-- The L2 block info of a block; `none` is an error. -/
def L2BlockInfo.fromBlockAndGenesis (block : BaseBlock) (genesis : ChainGenesis) :
    Check (Option L2BlockInfo) :=
  if block.info.number = genesis.l2.number then
    if block.info.hash ≠ genesis.l2.hash then .ok none
    else .ok (some { blockInfo := block.info, l1Origin := genesis.l1, seqNum := 0 })
  else
    match block.transactions with
    | [] => .ok none
    | tx :: _ =>
      match tx.deposit with
      | none => .ok none
      | some data => do
          let info ← L1BlockInfoTx.decodeCalldata data
          return info.map fun info =>
            { blockInfo := block.info
              l1Origin := { number := info.number, hash := info.blockHash }
              seqNum := info.sequenceNumber }

theorem L2BlockInfo.fromBlockAndGenesis_total (block : BaseBlock) (genesis : ChainGenesis) :
    ∃ info, fromBlockAndGenesis block genesis = .ok info := by
  unfold fromBlockAndGenesis
  split
  · split
    · exact ⟨none, rfl⟩
    · exact ⟨_, rfl⟩
  · split
    · exact ⟨none, rfl⟩
    · split
      · exact ⟨none, rfl⟩
      · rename_i data hdeposit
        obtain ⟨info, hinfo⟩ := L1BlockInfoTx.decodeCalldata_total data
        rw [bind_ok hinfo]
        exact ⟨_, rfl⟩

end BaseChain
