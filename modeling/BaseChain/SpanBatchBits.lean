/-
Span batch bit lists: big-endian bytes read as bits from the last byte on.  Bit
lists are compared through the number they denote, whose binary digits are the
bits.
-/
import BaseChain.Reader
import Mathlib.Data.List.Count
import Mathlib.Data.Nat.Bitwise

namespace BaseChain

open Function List
open List (range replicate)

inductive SpanDecodingError where
  | relativeTimestamp
  | l1OriginNumber
  | parentCheck
  | l1OriginCheck
  | blockCount
  | blockTxCounts
  | txNonces
  | invalidTransactionType
  | invalidTransactionData
  | invalidAuthData
deriving Repr, DecidableEq

inductive SpanBatchError where
  | tooBigSpanBatchSize
  | bitfieldTooLong
  | emptySpanBatch
  | l1OriginBeforeSafeHead
  | missingL1Origin
  | decoding (error : SpanDecodingError)
deriving Repr, DecidableEq

/-- How a computation can fail: with an error it returns, or by a panic, which
stands for an index out of bounds, a failed `expect` and an integer operation
that leaves its type. -/
inductive Fault where
  | error (error : SpanBatchError)
  | panic
deriving Repr, DecidableEq

def Fault.decoding (error : SpanDecodingError) : Fault := .error (.decoding error)

structure SpanBatchBits where
  bytes : Bytes
deriving Repr, DecidableEq

namespace SpanBatchBits

def empty : SpanBatchBits := ⟨[]⟩

variable (bitLength : Nat)

/-- The number of bytes that `bitLength` bits take. -/
def bufferLen : Nat := bitLength / 8 + if bitLength % 8 ≠ 0 then 1 else 0

/-- The bit length of the first non-zero byte and everything after it. -/
def bitLenBytes : Bytes → Nat
  | [] => 0
  | byte :: rest =>
    if byte ≠ 0 then byte.toNat.log2 + 1 + rest.length * 8
    else bitLenBytes rest

variable (bits : SpanBatchBits)

def bitLen : Nat := bitLenBytes bits.bytes

/-- A buffer that is too short is filled up with zeroes at its end. -/
def decode : Reader Fault SpanBatchBits := fun buf =>
  let bytes :=
    if buf.length < bufferLen bitLength then
      buf ++ replicate (bufferLen bitLength - buf.length) 0
    else
      buf.take (bufferLen bitLength)
  let bits : SpanBatchBits := ⟨bytes⟩
  if bits.bitLen > bitLength then .error (.error .bitfieldTooLong)
  else .ok (bits, buf.drop (bufferLen bitLength))

def encode (bits : SpanBatchBits) : Except Fault Bytes := if bits.bitLen > bitLength then
    .error (.error .bitfieldTooLong)
  else if bufferLen bitLength < bits.bytes.length then
    .error .panic
  else
    .ok (replicate (bufferLen bitLength - bits.bytes.length) 0 ++ bits.bytes)

def getBit (index : Nat) : Option Bool :=
  let byteIndex := index / 8
  if byteIndex < bits.bytes.length then
    (bits.bytes[bits.bytes.length - byteIndex - 1]?).map fun byte =>
      byte &&& (1 <<< UInt8.ofNat (index % 8)) != 0
  else
    none

def resizeFromRight (bytes : Bytes) (newSize : Nat) : Bytes :=
  if newSize < bytes.length then bytes.drop (bytes.length - newSize)
  else replicate (newSize - bytes.length) 0 ++ bytes

def setBit (index : Nat) (value : Bool) :
    SpanBatchBits :=
  let byteIndex := index / 8
  let bytes :=
    if bits.bytes.length ≤ byteIndex then
      resizeFromRight bits.bytes (byteIndex + 1)
    else bits.bytes
  let mask : UInt8 := 1 <<< UInt8.ofNat (index % 8)
  ⟨bytes.modify (bytes.length - byteIndex - 1) fun byte =>
    if value then byte ||| mask else byte &&& ~~~mask⟩

def countOnes (byte : UInt8) : Nat := (range 8).countP byte.toNat.testBit

/-- The number of set bits. -/
def count : Nat := (bits.bytes.map countOnes).sum

/-- The number the bits denote. -/
def value : Nat := beNat bits.bytes

theorem bufferLen_bounds : bitLength ≤ 8 * bufferLen bitLength ∧
      8 * bufferLen bitLength < bitLength + 8 := by
  unfold bufferLen
  split <;> omega

variable {index bitLength : Nat}

theorem bufferLen_succ : bufferLen (index + 1) = index / 8 + 1 := by
  have hbounds := bufferLen_bounds (index + 1)
  omega

theorem pow_eight (width : Nat) : 256 ^ width = 2 ^ (8 * width) := by rw [Nat.pow_mul]

theorem testBit_beNat_cons (byte : UInt8) (rest : Bytes) (index : Nat) :
    (beNat (byte :: rest)).testBit index =
      if index < 8 * rest.length then (beNat rest).testBit index
      else byte.toNat.testBit (index - 8 * rest.length) := by
  have hrest := beNat_lt rest
  rw [pow_eight] at hrest
  rw [beNat, pow_eight, mul_comm, Nat.testBit_two_pow_mul_add _ hrest]

variable {data : Bytes} {byte : UInt8}

/-- The bits of a byte list are the binary digits of its number. -/
theorem testBit_beNat (hbyte : data[data.length - index / 8 - 1]? = some byte)
    (hindex : index / 8 < data.length) :
    (beNat data).testBit index = byte.toNat.testBit (index % 8) := by
  induction data with
  | nil => cases hbyte
  | cons first rest ih =>
    rw [testBit_beNat_cons]
    rw [length_cons] at hbyte hindex
    by_cases hlow : index < 8 * rest.length
    · have hposition : rest.length + 1 - index / 8 - 1 = rest.length - index / 8 - 1 + 1 := by omega
      rw [hposition] at hbyte
      rw [if_pos hlow, ih hbyte (by omega)]
    · have hposition : rest.length + 1 - index / 8 - 1 = 0 := by omega
      rw [hposition] at hbyte
      rw [if_neg hlow, ← Option.some.inj hbyte]
      congr 1
      omega

theorem toNat_mask (hindex : index < 8) :
    ((1 : UInt8) <<< UInt8.ofNat index).toNat = 2 ^ index := by
  rw [UInt8.toNat_shiftLeft, UInt8.toNat_ofNat']
  have hsmall : index % 2 ^ 8 % 8 = index := by omega
  have hpow : 2 ^ index < 2 ^ 8 := Nat.pow_lt_pow_right (by decide) hindex
  rw [hsmall, Nat.shiftLeft_eq]
  simpa using Nat.mod_eq_of_lt hpow

theorem and_mask_ne_zero (byte : UInt8) (hindex : index < 8) :
    (byte &&& (1 <<< UInt8.ofNat index) != 0) = byte.toNat.testBit index := by
  have hand : (byte &&& (1 <<< UInt8.ofNat index)).toNat =
      (byte.toNat.testBit index).toNat * 2 ^ index := by
    rw [UInt8.toNat_and, toNat_mask hindex, Nat.and_two_pow]
  have hzero : byte &&& (1 <<< UInt8.ofNat index) = 0 ↔ byte.toNat.testBit index = false := by
    rw [← UInt8.toNat_inj, hand]
    simp
  cases hbit : byte.toNat.testBit index with
  | false | true => simpa [hbit] using hzero

theorem getBit_eq (index : Nat) : bits.getBit index =
      if index / 8 < bits.bytes.length then some (bits.value.testBit index)
      else none := by
  unfold getBit
  by_cases hindex : index / 8 < bits.bytes.length
  · have hposition : bits.bytes.length - index / 8 - 1 < bits.bytes.length := by omega
    have hbyte := getElem?_eq_getElem hposition
    simp only [hbyte, Option.map_some, and_mask_ne_zero _ (Nat.mod_lt index (by decide : 8 > 0))]
    rw [value, testBit_beNat hbyte hindex]
  · simp [if_neg hindex]

theorem bitLenBytes_le_iff (data : Bytes) (bound : Nat) :
    bitLenBytes data ≤ bound ↔ beNat data < 2 ^ bound := by
  induction data with
  | nil => simp [bitLenBytes, beNat]
  | cons byte rest ih =>
    by_cases hzero : byte = 0
    · simp [bitLenBytes, beNat, hzero, ih]
    · have hpos : byte.toNat ≠ 0 := by
        intro habsurd
        exact hzero (UInt8.toNat_inj.mp habsurd)
      have hlow := Nat.log2_self_le hpos
      have hhigh : byte.toNat < 2 ^ (byte.toNat.log2 + 1) := Nat.lt_log2_self
      have hrest := beNat_lt rest
      rw [bitLenBytes, if_pos hzero, beNat, pow_eight]
      rw [pow_eight] at hrest
      constructor
      · intro hle
        calc byte.toNat * 2 ^ (8 * rest.length) + beNat rest
            < (byte.toNat + 1) * 2 ^ (8 * rest.length) := by
              rw [Nat.add_mul]
              omega
          _ ≤ 2 ^ (byte.toNat.log2 + 1) * 2 ^ (8 * rest.length) := Nat.mul_le_mul_right _ hhigh
          _ = 2 ^ (byte.toNat.log2 + 1 + 8 * rest.length) := (Nat.pow_add _ _ _).symm
          _ ≤ 2 ^ bound := Nat.pow_le_pow_right (by decide) (by omega)
      · intro hlt
        by_contra hgt
        have hpow : 2 ^ bound ≤ byte.toNat * 2 ^ (8 * rest.length) := by
          calc 2 ^ bound ≤ 2 ^ (byte.toNat.log2 + 8 * rest.length) :=
                Nat.pow_le_pow_right (by decide) (by omega)
            _ = 2 ^ byte.toNat.log2 * 2 ^ (8 * rest.length) := Nat.pow_add _ _ _
            _ ≤ byte.toNat * 2 ^ (8 * rest.length) := Nat.mul_le_mul_right _ hlow
        omega

theorem bitLen_le_iff (bound : Nat) : bits.bitLen ≤ bound ↔ bits.value < 2 ^ bound :=
  bitLenBytes_le_iff bits.bytes bound

theorem testBit_of_length_le (hindex : data.length ≤ index / 8) :
    (beNat data).testBit index = false := by
  apply Nat.testBit_lt_two_pow
  calc beNat data < 256 ^ data.length := beNat_lt data
    _ = 2 ^ (8 * data.length) := pow_eight _
    _ ≤ 2 ^ index := Nat.pow_le_pow_right (by decide) (by omega)

theorem beNat_replicate_append (count : Nat) (data : Bytes) :
    beNat (replicate count 0 ++ data) = beNat data := by
  induction count with
  | zero => rfl
  | succ count ih =>
    rw [replicate_succ, cons_append, beNat, ih]
    simp

variable {bit : Nat}

theorem testBit_or_mask (byte : UInt8) (hbit : bit < 8) :
    (byte ||| (1 <<< UInt8.ofNat bit)).toNat.testBit index =
      (byte.toNat.testBit index || decide (bit = index)) := by
  rw [UInt8.toNat_or, toNat_mask hbit, Nat.testBit_or, Nat.testBit_two_pow]

theorem testBit_and_not_mask (byte : UInt8) (hbit : bit < 8) (hindex : index < 8) :
    (byte &&& ~~~(1 <<< UInt8.ofNat bit)).toNat.testBit index =
      (byte.toNat.testBit index && !decide (bit = index)) := by
  have hmask := toNat_mask hbit
  have hlt : 2 ^ bit < 2 ^ 8 := Nat.pow_lt_pow_right (by decide) hbit
  have hnot : (~~~((1 : UInt8) <<< UInt8.ofNat bit)).toNat = 2 ^ 8 - (2 ^ bit + 1) := by
    rw [UInt8.toNat_not]
    simp only [UInt8.size]
    omega
  rw [UInt8.toNat_and, hnot, Nat.testBit_and, Nat.testBit_two_pow_sub_succ hlt, Nat.testBit_two_pow]
  simp [hindex]

/-- Changing one byte changes only the bits of that byte. -/
theorem testBit_modify {position : Nat} (f : UInt8 → UInt8) (hposition : position < data.length)
    (hbyte : data[data.length - position - 1]? = some byte) (index : Nat) :
    (beNat (data.modify (data.length - position - 1) f)).testBit index =
      if index / 8 = position then (f byte).toNat.testBit (index % 8)
      else (beNat data).testBit index := by
  by_cases hindex : index / 8 < data.length
  · have hslot : data.length - index / 8 - 1 < data.length := by omega
    have hold := getElem?_eq_getElem hslot
    by_cases hsame : index / 8 = position
    · rw [if_pos hsame]
      apply testBit_beNat
      · rw [length_modify, hsame, getElem?_modify_eq, hbyte]
        rfl
      · rwa [length_modify]
    · rw [if_neg hsame, testBit_beNat hold hindex]
      apply testBit_beNat
      · rw [length_modify, getElem?_modify_ne _ _ (by omega), hold]
      · rwa [length_modify]
  · have hfar : data.length ≤ index / 8 := le_of_not_gt hindex
    rw [if_neg (by omega), testBit_of_length_le hfar]
    apply testBit_of_length_le
    rwa [length_modify]

theorem length_setBit (index : Nat) (value : Bool) :
    (bits.setBit index value).bytes.length = max bits.bytes.length (index / 8 + 1) := by
  unfold setBit
  by_cases hgrow : bits.bytes.length ≤ index / 8
  · simp only [if_pos hgrow, length_modify, resizeFromRight]
    rw [if_neg (by omega), length_append, length_replicate]
    omega
  · simp only [if_neg hgrow, length_modify]
    omega

theorem testBit_setBit (index : Nat) (value : Bool) (other : Nat) :
    (bits.setBit index value).value.testBit other =
      if other = index then value else bits.value.testBit other := by
  -- The list after growing denotes the same number and has the byte to change.
  obtain ⟨bytes, hbytes, hvalue, hlength⟩ : ∃ bytes, bytes = (if bits.bytes.length ≤ index / 8 then
        resizeFromRight bits.bytes (index / 8 + 1) else bits.bytes) ∧
      beNat bytes = beNat bits.bytes ∧ index / 8 < bytes.length := by
    refine ⟨_, rfl, ?_⟩
    by_cases hgrow : bits.bytes.length ≤ index / 8
    · rw [if_pos hgrow, resizeFromRight, if_neg (by omega)]
      constructor
      · exact beNat_replicate_append _ _
      · rw [length_append, length_replicate]
        omega
    · rw [if_neg hgrow]
      exact ⟨rfl, by omega⟩
  have hslot : bytes.length - index / 8 - 1 < bytes.length := by omega
  have hbyte := getElem?_eq_getElem hslot
  have hbit : index % 8 < 8 := Nat.mod_lt _ (by decide)
  have hother : other % 8 < 8 := Nat.mod_lt _ (by decide)
  rw [SpanBatchBits.value, SpanBatchBits.value, setBit]
  simp only [← hbytes]
  rw [testBit_modify _ hlength hbyte]
  by_cases hsame : other / 8 = index / 8
  · have hold : (beNat bits.bytes).testBit other =
        bytes[bytes.length - index / 8 - 1].toNat.testBit (other % 8) := by
      rw [← hvalue, testBit_beNat (by rw [hsame]; exact hbyte) (by omega)]
    have hiff : index % 8 = other % 8 ↔ other = index := by omega
    rw [if_pos hsame, hold]
    cases value with
    | true =>
      simp only [if_true, testBit_or_mask _ hbit, hiff]
      by_cases heq : other = index
      · simp [heq]
      · simp [heq]
    | false =>
      simp only [Bool.false_eq_true, if_false, testBit_and_not_mask _ hbit hother, hiff]
      by_cases heq : other = index
      · simp [heq]
      · simp [heq]
  · have hne : other ≠ index := by
      rintro rfl
      exact hsame rfl
    rw [if_neg hsame, if_neg hne, hvalue]

theorem sum_countOnes (data : Bytes) : (data.map countOnes).sum =
      (range (8 * data.length)).countP (beNat data).testBit := by
  induction data with
  | nil => rfl
  | cons byte rest ih =>
    have hlow : (range (8 * rest.length)).countP (beNat (byte :: rest)).testBit =
        (range (8 * rest.length)).countP (beNat rest).testBit := by
      apply countP_congr
      intro index hindex
      rw [testBit_beNat_cons, if_pos (mem_range.mp hindex)]
    have hhigh : ((range 8).map (8 * rest.length + ·)).countP
        (beNat (byte :: rest)).testBit = countOnes byte := by
      rw [countP_map]
      apply countP_congr
      intro index hindex
      simp only [comp_apply, testBit_beNat_cons]
      rw [if_neg (by omega), Nat.add_sub_cancel_left]
    rw [map_cons, sum_cons, ih, length_cons, Nat.mul_add, range_add, countP_append, hlow, hhigh,
      add_comm]

variable {bits : SpanBatchBits}

/-- A bit list of the right size counts the bits below its length. -/
theorem count_eq (hlength : bits.bytes.length = bufferLen bitLength)
    (hbits : bits.bitLen ≤ bitLength) :
    bits.count = (range bitLength).countP bits.value.testBit := by
  obtain ⟨extra, hextra⟩ : ∃ extra, 8 * bits.bytes.length = bitLength + extra :=
    ⟨8 * bits.bytes.length - bitLength, by
      have hbounds := bufferLen_bounds bitLength
      omega⟩
  have hzero : ((range extra).map (bitLength + ·)).countP (beNat bits.bytes).testBit = 0 := by
    rw [countP_eq_zero]
    intro index hindex
    obtain ⟨offset, -, rfl⟩ := mem_map.mp hindex
    have hvalue := (bitLen_le_iff bits bitLength).mp hbits
    rw [Nat.testBit_lt_two_pow]
    · simp
    · exact lt_of_lt_of_le hvalue (Nat.pow_le_pow_right (by decide) (Nat.le_add_right _ _))
  rw [count, sum_countOnes, hextra, range_add, countP_append, hzero, value, add_zero]

/-- A bit list as wide as its encoding, with no bit beyond its length. -/
structure Fits (bits : SpanBatchBits) (bitLength : Nat) : Prop where
  length_eq : bits.bytes.length = bufferLen bitLength
  bitLen_le : bits.bitLen ≤ bitLength

section

variable (hfits : bits.Fits bitLength)
include hfits

theorem Fits.count_le : bits.count ≤ bitLength := by
  rw [count_eq hfits.length_eq hfits.bitLen_le]
  exact (countP_le_length).trans_eq (length_range)

theorem Fits.getBit (hindex : index < bitLength) :
    bits.getBit index = some (bits.value.testBit index) := by
  rw [getBit_eq, if_pos]
  rw [hfits.length_eq]
  have hbounds := bufferLen_bounds bitLength
  omega

theorem Fits.encode : SpanBatchBits.encode bitLength bits = .ok bits.bytes := by
  rw [SpanBatchBits.encode, if_neg (not_lt.mpr hfits.bitLen_le),
    hfits.length_eq, if_neg (lt_irrefl _), Nat.sub_self]
  rfl

theorem Fits.reads : Reader.Reads (decode bitLength) bits.bytes bits := by
  intro rest
  have hroom : ¬ (bits.bytes ++ rest).length < bufferLen bitLength := by
    rw [length_append, hfits.length_eq]
    omega
  have htake : (bits.bytes ++ rest).take (bufferLen bitLength) = bits.bytes :=
    take_left' hfits.length_eq
  have hdrop : (bits.bytes ++ rest).drop (bufferLen bitLength) = rest := drop_left' hfits.length_eq
  simp only [decode, if_neg hroom, htake, hdrop]
  rw [if_neg (not_lt.mpr hfits.bitLen_le)]

end

/-- What the decoder accepts: a bit list with what follows it, or a buffer that
ends too early and is filled up. -/
theorem decode_eq_ok {buf rest : Bytes} (hdecode : decode bitLength buf = .ok (bits, rest)) :
    bits.Fits bitLength ∧ (buf = bits.bytes ++ rest ∨ rest = [] ∧ ∃ missing, 0 < missing ∧
          bits.bytes = buf ++ replicate missing 0) := by
  unfold decode at hdecode
  by_cases hshort : buf.length < bufferLen bitLength
  · simp only [if_pos hshort] at hdecode
    split at hdecode
    · cases hdecode
    rename_i hbits
    cases hdecode
    refine ⟨⟨?_, le_of_not_gt hbits⟩, .inr ⟨?_, _, ?_, rfl⟩⟩
    · rw [length_append, length_replicate]
      omega
    · exact drop_of_length_le (le_of_lt hshort)
    · omega
  · simp only [if_neg hshort] at hdecode
    split at hdecode
    · cases hdecode
    rename_i hbits
    cases hdecode
    refine ⟨⟨?_, le_of_not_gt hbits⟩, .inl ?_⟩
    · rw [length_take]
      omega
    · exact (take_append_drop _ _).symm

theorem empty_fits : empty.Fits 0 := ⟨rfl, Nat.le_refl 0⟩

/-- Setting the bits one after the other keeps a list that fits. -/
theorem Fits.setBit (hfits : bits.Fits bitLength) (value : Bool) :
    (bits.setBit bitLength value).Fits (bitLength + 1) := by
  constructor
  · have hlow := bufferLen_bounds bitLength
    rw [length_setBit, hfits.length_eq, bufferLen_succ]
    omega
  · rw [bitLen_le_iff]
    apply Nat.lt_pow_two_of_testBit
    intro index hindex
    have hvalue := (bitLen_le_iff bits bitLength).mp hfits.bitLen_le
    rw [testBit_setBit, if_neg (by omega)]
    apply Nat.testBit_lt_two_pow
    exact lt_of_lt_of_le hvalue (Nat.pow_le_pow_right (by decide) (by omega))

end SpanBatchBits

end BaseChain
