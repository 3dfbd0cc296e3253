/-
One round of the blob wire format.  A round spreads 127 payload bytes over
four 32-byte field elements whose two top bits must stay clear: 31 bytes go
into each element, and the three bytes left over are cut into 6-bit chunks
for the four high bytes.  A blob is 1024 rounds, so everything the encoder and
the decoders do is a fact about one round repeated.
-/
import BaseChain.ByteString
import Mathlib.Tactic.IntervalCases

namespace BaseChain

open List FixedBytes

/-- The 127 payload bytes of a round, with the three spread bytes named. -/
@[ext] structure Round where
  p0 : FixedBytes 31
  p1 : FixedBytes 31
  p2 : FixedBytes 31
  p3 : FixedBytes 31
  x : UInt8
  y : UInt8
  z : UInt8

/-- The four field elements of a round, high bytes unread. -/
@[ext] structure WireRound where
  p0 : FixedBytes 31
  p1 : FixedBytes 31
  p2 : FixedBytes 31
  p3 : FixedBytes 31
  h0 : UInt8
  h1 : UInt8
  h2 : UInt8
  h3 : UInt8

namespace Round

variable (round : Round)

def plain : Bytes := round.p0.val ++ round.x :: (round.p1.val ++ round.y ::
    (round.p2.val ++ round.z :: round.p3.val))

@[simp] theorem plain_length : round.plain.length = 127 := by simp [plain]

/-- The field elements that carry a round. -/
def pack : WireRound where
  p0 := round.p0
  p1 := round.p1
  p2 := round.p2
  p3 := round.p3
  h0 := round.x &&& (0x3F : UInt8)
  h1 := ((round.x >>> 6) &&& (0x03 : UInt8)) <<< 4 ||| (round.y &&& (0x0F : UInt8))
  h2 := round.z &&& (0x3F : UInt8)
  h3 := ((round.y >>> 4) &&& (0x0F : UInt8)) ||| (((round.z >>> 6) &&& (0x03 : UInt8)) <<< 4)

end Round

namespace WireRound

variable (wire : WireRound)

def bytes : Bytes := wire.h0 :: (wire.p0.val ++ wire.h1 :: (wire.p1.val ++ wire.h2 ::
    (wire.p2.val ++ wire.h3 :: wire.p3.val)))

@[simp] theorem bytes_length : wire.bytes.length = 128 := by simp [bytes]

/-- The payload a round of field elements carries. -/
def unpack : Round where
  p0 := wire.p0
  p1 := wire.p1
  p2 := wire.p2
  p3 := wire.p3
  x := (wire.h0 &&& (0x3F : UInt8)) ||| ((wire.h1 &&& (0x30 : UInt8)) <<< 2)
  y := (wire.h1 &&& (0x0F : UInt8)) ||| ((wire.h3 &&& (0x0F : UInt8)) <<< 4)
  z := (wire.h2 &&& (0x3F : UInt8)) ||| ((wire.h3 &&& (0x30 : UInt8)) <<< 2)

/-- The two top bits of a high byte are clear. -/
def TopClear (high : UInt8) : Prop := high &&& 0xC0 = 0

instance (high : UInt8) : Decidable (TopClear high) :=
  inferInstanceAs (Decidable (high &&& 0xC0 = 0))

/-- Every field element of the round is below the top bits. -/
def Clean : Prop := TopClear wire.h0 ∧ TopClear wire.h1 ∧ TopClear wire.h2 ∧ TopClear wire.h3

instance (wire : WireRound) : Decidable wire.Clean :=
  inferInstanceAs (Decidable (TopClear wire.h0 ∧ TopClear wire.h1 ∧
    TopClear wire.h2 ∧ TopClear wire.h3))

/-- The first high byte with its top bits dropped.  The decoders read the very
first high byte of a blob only through this mask. -/
def maskFirst : WireRound := { wire with h0 := wire.h0 &&& (0x3F : UInt8) }

end WireRound

/-- Two bytes are equal when they agree bit by bit. -/
theorem byte_ext {left right : UInt8} (hbits : ∀ index (hindex : index < 8),
      left.toBitVec[index] = right.toBitVec[index]) : left = right :=
  UInt8.toBitVec_inj.mp (BitVec.eq_of_getElem_eq hbits)

theorem WireRound.TopClear.bits {high : UInt8} (hclear : TopClear high) :
    high.toBitVec[6] = false ∧ high.toBitVec[7] = false := by
  have hbits := congrArg UInt8.toBitVec hclear
  have hsix := congrArg (fun value : BitVec 8 => value[6]) hbits
  have hseven := congrArg (fun value : BitVec 8 => value[7]) hbits
  simp at hsix hseven
  exact ⟨hsix, hseven⟩

namespace Round

@[simp] theorem unpack_pack (round : Round) : round.pack.unpack = round := by
  refine Round.ext rfl rfl rfl rfl ?_ ?_ ?_ <;>
  · apply byte_ext
    intro index hindex
    simp only [pack, WireRound.unpack]
    interval_cases index <;> simp

theorem pack_clean (round : Round) : round.pack.Clean := by
  refine ⟨?_, ?_, ?_, ?_⟩ <;>
  · apply byte_ext
    intro index hindex
    simp only [pack]
    interval_cases index <;> simp

end Round

namespace WireRound

variable {wire : WireRound}

/-- Packing undoes unpacking on clean rounds. -/
theorem pack_unpack (hclean : wire.Clean) : wire.unpack.pack = wire := by
  obtain ⟨hclear0, hclear1, hclear2, hclear3⟩ := hclean
  have hbits0 := hclear0.bits
  have hbits1 := hclear1.bits
  have hbits2 := hclear2.bits
  have hbits3 := hclear3.bits
  refine WireRound.ext rfl rfl rfl rfl ?_ ?_ ?_ ?_ <;>
  · apply byte_ext
    intro index hindex
    simp only [Round.pack, unpack]
    interval_cases index <;> simp_all

theorem maskFirst_clean (wire : WireRound) : wire.maskFirst.Clean ↔
      TopClear wire.h1 ∧ TopClear wire.h2 ∧ TopClear wire.h3 := by
  have hfirst : TopClear (wire.h0 &&& (0x3F : UInt8)) := by
    apply byte_ext
    intro index hindex
    interval_cases index <;> simp
  constructor
  · rintro ⟨-, hrest⟩
    exact hrest
  · intro hrest
    exact ⟨hfirst, hrest⟩

theorem maskFirst_eq_self (hclear : TopClear wire.h0) : wire.maskFirst = wire := by
  have hbits := hclear.bits
  refine WireRound.ext rfl rfl rfl rfl ?_ rfl rfl rfl
  apply byte_ext
  intro index hindex
  simp only [maskFirst]
  interval_cases index <;> simp_all

end WireRound

variable {data : Bytes}

/-- Any long enough byte string starts with 31 bytes and one more. -/
theorem exists_element (hlength : 32 ≤ data.length) :
    ∃ (payload : FixedBytes 31) (byte : UInt8) (back : Bytes),
      data = payload.val ++ byte :: back ∧ back.length = data.length - 32 := by
  obtain ⟨payload, rest, rfl⟩ := exists_append 31 (show 31 ≤ data.length by omega)
  simp only [length_append, length_val] at hlength
  obtain ⟨byte, back, rfl⟩ := exists_cons (show 0 < rest.length by omega)
  exact ⟨payload, byte, back, rfl, by simp; omega⟩

/-- A round can be cut from the front of any long enough payload. -/
theorem Round.exists_plain_append (hlength : 127 ≤ data.length) :
    ∃ (round : Round) (back : Bytes), data = round.plain ++ back := by
  obtain ⟨p0, x, data1, rfl, hlength1⟩ := exists_element (show 32 ≤ data.length by omega)
  obtain ⟨p1, y, data2, rfl, hlength2⟩ := exists_element (show 32 ≤ data1.length by omega)
  obtain ⟨p2, z, data3, rfl, hlength3⟩ := exists_element (show 32 ≤ data2.length by omega)
  obtain ⟨p3, back, rfl⟩ := exists_append 31 (show 31 ≤ data3.length by omega)
  exact ⟨⟨p0, p1, p2, p3, x, y, z⟩, back, by simp [plain]⟩

/-- Four field elements are one byte more than a round. -/
theorem WireRound.exists_bytes_append (hlength : 128 ≤ data.length) :
    ∃ (wire : WireRound) (back : Bytes), data = wire.bytes ++ back := by
  obtain ⟨h0, rest, rfl⟩ := exists_cons (show 0 < data.length by omega)
  obtain ⟨⟨p0, p1, p2, p3, h1, h2, h3⟩, back, rfl⟩ := Round.exists_plain_append
    (Nat.le_of_succ_le_succ hlength)
  exact ⟨⟨p0, p1, p2, p3, h0, h1, h2, h3⟩, back, rfl⟩

section Spelled

variable {ρ : Type} {spell : ρ → Bytes} {size : Nat}
  (hsize : ∀ item, (spell item).length = size)
include hsize

theorem length_spelled (items : List ρ) :
    (items.flatMap spell).length = size * items.length := by
  simp [length_flatMap, hsize, Nat.mul_comm]

/-- A byte string of whole items is cut from the front. -/
theorem exists_spelled (hcut : ∀ {data : Bytes}, size ≤ data.length →
      ∃ (item : ρ) (back : Bytes), data = spell item ++ back)
    (count : Nat) (hlength : data.length = size * count) :
    ∃ items : List ρ, items.length = count ∧ data = items.flatMap spell := by
  induction count generalizing data with
  | zero => exact ⟨[], rfl, length_eq_zero_iff.mp hlength⟩
  | succ count ih =>
    obtain ⟨item, back, rfl⟩ := hcut (hlength ▸ Nat.le_mul_of_pos_right size count.succ_pos)
    rw [length_append, hsize, Nat.mul_succ, Nat.add_comm] at hlength
    obtain ⟨items, hcount, rfl⟩ := ih (Nat.add_right_cancel hlength)
    exact ⟨item :: items, by simp [hcount], by simp⟩

end Spelled

variable (count : Nat)

variable (rounds : List Round)

@[simp] theorem Round.flatMap_plain_length :
    (rounds.flatMap plain).length = 127 * rounds.length :=
  length_spelled plain_length rounds

@[simp] theorem WireRound.flatMap_bytes_length (wires : List WireRound) :
    (wires.flatMap bytes).length = 128 * wires.length :=
  length_spelled bytes_length wires

/-- The bytes of a run of packed rounds. -/
def packRounds : Bytes := rounds.flatMap fun round => round.pack.bytes

@[simp] theorem packRounds_length : (packRounds rounds).length = 128 * rounds.length :=
  length_spelled (fun round => round.pack.bytes_length) rounds

/-- The round of zero bytes. -/
def Round.zero : Round :=
  { p0 := default, p1 := default, p2 := default, p3 := default,
    x := 0, y := 0, z := 0 }

theorem Round.zero_plain : Round.zero.plain = replicate 127 0 := by decide

theorem Round.zero_pack_bytes : Round.zero.pack.bytes = replicate 128 0 := by decide

theorem FixedBytes.eq_default {width : Nat} {data : FixedBytes width}
    (hzero : ∀ byte ∈ data.val, byte = 0) : data = default :=
  ext (eq_replicate_iff.mpr ⟨data.property, hzero⟩)

theorem Round.eq_zero {round : Round}
    (hzero : ∀ byte ∈ round.plain, byte = 0) : round = Round.zero := by
  refine Round.ext ?_ ?_ ?_ ?_ ?_ ?_ ?_
  iterate 4
    · apply eq_default
      intro byte hbyte
      exact hzero byte (by simp [plain, hbyte])
  iterate 3
    · exact hzero _ (by simp [plain])

theorem WireRound.eq_zero {wire : WireRound}
    (hzero : ∀ byte ∈ wire.bytes, byte = 0) : wire = Round.zero.pack := by
  refine WireRound.ext ?_ ?_ ?_ ?_ ?_ ?_ ?_ ?_
  iterate 4
    · apply eq_default
      intro byte hbyte
      exact hzero byte (by simp [bytes, hbyte])
  iterate 4
    · exact hzero _ (by simp [bytes])

/-- Items that spell zeros are all the one that does. -/
theorem spelled_zero {ρ : Type} {spell : ρ → Bytes} {zero : ρ}
    (hitem : ∀ {item}, (∀ byte ∈ spell item, byte = 0) → item = zero) {items : List ρ}
    (hzero : ∀ byte ∈ items.flatMap spell, byte = 0) : items = replicate items.length zero := by
  refine eq_replicate_iff.mpr ⟨rfl, fun item hmem => hitem ?_⟩
  intro byte hbyte
  exact hzero byte (mem_flatMap.mpr ⟨item, hmem, hbyte⟩)

theorem packRounds_replicate_zero : packRounds (replicate count Round.zero) =
      replicate (128 * count) 0 := by
  refine eq_replicate_iff.mpr ⟨by simp, fun byte hbyte => ?_⟩
  obtain ⟨round, hround, hbyte⟩ := mem_flatMap.mp hbyte
  rw [eq_of_mem_replicate hround, Round.zero_pack_bytes] at hbyte
  exact eq_of_mem_replicate hbyte

end BaseChain
