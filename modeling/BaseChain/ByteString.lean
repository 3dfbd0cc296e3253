/-
Byte strings, half-open slices and fixed-width big-endian integers.  The
codecs of the development read integers out of slices of exact width, so the
two round trips below, with the width made explicit, are all they need.
-/
import Mathlib.Data.List.Basic
import Mathlib.Tactic.Ring

namespace BaseChain

open List

abbrev Bytes := List UInt8

/-- The half-open slice `data[low..high]`. -/
def slice (data : Bytes) (low high : Nat) : Bytes := (data.take high).drop low

@[simp] theorem slice_length (data : Bytes) (low high : Nat) :
    (slice data low high).length = min high data.length - low := by
  simp [slice]

variable {low high : Nat}

theorem slice_append_right (front rest : Bytes) (hlow : front.length ≤ low) :
    slice (front ++ rest) low high = slice rest (low - front.length) (high - front.length) := by
  simp only [slice, take_append, drop_append]
  rw [drop_of_length_le (by simp; omega)]
  by_cases hhigh : high ≤ front.length
  · simp [Nat.sub_eq_zero_of_le hhigh]
  · simp [Nat.min_eq_right (Nat.le_of_not_le hhigh)]

theorem slice_cons_succ (byte : UInt8) (rest : Bytes) (low high : Nat) :
    slice (byte :: rest) (low + 1) (high + 1) = slice rest low high := by
  simp [slice]

theorem slice_zero_append (front rest : Bytes) (hhigh : high = front.length) :
    slice (front ++ rest) 0 high = front := by
  simp [slice, hhigh]

/-- One field of a concatenation, read back by position. -/
theorem slice_flatten (before : List Bytes) (field : Bytes) (after : List Bytes)
    (hlow : before.flatten.length = low) (hhigh : low + field.length = high) :
    slice (before ++ field :: after).flatten low high = field := by
  subst hlow hhigh
  rw [flatten_append, slice_append_right _ _ le_rfl, Nat.sub_self, Nat.add_sub_cancel_left]
  exact slice_zero_append _ _ rfl

theorem slice_append_drop (data : Bytes) (hle : low ≤ high) :
    slice data low high ++ data.drop high = data.drop low := by
  have hdrop : data.drop high = (data.drop low).drop (high - low) := by
    rw [drop_drop, Nat.add_sub_cancel' hle]
  rw [slice, drop_take, hdrop, take_append_drop]

/-- Overwriting `out[pos..]` with the bytes of a source slice. -/
def copyInto (out : Bytes) (pos : Nat) (source : Bytes) : Bytes :=
  out.take pos ++ source ++ out.drop (pos + source.length)

theorem copyInto_append_right (front rest source : Bytes) {pos : Nat} (hpos : front.length ≤ pos) :
    copyInto (front ++ rest) pos source = front ++ copyInto rest (pos - front.length) source := by
  simp only [copyInto, take_append, drop_append, append_assoc]
  rw [take_of_length_le hpos, drop_of_length_le
    (show front.length ≤ pos + source.length by omega), Nat.sub_add_comm hpos]
  rfl

theorem copyInto_cons_succ (byte : UInt8) (rest source : Bytes) (pos : Nat) :
    copyInto (byte :: rest) (pos + 1) source = byte :: copyInto rest pos source := by
  simp [copyInto, add_right_comm]

theorem copyInto_zero_append {front source : Bytes} (rest : Bytes)
    (hlength : front.length = source.length) :
    copyInto (front ++ rest) 0 source = source ++ rest := by
  simp [copyInto, ← hlength]

/-- A byte array whose length is part of its type. -/
def FixedBytes (width : Nat) : Type := { data : Bytes // data.length = width }

namespace FixedBytes

variable {width : Nat}

instance : DecidableEq (FixedBytes width) :=
  inferInstanceAs (DecidableEq { data : Bytes // data.length = width })

instance : Inhabited (FixedBytes width) := ⟨⟨List.replicate width 0, List.length_replicate⟩⟩

@[simp] theorem length_val (data : FixedBytes width) : data.val.length = width := data.property

@[ext] theorem ext {left right : FixedBytes width} (hval : left.val = right.val) : left = right :=
  Subtype.ext hval

/-- The conversion from a slice; it fails when the width is wrong. -/
def ofBytes? (width : Nat) (data : Bytes) : Option (FixedBytes width) :=
  if hwidth : data.length = width then some ⟨data, hwidth⟩ else none

theorem ofBytes?_eq_some {data : Bytes} {fixed : FixedBytes width} :
    ofBytes? width data = some fixed ↔ data = fixed.val := by
  unfold ofBytes?
  split
  · constructor
    · rintro ⟨⟩
      rfl
    · rintro rfl
      rfl
  · rename_i hwidth
    constructor
    · rintro ⟨⟩
    · rintro rfl
      exact absurd fixed.property hwidth

@[simp] theorem ofBytes?_val (fixed : FixedBytes width) : ofBytes? width fixed.val = some fixed :=
  ofBytes?_eq_some.mpr rfl

theorem ofBytes?_of_length {data : Bytes} (hwidth : data.length = width) :
    ofBytes? width data = some ⟨data, hwidth⟩ :=
  ofBytes?_eq_some.mpr rfl

theorem exists_append (width : Nat) (hwidth : width ≤ data.length) :
    ∃ (front : FixedBytes width) (back : Bytes), data = front.val ++ back :=
  ⟨⟨data.take width, by simpa using hwidth⟩, data.drop width, (take_append_drop width data).symm⟩

end FixedBytes

variable {data : Bytes}

theorem exists_cons (hpos : 0 < data.length) : ∃ byte back, data = byte :: back :=
  exists_cons_of_length_pos hpos

/-- The low `width` bytes of a number, most significant byte first. -/
def beBytes : Nat → Nat → Bytes
  | 0, _ => []
  | width + 1, value =>
    UInt8.ofNat (value / 256 ^ width) :: beBytes width value

/-- The number a big-endian byte string denotes. -/
def beNat : Bytes → Nat
  | [] => 0
  | byte :: rest => byte.toNat * 256 ^ rest.length + beNat rest

@[simp] theorem beBytes_length (width value : Nat) : (beBytes width value).length = width := by
  induction width with
  | zero => rfl
  | succ width ih => simp [beBytes, ih]

theorem beBytes_address (value : Nat) : (beBytes 20 value).length = 20 := beBytes_length 20 value

theorem beBytes_address_one : (beBytes 20 1).length = 20 := beBytes_length 20 1

theorem beBytes_address_two : (beBytes 20 2).length = 20 := beBytes_length 20 2

theorem beNat_lt (data : Bytes) : beNat data < 256 ^ data.length := by
  induction data with
  | nil => simp [beNat]
  | cons byte rest ih =>
    have hbyte : byte.toNat + 1 ≤ 256 := byte.toNat_lt
    calc beNat (byte :: rest)
        < (byte.toNat + 1) * 256 ^ rest.length := by
          simp only [beNat]
          rw [Nat.add_mul]
          omega
      _ ≤ 256 * 256 ^ rest.length := Nat.mul_le_mul_right _ hbyte
      _ = 256 ^ (byte :: rest).length := by rw [length_cons, pow_succ, mul_comm]

/-- Reading a written integer returns it modulo the width written. -/
@[simp] theorem beNat_beBytes (width value : Nat) :
    beNat (beBytes width value) = value % 256 ^ width := by
  induction width with
  | zero => simp [beBytes, beNat, Nat.mod_one]
  | succ width ih =>
    simp only [beBytes, beNat, beBytes_length, ih]
    rw [pow_succ, Nat.mod_mul, UInt8.toNat_ofNat']
    ring

variable {width : Nat}

theorem beNat_beBytes_of_lt {value : Nat} (hvalue : value < 256 ^ width) :
    beNat (beBytes width value) = value := by
  rw [beNat_beBytes, Nat.mod_eq_of_lt hvalue]

theorem beBytes_add_mul (width value high : Nat) :
    beBytes width (high * 256 ^ width + value) = beBytes width value := by
  induction width generalizing high with
  | zero => rfl
  | succ width ih =>
    have hsplit : high * 256 ^ (width + 1) + value = high * 256 * 256 ^ width + value := by ring
    simp only [beBytes]
    rw [hsplit, ih (high * 256)]
    congr 1
    apply UInt8.toNat_inj.mp
    rw [add_comm, Nat.add_mul_div_right _ _ (Nat.pow_pos (by decide))]
    simp only [UInt8.toNat_ofNat']
    omega

/-- Writing a read integer back at the width it was read restores its bytes. -/
@[simp] theorem beBytes_beNat (data : Bytes) : beBytes data.length (beNat data) = data := by
  induction data with
  | nil => rfl
  | cons byte rest ih =>
    have hrest := beNat_lt rest
    simp only [length_cons, beBytes, beNat]
    rw [beBytes_add_mul, ih, add_comm, Nat.add_mul_div_right _ _
      (Nat.pow_pos (by decide)), Nat.div_eq_of_lt hrest]
    simp

theorem beBytes_beNat_of_length (hwidth : data.length = width) :
    beBytes width (beNat data) = data := by
  subst hwidth
  exact beBytes_beNat data

/-- An unsigned machine word of `width` bytes. -/
abbrev Word (width : Nat) := Fin (256 ^ width)

instance Word.neZero (width : Nat) : NeZero (256 ^ width) := inferInstance

/-- The word with a given big-endian form; bytes beyond the width are lost. -/
def Word.ofBytes (width : Nat) (data : Bytes) : Word width := Fin.ofNat (256 ^ width) (beNat data)

def Word.toBytes {width : Nat} (word : Word width) : Bytes := beBytes width word.val

@[simp] theorem Word.length_toBytes (word : Word width) : word.toBytes.length = width :=
  beBytes_length _ _

@[simp] theorem Word.ofBytes_toBytes (word : Word width) :
    Word.ofBytes width word.toBytes = word := by
  simp [Word.ofBytes, Word.toBytes, Nat.mod_eq_of_lt word.isLt]

theorem Word.toBytes_ofBytes (hwidth : data.length = width) :
    (Word.ofBytes width data).toBytes = data := by
  subst hwidth
  simp [Word.ofBytes, Word.toBytes, Nat.mod_eq_of_lt (beNat_lt data)]

end BaseChain
