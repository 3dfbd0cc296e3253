/-
Self-delimiting encodings of 64-bit words.  What a codec needs of one is stated
as two laws; base-128 digits, lowest first, satisfy both.
-/
import BaseChain.Reader

namespace BaseChain

structure Varint where
  encode : Word 8 → Bytes
  decode : Bytes → Option (Word 8 × Bytes)

namespace Varint

/-- An encoded word is read back, and what follows it is left. -/
def Inverse (varint : Varint) : Prop := ∀ value rest, varint.decode (varint.encode value ++ rest) =
    some (value, rest)

/-- The decoder rejects everything that is not the encoding of a word. -/
def Minimal (varint : Varint) : Prop := ∀ buf value rest, varint.decode buf = some (value, rest) →
    buf = varint.encode value ++ rest

/-- The decoder as a reader that fails with a given error. -/
def read {ε : Type} (varint : Varint) (error : ε) : Reader ε (Word 8) := fun buf =>
    match varint.decode buf with
    | none => .error error
    | some pair => .ok pair

variable {ε : Type} {varint : Varint}

theorem Inverse.reads (hinverse : varint.Inverse) (error : ε) (value : Word 8) :
    Reader.Reads (varint.read error) (varint.encode value) value := by
  intro rest
  rw [read, hinverse]

theorem Minimal.exact (hminimal : varint.Minimal) (error : ε) :
    Reader.Exact (varint.read error) varint.encode := by
  intro buf value rest hread
  unfold read at hread
  split at hread
  · cases hread
  rename_i pair hdecode
  cases hread
  exact hminimal _ _ _ hdecode

/-- Base-128 digits, lowest first; every digit but the last has its high bit
set.  The fuel bounds the number of digits after the first. -/
def lebBytes : Nat → Nat → Bytes
  | 0, value => [UInt8.ofNat value]
  | fuel + 1, value =>
    if value < 128 then [UInt8.ofNat value]
    else UInt8.ofNat (value % 128 + 128) :: lebBytes fuel (value / 128)

/-- A last digit of zero after other digits is refused. -/
def lebRead : Nat → Bytes → Option (Nat × Bytes)
  | _, [] => none
  | 0, byte :: rest =>
    if byte.toNat < 128 then some (byte.toNat, rest) else none
  | fuel + 1, byte :: rest =>
    if byte.toNat < 128 then some (byte.toNat, rest)
    else
      match lebRead fuel rest with
      | none => none
      | some (high, rest) =>
        if high = 0 then none
        else some (byte.toNat - 128 + 128 * high, rest)

def leb128 : Varint where
  encode value := lebBytes 9 value.val
  decode buf := match lebRead 9 buf with
    | none => none
    | some (value, rest) =>
      if hvalue : value < 256 ^ 8 then some (⟨value, hvalue⟩, rest) else none

variable {fuel value : Nat}

theorem lebRead_lebBytes (rest : Bytes) (hvalue : value < 128 ^ (fuel + 1)) :
    lebRead fuel (lebBytes fuel value ++ rest) = some (value, rest) := by
  induction fuel generalizing value with
  | zero =>
    have hbyte : (UInt8.ofNat value).toNat = value := by
      rw [UInt8.toNat_ofNat', Nat.mod_eq_of_lt (by omega)]
    simp only [lebBytes, List.singleton_append, lebRead, hbyte]
    rw [if_pos (by omega)]
  | succ fuel ih =>
    by_cases hsmall : value < 128
    · have hbyte : (UInt8.ofNat value).toNat = value := by
        rw [UInt8.toNat_ofNat', Nat.mod_eq_of_lt (by omega)]
      simp [lebBytes, if_pos hsmall, lebRead, hbyte]
    · have hbyte : (UInt8.ofNat (value % 128 + 128)).toNat = value % 128 + 128 := by
        rw [UInt8.toNat_ofNat', Nat.mod_eq_of_lt (by omega)]
      have hhigh : value / 128 < 128 ^ (fuel + 1) := by
        rw [Nat.div_lt_iff_lt_mul (by decide)]
        rwa [Nat.pow_succ] at hvalue
      simp only [lebBytes, if_neg hsmall, List.cons_append, lebRead, ih hhigh]
      rw [if_neg (by omega), if_neg (by omega)]
      congr 2
      omega

theorem lebBytes_of_lebRead {buf rest : Bytes} (hread : lebRead fuel buf = some (value, rest)) :
    buf = lebBytes fuel value ++ rest := by
  induction fuel generalizing buf value with
  | zero =>
    cases buf with
    | nil => cases hread
    | cons =>
      simp only [lebRead] at hread
      split at hread
      · cases hread
        simp [lebBytes]
      · cases hread
  | succ fuel ih =>
    cases buf with
    | nil => cases hread
    | cons byte =>
      simp only [lebRead] at hread
      split at hread
      · rename_i hsmall
        cases hread
        simp [lebBytes, hsmall]
      · split at hread
        · cases hread
        rename_i high back hhigh
        split at hread
        · cases hread
        cases hread
        have hbyte := byte.toNat_lt
        rw [lebBytes, if_neg (by omega), ih hhigh]
        have hdiv : (byte.toNat - 128 + 128 * high) / 128 = high := by omega
        have hmod : (byte.toNat - 128 + 128 * high) % 128 + 128 = byte.toNat := by omega
        rw [hdiv, hmod]
        simp

theorem leb128_inverse : leb128.Inverse := by
  intro value rest
  have hvalue : value.val < 128 ^ (9 + 1) := Nat.lt_trans value.isLt (by decide)
  simp only [leb128, lebRead_lebBytes rest hvalue]
  rw [dif_pos value.isLt]

theorem leb128_minimal : leb128.Minimal := by
  intro buf value rest hdecode
  simp only [leb128] at hdecode
  split at hdecode
  · cases hdecode
  rename_i word back hread
  split at hdecode
  · cases hdecode
    exact lebBytes_of_lebRead hread
  · cases hdecode

end Varint

end BaseChain
