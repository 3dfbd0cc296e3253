/-
Readers of recursive length prefix items.  An item's reader inverts its encoder
on every value whose encoding is shorter than the address space; lists and
records keep the law, so a composite type has it from its fields.
-/
import BaseChain.Reader
import BaseChain.Rlp

namespace BaseChain

open List

namespace Rlp

variable {α β : Type} (encode : α → Bytes) (read : Reader Error α)

/-- Encodings are never empty, and one that can exist in memory is read back. -/
def Inverse : Prop := ∀ value, encode value ≠ [] ∧
    ((encode value).length < 2 ^ 64 → Reader.Reads read (encode value) value)

def bytes : Reader Error Bytes := decodePayload false

def encodeWord {width : Nat} (word : Word width) : Bytes := encodeUint word.val

def word (width : Nat) : Reader Error (Word width) := fun buf =>
  match decodeUint width buf with
  | .error error => .error error
  | .ok (value, rest) => .ok (Fin.ofNat (256 ^ width) value, rest)

def encodeFixed {width : Nat} (data : FixedBytes width) : Bytes := encodeBytes data.val

def fixed (width : Nat) : Reader Error (FixedBytes width) := decodeFixed width

def encodeItems (values : List α) : Bytes := encodeList (values.flatMap encode)

def items : Reader Error (List α) := decodeList read

def record (fields : Reader Error α) : Reader Error α := decodeRecord fields

/-- A value computed from what was read, or an error of the record's own. -/
def ofOption (value : Option α) : Reader Error α := fun buf =>
  match value with
  | none => .error .custom
  | some value => .ok (value, buf)

variable {value : α} {read : Reader Error α} {encode : α → Bytes}

section

variable (hinverse : Inverse encode read)
include hinverse

theorem Inverse.reads (hlength : (encode value).length < 2 ^ 64) :
    Reader.Reads read (encode value) value :=
  (hinverse value).2 hlength

/-- Read one field and go on with what follows it. -/
theorem Inverse.field {next : α → Reader Error β} {back : Bytes} {result : β}
    (hnext : back.length < 2 ^ 64 → Reader.Reads (next value) back result)
    (hlength : (encode value ++ back).length < 2 ^ 64) :
    Reader.Reads (read >>= next) (encode value ++ back) result := by
  rw [length_append] at hlength
  have hvalue := hinverse.reads (lt_of_le_of_lt (Nat.le_add_right _ _) hlength)
  exact hvalue.bind (hnext (lt_of_le_of_lt (Nat.le_add_left _ _) hlength))

theorem Inverse.lastField (f : α → β) (hlength : (encode value).length < 2 ^ 64) :
    Reader.Reads (read >>= fun value => pure (f value)) (encode value) (f value) :=
  (hinverse.reads hlength).map f

end

theorem length_le_encodeBytes (data : Bytes) : data.length ≤ (encodeBytes data).length := by
  unfold encodeBytes
  split
  · split <;> simp
  · rw [length_append]
    exact Nat.le_add_left _ _

theorem length_le_encodeList (payload : Bytes) : payload.length ≤ (encodeList payload).length := by
  rw [encodeList, length_append]
  exact Nat.le_add_left _ _

theorem encodeList_ne_nil (payload : Bytes) : encodeList payload ≠ [] := by
  simp [encodeList, Header.encode_ne_nil]

theorem length_le_flatMap {encode : α → Bytes} {values : List α} {value : α}
    (hvalue : value ∈ values) :
    (encode value).length ≤ (values.flatMap encode).length := by
  obtain ⟨front, back, rfl⟩ := append_of_mem hvalue
  rw [flatMap_append, flatMap_cons, length_append, length_append]
  omega

theorem bytes_inverse : Inverse encodeBytes bytes := by
  intro value
  constructor
  · exact encodeBytes_ne_nil value
  · intro hlength rest
    apply decodePayload_encodeBytes rest
    exact lt_of_le_of_lt (length_le_encodeBytes value) hlength

variable {width : Nat}

theorem word_inverse (hwidth : width < 2 ^ 64 := by decide) : Inverse encodeWord (word width) := by
  intro value
  constructor
  · exact encodeBytes_ne_nil _
  · intro _ rest
    rw [word, encodeWord, decodeUint_encodeUint rest value.isLt hwidth]
    simp

theorem fixed_inverse (hwidth : width < 2 ^ 64 := by decide) : Inverse encodeFixed (fixed width) := by
  intro value
  constructor
  · exact encodeBytes_ne_nil _
  · intro _ rest
    exact decodeFixed_encodeBytes value rest hwidth

theorem items_inverse (hinverse : Inverse encode read) :
    Inverse (encodeItems encode) (items read) := by
  intro values
  constructor
  · exact encodeList_ne_nil _
  · intro hlength rest
    have hpayload := lt_of_le_of_lt (length_le_encodeList _) hlength
    apply decodeList_encodeList values rest hpayload
    · intro value hvalue
      apply hinverse.reads
      exact lt_of_le_of_lt (length_le_flatMap hvalue) hpayload
    · intro value _
      exact (hinverse value).1

/-- A record is read back when its fields are, one after the other. -/
theorem record_inverse {payload : α → Bytes} {fields : Reader Error α}
    (hfields : ∀ value, (payload value).length < 2 ^ 64 →
      Reader.Reads fields (payload value) value) :
    Inverse (fun value => encodeList (payload value)) (record fields) := by
  intro value
  constructor
  · exact encodeList_ne_nil _
  · intro hlength rest
    have hpayload := lt_of_le_of_lt (length_le_encodeList _) hlength
    exact decodeRecord_encodeList rest hpayload (hfields value hpayload rest)

theorem ofOption_reads {value : Option α} {result : α} (hvalue : value = some result) :
    Reader.Reads (ofOption value) [] result := by
  subst hvalue
  exact fun _ => rfl

/-- An item that is checked or converted after it is read. -/
theorem Inverse.partialMap (hinverse : Inverse encode read) {raw : β → α}
    {convert : α → Option β} (hconvert : ∀ value, convert (raw value) = some value) :
    Inverse (fun value => encode (raw value)) (read >>= fun item => ofOption (convert item)) := by
  intro value
  constructor
  · exact (hinverse (raw value)).1
  · intro hlength
    change Reader.Reads _ (encode (raw value)) value
    rw [← append_nil (encode (raw value))]
    exact (hinverse.reads hlength).bind (ofOption_reads (hconvert value))

/-! List headers have one form only. -/

variable {rest : Bytes} {byte : UInt8}

theorem pow_le_beNat (hbyte : byte ≠ 0) : 256 ^ rest.length ≤ beNat (byte :: rest) := by
  have hpos : 1 ≤ byte.toNat := by
    rw [Nat.one_le_iff_ne_zero]
    intro hzero
    exact hbyte (UInt8.toNat_inj.mp hzero)
  calc 256 ^ rest.length = 1 * 256 ^ rest.length := (one_mul _).symm
    _ ≤ byte.toNat * 256 ^ rest.length := Nat.mul_le_mul_right _ hpos
    _ ≤ byte.toNat * 256 ^ rest.length + beNat rest := Nat.le_add_right _ _

/-- A string without a leading zero is the shortest form of its number. -/
theorem beMin_beNat (hbyte : byte ≠ 0) : beMin (beNat (byte :: rest)) = byte :: rest := by
  have hhigh := beNat_lt (byte :: rest)
  have hwidth : byteLength (beNat (byte :: rest)) = (byte :: rest).length := by
    apply le_antisymm (byteLength_le hhigh)
    by_contra hshort
    have hlow : 256 ^ rest.length ≤ beNat (byte :: rest) := pow_le_beNat hbyte
    have hlt := lt_pow_byteLength (beNat (byte :: rest))
    rw [length_cons] at hshort
    have hpow : 256 ^ byteLength (beNat (byte :: rest)) ≤ 256 ^ rest.length :=
      Nat.pow_le_pow_right (by decide) (by omega)
    omega
  rw [beMin, hwidth, beBytes_beNat]

theorem staticLeftPad_ok {value : Nat} {data : Bytes}
    (hpad : Header.staticLeftPad width data = .ok value) :
    value = beNat data ∧ beMin value = data ∧ data.length ≤ width := by
  unfold Header.staticLeftPad at hpad
  split at hpad
  · cases hpad
  rename_i hwidth
  split at hpad
  · cases hpad
    exact ⟨rfl, rfl, Nat.zero_le _⟩
  · split at hpad
    · cases hpad
    rename_i hbyte
    cases hpad
    exact ⟨rfl, beMin_beNat hbyte, le_of_not_gt hwidth⟩

theorem ofNat_toNat_byte (byte : UInt8) {value : Nat}
    (hvalue : value = byte.toNat) : UInt8.ofNat value = byte := by
  rw [hvalue, UInt8.ofNat_toNat]

variable {header : Header} {tail : Bytes} {first : UInt8}

/-- A list header starts at `0xC0`. -/
theorem read_string (hcode : first.toNat < 0xB8)
    (hread : Header.read (first :: rest) = .ok (header, tail)) :
    header.list = false := by
  by_cases hself : first.toNat < 0x80
  · simp only [Header.read, if_pos hself, Except.ok.injEq, Prod.mk.injEq] at hread
    rw [← hread.1]
  · simp only [Header.read, if_neg hself, if_pos hcode] at hread
    by_cases hone : first.toNat = 0x81
    · rw [if_pos hone] at hread
      cases rest with
      | nil => simp at hread
      | cons byte =>
        by_cases hsmall : byte.toNat < 0x80
        · simp [if_pos hsmall] at hread
        · simp only [if_neg hsmall, Except.ok.injEq, Prod.mk.injEq] at hread
          rw [← hread.1]
    · simp only [if_neg hone, Except.ok.injEq, Prod.mk.injEq] at hread
      rw [← hread.1]

theorem read_long (hcode : first.toNat < 0xC0 ∨ 0xF8 ≤ first.toNat) (hlow : ¬ first.toNat < 0xB8)
    (hread : Header.read (first :: rest) = .ok (header, tail))
    (hlist : header.list = true) :
    first :: rest = header.encode ++ tail := by
  have hself : ¬ first.toNat < 0x80 := by omega
  simp only [Header.read, if_neg hself, if_neg hlow, if_pos hcode] at hread
  by_cases hcodeList : 0xF8 ≤ first.toNat
  · simp only [decide_eq_true hcodeList, if_true] at hread
    by_cases hroom : rest.length < first.toNat - 0xF7
    · simp [if_pos hroom] at hread
    · rw [if_neg hroom] at hread
      cases hpad : Header.staticLeftPad 8 (rest.take (first.toNat - 0xF7)) with
      | error => simp [hpad] at hread
      | ok payloadLength =>
        obtain ⟨-, hmin, -⟩ := staticLeftPad_ok hpad
        simp only [hpad] at hread
        by_cases hsmall : payloadLength < 56
        · simp [if_pos hsmall] at hread
        · simp only [if_neg hsmall] at hread
          obtain ⟨rfl, rfl⟩ := hread
          have hbyte : UInt8.ofNat (0xF7 + (first.toNat - 0xF7)) = first :=
            ofNat_toNat_byte first (by omega)
          have hwidth : (rest.take (first.toNat - 0xF7)).length = first.toNat - 0xF7 := by
            rw [length_take]
            omega
          rw [Header.encode, if_neg hsmall]
          simp [hmin, hwidth, hbyte]
  · simp only [decide_eq_false hcodeList, Bool.false_eq_true, if_false] at hread
    by_cases hroom : rest.length < first.toNat - 0xB7
    · simp [if_pos hroom] at hread
    · rw [if_neg hroom] at hread
      cases hpad : Header.staticLeftPad 8 (rest.take (first.toNat - 0xB7)) with
      | error => simp [hpad] at hread
      | ok payloadLength =>
        simp only [hpad] at hread
        by_cases hsmall : payloadLength < 56
        · simp [if_pos hsmall] at hread
        · simp only [if_neg hsmall, Except.ok.injEq, Prod.mk.injEq] at hread
          rw [← hread.1] at hlist
          cases hlist

variable {buf : Bytes}

theorem read_list (hread : Header.read buf = .ok (header, tail)) (hlist : header.list = true) :
    buf = header.encode ++ tail := by
  cases buf with
  | nil => simp [Header.read] at hread
  | cons first =>
    by_cases hstring : first.toNat < 0xB8
    · rw [read_string hstring hread] at hlist
      cases hlist
    · by_cases hlong : first.toNat < 0xC0 ∨ 0xF8 ≤ first.toNat
      · exact read_long hlong hstring hread hlist
      · have hself : ¬ first.toNat < 0x80 := by omega
        simp only [Header.read, if_neg hself, if_neg hstring, if_neg hlong] at hread
        obtain ⟨rfl, rfl⟩ := hread
        have hbyte : UInt8.ofNat (0xC0 + (first.toNat - 0xC0)) = first :=
          ofNat_toNat_byte first (by omega)
        rw [Header.encode, if_pos (by dsimp only; omega)]
        simp [hbyte]

/-- A buffer that starts with a whole list starts with an encoded list. -/
theorem decode_list (hdecode : Header.decode buf = .ok (header, tail))
    (hlist : header.list = true) :
    ∃ payload rest, payload.length = header.payloadLength ∧ buf = encodeList payload ++ rest ∧
      header.payloadLength + header.encode.length = (encodeList payload).length := by
  unfold Header.decode at hdecode
  cases hread : Header.read buf with
  | error => simp [hread] at hdecode
  | ok pair =>
    obtain ⟨found, back⟩ := pair
    simp only [hread] at hdecode
    by_cases hshort : back.length < found.payloadLength
    · simp [if_pos hshort] at hdecode
    · simp only [if_neg hshort, Except.ok.injEq, Prod.mk.injEq] at hdecode
      obtain ⟨rfl, rfl⟩ := hdecode
      have hlength : (back.take found.payloadLength).length = found.payloadLength := by
        rw [length_take]
        omega
      have hheader : (⟨true, found.payloadLength⟩ : Header) = found := by rw [← hlist]
      refine ⟨back.take found.payloadLength, back.drop found.payloadLength, hlength, ?_, ?_⟩
      · rw [encodeList, hlength, hheader, append_assoc, take_append_drop]
        exact read_list hread hlist
      · rw [encodeList, hlength, hheader, length_append, hlength, add_comm]

end Rlp

end BaseChain
