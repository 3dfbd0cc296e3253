/-
Recursive length prefix encoding: headers, byte strings, unsigned integers,
lists and records, with a strict decoder.  Every reader takes a buffer and
returns what is left of it, and its law is that a written value followed by any
bytes is read back and leaves those bytes.
-/
import BaseChain.ByteString

namespace BaseChain

open List

namespace Rlp

inductive Error where
  | inputTooShort
  | nonCanonicalSingleByte
  | nonCanonicalSize
  | leadingZero
  | overflow
  | unexpectedString
  | unexpectedList
  | unexpectedLength
  | listLengthMismatch (expected got : Nat)
  | custom
deriving Repr, DecidableEq

variable (value : Nat)

/-- The number of bytes of the shortest big-endian form. -/
def byteLength : Nat := if value = 0 then 0 else value.log2 / 8 + 1

/-- The shortest big-endian form; zero is the empty string. -/
def beMin : Bytes := beBytes (byteLength value) value

theorem beMin_length : (beMin value).length = byteLength value := beBytes_length _ _

theorem lt_pow_byteLength : value < 256 ^ byteLength value := by
  unfold byteLength
  split
  · rename_i hzero
    simp [hzero]
  · have hlog : value < 2 ^ (value.log2 + 1) := Nat.lt_log2_self
    calc value < 2 ^ (value.log2 + 1) := hlog
      _ ≤ 2 ^ (8 * (value.log2 / 8 + 1)) := Nat.pow_le_pow_right (by decide) (by omega)
      _ = 256 ^ (value.log2 / 8 + 1) := by rw [Nat.pow_mul]

variable {value : Nat} {width : Nat}

theorem pow_le_of_byteLength (hwidth : byteLength value = width + 1) : 256 ^ width ≤ value := by
  unfold byteLength at hwidth
  split at hwidth
  · omega
  · rename_i hpos
    calc 256 ^ width = 2 ^ (8 * width) := by rw [Nat.pow_mul]
      _ ≤ 2 ^ value.log2 := Nat.pow_le_pow_right (by decide) (by omega)
      _ ≤ value := Nat.log2_self_le hpos

@[simp] theorem beNat_beMin (value : Nat) : beNat (beMin value) = value := by
  rw [beMin, beNat_beBytes, Nat.mod_eq_of_lt (lt_pow_byteLength value)]

theorem byteLength_le (hvalue : value < 256 ^ width) : byteLength value ≤ width := by
  by_contra hlt
  obtain ⟨extra, hextra⟩ : ∃ extra, byteLength value = extra + 1 := ⟨byteLength value - 1, by omega⟩
  have hge := pow_le_of_byteLength hextra
  have hpow : 256 ^ width ≤ 256 ^ extra := Nat.pow_le_pow_right (by decide) (by omega)
  omega

/-- The shortest form does not start with a zero byte. -/
theorem beMin_head_ne_zero {byte : UInt8} {rest : Bytes}
    (hmin : beMin value = byte :: rest) : byte ≠ 0 := by
  rintro rfl
  have hlength : byteLength value = rest.length + 1 := by
    rw [← beMin_length, hmin, length_cons]
  have hvalue : beNat rest = value := by
    have hread := beNat_beMin value
    rw [hmin] at hread
    simpa [beNat] using hread
  have hlow := pow_le_of_byteLength hlength
  have hhigh := beNat_lt rest
  omega

structure Header where
  list : Bool
  payloadLength : Nat
deriving Repr, DecidableEq

variable {payload : Bytes} (rest : Bytes)

namespace Header

variable (header : Header)

def encode : Bytes := if header.payloadLength < 56 then
    [UInt8.ofNat ((if header.list then 0xC0 else 0x80) + header.payloadLength)]
  else
    let lengthBytes := beMin header.payloadLength
    UInt8.ofNat ((if header.list then 0xF7 else 0xB7) + lengthBytes.length) :: lengthBytes

/-- Left-padding to a fixed width refuses a leading zero. -/
def staticLeftPad (width : Nat) (data : Bytes) : Except Error Nat := if data.length > width then
    .error .overflow
  else
    match data with
    | [] => .ok 0
    | byte :: _ => if byte = 0 then .error .leadingZero else .ok (beNat data)

/-- The header at the front of a buffer, before the payload is looked for.  A
byte below `0x80` is its own payload. -/
def read : Bytes → Except Error (Header × Bytes)
  | [] => .error .inputTooShort
  | first :: tail =>
    let code := first.toNat
    if code < 0x80 then
      .ok (⟨false, 1⟩, first :: tail)
    else if code < 0xB8 then
      if code = 0x81 then
        match tail with
        | [] => .error .inputTooShort
        | byte :: _ =>
          if byte.toNat < 0x80 then .error .nonCanonicalSingleByte
          else .ok (⟨false, 1⟩, tail)
      else
        .ok (⟨false, code - 0x80⟩, tail)
    else if code < 0xC0 ∨ 0xF8 ≤ code then
      let list := decide (0xF8 ≤ code)
      let lengthOfLength := code - (if list then 0xF7 else 0xB7)
      if tail.length < lengthOfLength then
        .error .inputTooShort
      else
        match staticLeftPad 8 (tail.take lengthOfLength) with
        | .error error => .error error
        | .ok payloadLength =>
          if payloadLength < 56 then .error .nonCanonicalSize
          else .ok (⟨list, payloadLength⟩, tail.drop lengthOfLength)
    else
      .ok (⟨true, code - 0xC0⟩, tail)

/-- A header whose whole payload is present, and the buffer from the payload
on. -/
def decode (buf : Bytes) : Except Error (Header × Bytes) := match read buf with
  | .error error => .error error
  | .ok (header, rest) =>
    if rest.length < header.payloadLength then .error .inputTooShort
    else .ok (header, rest)

theorem staticLeftPad_beMin {width : Nat} (hvalue : value < 256 ^ width) :
    staticLeftPad width (beMin value) = .ok value := by
  have hlength : ¬ (beMin value).length > width := by
    rw [beMin_length]
    exact not_lt.mpr (byteLength_le hvalue)
  have hread := beNat_beMin value
  unfold staticLeftPad
  rw [if_neg hlength]
  split
  · rename_i hempty
    rw [hempty] at hread
    exact congrArg Except.ok hread
  · rename_i byte rest hcons
    rw [if_neg (beMin_head_ne_zero hcons), hread]

/-- The payload has the declared length and is not a single byte that would
encode itself. -/
def Canonical (payload : Bytes) : Prop :=
  payload.length = header.payloadLength ∧ header.payloadLength < 2 ^ 64 ∧
    ∀ byte, header.list = false → payload = [byte] → 0x80 ≤ byte.toNat

theorem encode_ne_nil : header.encode ≠ [] := by
  unfold encode
  split <;> simp

theorem toNat_ofNat_byte (hvalue : value < 256) : (UInt8.ofNat value).toNat = value := by
  rw [UInt8.toNat_ofNat', Nat.mod_eq_of_lt hvalue]

variable {header : Header}

theorem read_encode_short (hcanon : header.Canonical payload)
    (hshort : header.payloadLength < 56) :
    read (header.encode ++ (payload ++ rest)) = .ok (header, payload ++ rest) := by
  obtain ⟨list, length⟩ := header
  obtain ⟨hlength, -, hsingle⟩ := hcanon
  dsimp only at hlength hsingle hshort
  cases list with
  | true =>
    have hcode := toNat_ofNat_byte (show 0xC0 + length < 256 by omega)
    simp only [encode, hshort, if_true, singleton_append, read, hcode]
    rw [if_neg (by omega), if_neg (by omega), if_neg (by omega), Nat.add_sub_cancel_left]
  | false =>
    have hcode := toNat_ofNat_byte (show 0x80 + length < 256 by omega)
    simp only [encode, hshort, if_true, Bool.false_eq_true, if_false, singleton_append, read, hcode]
    rw [if_neg (by omega), if_pos (by omega)]
    by_cases hone : length = 1
    · obtain ⟨byte, rfl⟩ := length_eq_one_iff.mp (hlength.trans hone)
      have hbyte := hsingle byte rfl rfl
      simp [hone, not_lt.mpr hbyte]
    · rw [if_neg (by omega), Nat.add_sub_cancel_left]

theorem read_encode_long (hbound : header.payloadLength < 2 ^ 64)
    (hlong : ¬ header.payloadLength < 56) :
    read (header.encode ++ rest) = .ok (header, rest) := by
  obtain ⟨list, length⟩ := header
  dsimp only at hbound hlong
  have hbytes : length < 256 ^ 8 := hbound
  have hwidth : (beMin length).length ≤ 8 := by
    rw [beMin_length]
    exact byteLength_le hbytes
  have hpos : 0 < (beMin length).length := by
    rw [beMin_length, byteLength, if_neg (by omega)]
    omega
  have hpad := staticLeftPad_beMin hbytes
  have htake : (beMin length ++ rest).take (beMin length).length = beMin length := take_left
  have hdrop : (beMin length ++ rest).drop (beMin length).length = rest := drop_left
  have hlen : ¬ (beMin length ++ rest).length < (beMin length).length := by
    rw [length_append]
    omega
  simp only [encode, if_neg hlong, cons_append]
  generalize beMin length = lengthBytes at *
  cases list with
  | true =>
    have hcode := toNat_ofNat_byte (show 0xF7 + lengthBytes.length < 256 by omega)
    have hlist : decide (0xF8 ≤ 0xF7 + lengthBytes.length) = true := decide_eq_true (by omega)
    simp only [if_true, read, hcode, hlist, Nat.add_sub_cancel_left, htake, hdrop, hpad]
    rw [if_neg (by omega), if_neg (by omega), if_pos (by omega), if_neg hlen, if_neg hlong]
  | false =>
    have hcode := toNat_ofNat_byte (show 0xB7 + lengthBytes.length < 256 by omega)
    have hlist : decide (0xF8 ≤ 0xB7 + lengthBytes.length) = false := decide_eq_false (by omega)
    simp only [Bool.false_eq_true, if_false, read, hcode, hlist,
      Nat.add_sub_cancel_left, htake, hdrop, hpad]
    rw [if_neg (by omega), if_neg (by omega), if_pos (by omega), if_neg hlen, if_neg hlong]

theorem decode_encode (hcanon : header.Canonical payload) :
    decode (header.encode ++ (payload ++ rest)) = .ok (header, payload ++ rest) := by
  have hroom : ¬ (payload ++ rest).length < header.payloadLength := by
    rw [length_append, ← hcanon.1]
    omega
  by_cases hshort : header.payloadLength < 56
  · rw [decode, read_encode_short rest hcanon hshort]
    simp only [if_neg hroom]
  · rw [decode, read_encode_long _ hcanon.2.1 hshort]
    simp only [if_neg hroom]

end Header

/-- A byte string. -/
def encodeBytes (data : Bytes) : Bytes := match data with
  | [byte] =>
    if byte.toNat < 0x80 then [byte]
    else Header.encode ⟨false, 1⟩ ++ [byte]
  | data => Header.encode ⟨false, data.length⟩ ++ data

/-- The payload of the string or list at the front of a buffer. -/
def decodePayload (list : Bool) (buf : Bytes) : Except Error (Bytes × Bytes) :=
  match Header.decode buf with
  | .error error => .error error
  | .ok (header, rest) =>
    if header.list ≠ list then
      .error (if list then .unexpectedString else .unexpectedList)
    else
      .ok (rest.take header.payloadLength, rest.drop header.payloadLength)

/-- Unsigned integers are written as their shortest big-endian string. -/
def encodeUint (value : Nat) : Bytes := encodeBytes (beMin value)

/-- Read an unsigned integer of at most `width` bytes. -/
def decodeUint (width : Nat) (buf : Bytes) : Except Error (Nat × Bytes) :=
  match decodePayload false buf with
  | .error error => .error error
  | .ok (data, rest) =>
    match Header.staticLeftPad width data with
    | .error error => .error error
    | .ok value => .ok (value, rest)

/-- Read a byte array of exactly `width` bytes. -/
def decodeFixed (width : Nat) (buf : Bytes) : Except Error (FixedBytes width × Bytes) :=
  match decodePayload false buf with
  | .error error => .error error
  | .ok (data, rest) =>
    match FixedBytes.ofBytes? width data with
    | none => .error .custom
    | some fixed => .ok (fixed, rest)

/-- A list whose items are already written. -/
def encodeList (payload : Bytes) : Bytes := Header.encode ⟨true, payload.length⟩ ++ payload

/-- Read items until the payload is used up.  The fuel bounds the number of
items; a reader that makes progress never runs out of one unit per byte. -/
def decodeItems {α : Type} (item : Bytes → Except Error (α × Bytes)) :
    Nat → Bytes → Except Error (List α)
  | _, [] => .ok []
  | 0, _ :: _ => .error .custom
  | fuel + 1, first :: tail =>
    match item (first :: tail) with
    | .error error => .error error
    | .ok (value, rest) =>
      match decodeItems item fuel rest with
      | .error error => .error error
      | .ok values => .ok (value :: values)

/-- Read a list of items. -/
def decodeList {α : Type} (item : Bytes → Except Error (α × Bytes))
    (buf : Bytes) : Except Error (List α × Bytes) :=
  match decodePayload true buf with
  | .error error => .error error
  | .ok (payload, rest) =>
    match decodeItems item payload.length payload with
    | .error error => .error error
    | .ok values => .ok (values, rest)

/-- Read a record: a list header whose length its fields must use up. -/
def decodeRecord {α : Type} (fields : Bytes → Except Error (α × Bytes))
    (buf : Bytes) : Except Error (α × Bytes) :=
  match Header.decode buf with
  | .error error => .error error
  | .ok (header, rest) =>
    if header.list = false then
      .error .unexpectedString
    else
      match fields rest with
      | .error error => .error error
      | .ok (value, rest') =>
        if rest.length - rest'.length ≠ header.payloadLength then
          .error (.listLengthMismatch header.payloadLength (rest.length - rest'.length))
        else
          .ok (value, rest')

section Laws

theorem encodeBytes_ne_nil (data : Bytes) : encodeBytes data ≠ [] := by
  unfold encodeBytes
  split
  · split
    · simp
    · simp
  · simp [Header.encode_ne_nil]

theorem decodePayload_encodeBytes {data : Bytes} (hbound : data.length < 2 ^ 64) :
    decodePayload false (encodeBytes data ++ rest) = .ok (data, rest) := by
  unfold encodeBytes
  split
  · rename_i byte
    split
    · rename_i hsmall
      simp [decodePayload, Header.decode, Header.read, hsmall]
    · have hcanon : Header.Canonical ⟨false, 1⟩ [byte] := by
        refine ⟨rfl, by decide, ?_⟩
        rintro other - hother
        obtain rfl : byte = other := by simpa using hother
        omega
      rw [append_assoc, decodePayload, Header.decode_encode rest hcanon]
      simp
  · rename_i hmany
    have hcanon : Header.Canonical ⟨false, data.length⟩ data := by
      refine ⟨rfl, hbound, ?_⟩
      rintro byte - hbyte
      exact absurd hbyte (hmany byte)
    rw [append_assoc, decodePayload, Header.decode_encode rest hcanon]
    simp

theorem decodeUint_encodeUint (hvalue : value < 256 ^ width) (hwidth : width < 2 ^ 64) :
    decodeUint width (encodeUint value ++ rest) = .ok (value, rest) := by
  have hlength : (beMin value).length < 2 ^ 64 := by
    rw [beMin_length]
    exact lt_of_le_of_lt (byteLength_le hvalue) hwidth
  rw [decodeUint, encodeUint, decodePayload_encodeBytes rest hlength]
  simp [Header.staticLeftPad_beMin hvalue]

theorem decodeFixed_encodeBytes (fixed : FixedBytes width) (rest : Bytes)
    (hwidth : width < 2 ^ 64) :
    decodeFixed width (encodeBytes fixed.val ++ rest) = .ok (fixed, rest) := by
  rw [decodeFixed, decodePayload_encodeBytes rest (by simpa using hwidth)]
  simp

theorem list_canonical (hbound : payload.length < 2 ^ 64) :
    Header.Canonical ⟨true, payload.length⟩ payload :=
  ⟨rfl, hbound, by simp⟩

theorem decodePayload_encodeList (hbound : payload.length < 2 ^ 64) :
    decodePayload true (encodeList payload ++ rest) = .ok (payload, rest) := by
  rw [encodeList, append_assoc, decodePayload, Header.decode_encode rest (list_canonical hbound)]
  simp

variable {α : Type} {item : Bytes → Except Error (α × Bytes)} {encode : α → Bytes}

/-- A list of written items is read back when each item is, and each takes at
least one byte. -/
theorem decodeItems_flatMap (values : List α) (fuel : Nat)
    (hfuel : (values.flatMap encode).length ≤ fuel) (hread : ∀ value ∈ values, ∀ rest,
      item (encode value ++ rest) = .ok (value, rest))
    (hne : ∀ value ∈ values, encode value ≠ []) :
    decodeItems item fuel (values.flatMap encode) = .ok values := by
  induction values generalizing fuel with
  | nil => simp [decodeItems]
  | cons value values ih =>
    have hvalue := hread value mem_cons_self
    obtain ⟨byte, tail, hbyte⟩ := exists_cons_of_ne_nil (hne value mem_cons_self)
    have hpos : 0 < (encode value).length := by simp [hbyte]
    simp only [flatMap_cons, length_append] at hfuel
    obtain ⟨fuel, rfl⟩ : ∃ smaller, fuel = smaller + 1 := ⟨fuel - 1, by omega⟩
    have hrest := ih fuel (by omega) (fun other hother => hread other (mem_cons_of_mem _ hother))
      (fun other hother => hne other (mem_cons_of_mem _ hother))
    rw [flatMap_cons]
    have hcons : encode value ++ values.flatMap encode =
        byte :: (tail ++ values.flatMap encode) := by simp [hbyte]
    rw [hcons, decodeItems, ← hcons, hvalue]
    simp [hrest]

theorem decodeList_encodeList (values : List α) (rest : Bytes)
    (hbound : (values.flatMap encode).length < 2 ^ 64)
    (hread : ∀ value ∈ values, ∀ rest, item (encode value ++ rest) = .ok (value, rest))
    (hne : ∀ value ∈ values, encode value ≠ []) :
    decodeList item (encodeList (values.flatMap encode) ++ rest) = .ok (values, rest) := by
  rw [decodeList, decodePayload_encodeList rest hbound]
  simp only [decodeItems_flatMap values _ (le_refl _) hread hne]

theorem decodeRecord_encodeList {fields : Bytes → Except Error (α × Bytes)} {value : α}
    (hbound : payload.length < 2 ^ 64)
    (hfields : fields (payload ++ rest) = .ok (value, rest)) :
    decodeRecord fields (encodeList payload ++ rest) = .ok (value, rest) := by
  rw [encodeList, append_assoc, decodeRecord, Header.decode_encode rest (list_canonical hbound)]
  simp [hfields]

end Laws

end Rlp

end BaseChain
