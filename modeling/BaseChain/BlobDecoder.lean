/-
The two blob decoders: the batcher's `BlobDecoder` and the derivation
pipeline's `BlobData`.  Both are modelled as the buffer writes they perform,
and one theorem says which blobs they accept: exactly those which, with the top
bits of the first byte dropped, the encoder writes.
-/
import BaseChain.BlobEncoder

namespace BaseChain

open List Round
open List (getElem?_append_right replicate)

inductive BlobDecodeError where
  | invalidFieldElement (offset : Nat)
  | invalidEncodingVersion (version : UInt8)
  | invalidLength (length : Nat)
  | nonZeroPadding (offset : Nat)
deriving Repr, DecidableEq

/-- The errors of the derivation pipeline's decoder. -/
inductive BlobDecodingError where
  | invalidFieldElement
  | invalidEncodingVersion
  | invalidLength
  | missingData
deriving Repr, DecidableEq

/-- A decoder's output buffer and its two running positions. -/
structure DecodeCursor where
  output : Bytes
  outputPos : Nat
  inputPos : Nat

/-- Put the three bytes spread over four high bytes in their places.  Both
decoders have this function, word for word. -/
def reassembleBytes (encodedByte : List UInt8) (cursor : DecodeCursor) :
    DecodeCursor :=
  let outputPos := cursor.outputPos - 1
  let e0 := encodedByte[0]?.getD 0
  let e1 := encodedByte[1]?.getD 0
  let e2 := encodedByte[2]?.getD 0
  let e3 := encodedByte[3]?.getD 0
  let x := (e0 &&& (0x3F : UInt8)) ||| ((e1 &&& (0x30 : UInt8)) <<< 2)
  let y := (e1 &&& (0x0F : UInt8)) ||| ((e3 &&& (0x0F : UInt8)) <<< 4)
  let z := (e2 &&& (0x3F : UInt8)) ||| ((e3 &&& (0x30 : UInt8)) <<< 2)
  let output := cursor.output.set (outputPos - 32) z
  let output := output.set (outputPos - 32 * 2) y
  let output := output.set (outputPos - 32 * 3) x
  { cursor with output := output, outputPos := outputPos }

namespace BlobDecoder

def decodeFieldElement (data : Bytes) (cursor : DecodeCursor) :
    Except BlobDecodeError (UInt8 × DecodeCursor) :=
  let inputPos := cursor.inputPos
  if (data[inputPos]?.getD 0) &&& (0xC0 : UInt8) ≠ 0 then
    .error (.invalidFieldElement inputPos)
  else
    .ok (data[inputPos]?.getD 0,
      { output := copyInto cursor.output cursor.outputPos
          (slice data (inputPos + 1) (inputPos + 32))
        outputPos := cursor.outputPos + 32
        inputPos := inputPos + 32 })

/-- The inner loop over the remaining entries of `encoded_byte`. -/
def decodeFieldElements (data : Bytes) :
    Nat → DecodeCursor → Except BlobDecodeError (List UInt8 × DecodeCursor)
  | 0, cursor => .ok ([], cursor)
  | count + 1, cursor => do
      let (high, cursor) ← decodeFieldElement data cursor
      let (highs, cursor) ← decodeFieldElements data count cursor
      return (high :: highs, cursor)

def decodeRounds (data : Bytes) (length : Nat) :
    Nat → DecodeCursor → Except BlobDecodeError DecodeCursor
  | 0, cursor => .ok cursor
  | rounds + 1, cursor =>
    if cursor.outputPos ≥ length then
      .ok cursor
    else do
      let (highs, cursor) ← decodeFieldElements data 4 cursor
      decodeRounds data length rounds (reassembleBytes highs cursor)

/-- The offset of the first non-zero byte from `start` on. -/
def nonZeroFrom (data : Bytes) (start : Nat) : Option Nat :=
  ((data.drop start).findIdx? (· ≠ 0)).map (start + ·)

def decode (blob : Blob) : Except BlobDecodeError Bytes :=
  let data := blob.val
  let version := data[versionedHashVersionKzg]?.getD 0
  if version ≠ 0 then
    .error (.invalidEncodingVersion version)
  else
    let length := beNat [0, data[2]?.getD 0, data[3]?.getD 0, data[4]?.getD 0]
    if length > blobMaxDataSize then
      .error (.invalidLength length)
    else do
      let output := copyInto (replicate blobMaxDataSize 0) 0
        (slice data 5 32)
      let (highs, cursor) ← decodeFieldElements data 3
        { output := output, outputPos := 28, inputPos := 32 }
      -- the first high byte is reassembled without a check of its top bits
      let cursor ← decodeRounds data length (blobEncodingRounds - 1)
        (reassembleBytes (data[0]?.getD 0 :: highs) cursor)
      match nonZeroFrom cursor.output length with
      | some offset => .error (.nonZeroPadding offset)
      | none =>
        match nonZeroFrom data cursor.inputPos with
        | some offset => .error (.nonZeroPadding offset)
        | none => .ok (cursor.output.take length)

end BlobDecoder

/-- The fetched body of a blob, if it has been filled in. -/
structure BlobData where
  data : Option Bytes

namespace BlobData

def decodeFieldElement (blob : BlobData) (cursor : DecodeCursor) :
    Except BlobDecodingError (UInt8 × DecodeCursor) :=
  match blob.data with
  | none => .error .missingData
  | some data =>
    let inputPos := cursor.inputPos
    if (data[inputPos]?.getD 0) &&& (0xC0 : UInt8) ≠ 0 then
      .error .invalidFieldElement
    else
      .ok (data[inputPos]?.getD 0,
        { output := copyInto cursor.output cursor.outputPos
            (slice data (inputPos + 1) (inputPos + 32))
          outputPos := cursor.outputPos + 32
          inputPos := inputPos + 32 })

def decodeFieldElements (blob : BlobData) :
    Nat → DecodeCursor → Except BlobDecodingError (List UInt8 × DecodeCursor)
  | 0, cursor => .ok ([], cursor)
  | count + 1, cursor => do
      let (high, cursor) ← blob.decodeFieldElement cursor
      let (highs, cursor) ← decodeFieldElements blob count cursor
      return (high :: highs, cursor)

def decodeRounds (blob : BlobData) (length : Nat) :
    Nat → DecodeCursor → Except BlobDecodingError DecodeCursor
  | 0, cursor => .ok cursor
  | rounds + 1, cursor =>
    if cursor.outputPos ≥ length then
      .ok cursor
    else do
      let (highs, cursor) ← blob.decodeFieldElements 4 cursor
      decodeRounds blob length rounds (reassembleBytes highs cursor)

def decode (blob : BlobData) : Except BlobDecodingError Bytes := match blob.data with
  | none => .error .missingData
  | some data =>
    if data[versionedHashVersionKzg]?.getD 0 ≠ blobEncodingVersion then
      .error .invalidEncodingVersion
    else
      let length :=
        beNat [0, data[2]?.getD 0, data[3]?.getD 0, data[4]?.getD 0]
      if length > blobMaxDataSize then
        .error .invalidLength
      else do
        let output := copyInto (replicate blobMaxDataSize 0) 0
          (slice data 5 32)
        let (highs, cursor) ← blob.decodeFieldElements 3
          { output := output, outputPos := 28, inputPos := 32 }
        let cursor ← blob.decodeRounds length (blobEncodingRounds - 1)
          (reassembleBytes (data[0]?.getD 0 :: highs) cursor)
        if (cursor.output.drop length).any (· ≠ 0) then
          .error .invalidFieldElement
        else if (List.range' cursor.inputPos (bytesPerBlob - cursor.inputPos)).any
              (fun index => data[index]?.getD 0 ≠ 0) then
          .error .invalidFieldElement
        else
          .ok (cursor.output.take length)

end BlobData

namespace BlobDecodeError

/-- The pipeline's error for a batcher error. -/
def toDecodingError : BlobDecodeError → BlobDecodingError
  | .invalidFieldElement _ => .invalidFieldElement
  | .invalidEncodingVersion _ => .invalidEncodingVersion
  | .invalidLength _ => .invalidLength
  | .nonZeroPadding _ => .invalidFieldElement

end BlobDecodeError

variable (wires : List WireRound)

/-- The payload of a run of field elements. -/
def unpackRounds : Bytes := wires.flatMap fun wire => wire.unpack.plain

@[simp] theorem unpackRounds_length : (unpackRounds wires).length = 127 * wires.length :=
  length_spelled (fun wire => wire.unpack.plain_length) wires

theorem replicate_zero_plain (count : Nat) : replicate (127 * (count + 1)) (0 : UInt8) =
      zero.plain ++ replicate (127 * count) 0 := by
  rw [zero_plain, replicate_append_replicate]
  congr 1
  omega

/-- A round with its four payloads replaced. -/
def Round.withPayload (round : Round) (wire : WireRound) : Round :=
  { round with p0 := wire.p0, p1 := wire.p1, p2 := wire.p2, p3 := wire.p3 }

theorem reassembleBytes_eq (done rest : Bytes) (inputPos : Nat) (wire : WireRound) (old : Round) :
    reassembleBytes [wire.h0, wire.h1, wire.h2, wire.h3]
        ⟨done ++ ((old.withPayload wire).plain ++ rest), done.length + 128, inputPos⟩ =
      ⟨done ++ (wire.unpack.plain ++ rest), done.length + 127, inputPos⟩ := by
  simp [reassembleBytes, withPayload, plain, WireRound.unpack]

namespace BlobDecoder

open WireRound

variable {data : Bytes}

theorem decodeFieldElement_ok {cursor next : DecodeCursor} {high : UInt8}
    (hdecode : decodeFieldElement data cursor = .ok (high, next)) :
    TopClear (data[cursor.inputPos]?.getD 0) ∧ next.inputPos = cursor.inputPos + 32 := by
  simp only [decodeFieldElement] at hdecode
  split at hdecode
  · cases hdecode
  rename_i hclear
  cases hdecode
  exact ⟨not_not.mp hclear, rfl⟩

variable {result : List UInt8 × DecodeCursor}

/-- Decoded field elements all have their top bits clear. -/
theorem decodeFieldElements_topClear {count : Nat} {cursor : DecodeCursor}
    (hdecode : decodeFieldElements data count cursor = .ok result) :
    ∀ index < count, TopClear (data[cursor.inputPos + 32 * index]?.getD 0) := by
  induction count generalizing cursor result with
  | zero =>
    intro index hindex
    omega
  | succ count ih =>
    simp only [decodeFieldElements, bind, Except.bind] at hdecode
    split at hdecode
    · cases hdecode
    rename_i pair hfirst
    split at hdecode
    · cases hdecode
    rename_i tail hrest
    obtain ⟨hclear, hpos⟩ := decodeFieldElement_ok hfirst
    intro index hindex
    cases index with
    | zero => exact hclear
    | succ index =>
      have hnext := ih hrest index (by omega)
      rw [hpos] at hnext
      rw [show cursor.inputPos + 32 * (index + 1) = cursor.inputPos + 32 + 32 * index by omega]
      exact hnext

/-- One loop body on clean field elements. -/
theorem decodeFieldElements_clean (front back done rest : Bytes)
    (wire : WireRound) (old : Round) (hclean : wire.Clean) :
    decodeFieldElements (front ++ (wire.bytes ++ back)) 4
        ⟨done ++ (old.plain ++ rest), done.length, front.length⟩ =
      .ok ([wire.h0, wire.h1, wire.h2, wire.h3],
        ⟨done ++ ((old.withPayload wire).plain ++ rest), done.length + 128,
          front.length + 128⟩) := by
  obtain ⟨h0, h1, h2, h3⟩ := hclean
  simp only [TopClear] at h0 h1 h2 h3
  simp [decodeFieldElements, decodeFieldElement, bytes, plain,
    withPayload, h0, h1, h2, h3, copyInto_append_right,
    copyInto_cons_succ, copyInto_zero_append, slice_append_right,
    slice_cons_succ, slice_zero_append, getElem?_append_right, bind,
    Except.bind, pure, Except.pure, add_assoc]

variable {output : Bytes} {wire : WireRound}

theorem clean_of_decodeFieldElements {front back : Bytes} {outputPos : Nat}
    (hdecode : decodeFieldElements (front ++ (wire.bytes ++ back)) 4
      ⟨output, outputPos, front.length⟩ = .ok result) : wire.Clean := by
  have hclear := decodeFieldElements_topClear hdecode
  refine ⟨?_, ?_, ?_, ?_⟩
  · simpa [bytes] using hclear 0 (by decide)
  · simpa [bytes, getElem?_append_right] using hclear 1 (by decide)
  · simpa [bytes, getElem?_append_right] using hclear 2 (by decide)
  · simpa [bytes, getElem?_append_right] using hclear 3 (by decide)

/-- The loop stops after some rounds: at the end of the blob, or once the
declared length is covered.  It succeeds exactly when those rounds are clean. -/
theorem decodeRounds_spec (length : Nat) (wires : List WireRound) (front done : Bytes) :
    ∃ used rest, wires = used ++ rest ∧ (rest = [] ∨ length ≤ done.length + 127 * used.length) ∧
      ∀ cursor, decodeRounds (front ++ wires.flatMap bytes) length wires.length
            ⟨done ++ replicate (127 * wires.length) 0, done.length, front.length⟩ = .ok cursor ↔
          (∀ wire ∈ used, wire.Clean) ∧ cursor = ⟨done ++ (unpackRounds used ++
                replicate (127 * rest.length) 0),
              done.length + 127 * used.length,
              front.length + 128 * used.length⟩ := by
  induction wires generalizing front done with
  | nil =>
    refine ⟨[], [], rfl, .inl rfl, fun cursor => ?_⟩
    simp [decodeRounds, unpackRounds, eq_comm]
  | cons wire wires ih =>
    by_cases hbreak : done.length ≥ length
    · refine ⟨[], wire :: wires, rfl, .inr (by simpa using hbreak), fun cursor => ?_⟩
      simp [decodeRounds, hbreak, unpackRounds, eq_comm]
    obtain ⟨used, rest, hwires, hstop, hloop⟩ :=
      ih (front ++ wire.bytes) (done ++ wire.unpack.plain)
    simp only [append_assoc, length_append, bytes_length, plain_length] at hstop hloop
    refine ⟨wire :: used, rest, by simp [hwires], ?_, fun cursor => ?_⟩
    · refine hstop.imp_right fun hcovered => ?_
      rw [length_cons]
      omega
    simp only [length_cons, decodeRounds, if_neg hbreak,
      flatMap_cons, replicate_zero_plain, bind, Except.bind]
    by_cases hclean : wire.Clean
    · have hpositions : ∀ width start : Nat, start + width * (used.length + 1) =
            start + width + width * used.length := by
        intro width start
        rw [Nat.mul_succ]
        omega
      rw [decodeFieldElements_clean _ _ _ _ _ _ hclean]
      simp only [reassembleBytes_eq]
      rw [hloop cursor, hpositions, hpositions]
      simp [hclean, unpackRounds]
    · constructor
      · intro hdecode
        split at hdecode
        · cases hdecode
        · rename_i result hresult
          exact absurd (clean_of_decodeFieldElements hresult) hclean
      · rintro ⟨hused, -⟩
        exact absurd (hused wire mem_cons_self) hclean

theorem nonZeroFrom_eq_none {start : Nat} :
    nonZeroFrom data start = none ↔ ∀ byte ∈ data.drop start, byte = 0 := by
  simp [nonZeroFrom]

variable (head : FixedBytes 27)

/-- The payload of the first round behind the 4-byte header. -/
def firstPayload (wire : WireRound) : Bytes :=
  head.val ++ wire.unpack.x :: (wire.p1.val ++ wire.unpack.y ::
    (wire.p2.val ++ wire.unpack.z :: wire.p3.val))

@[simp] theorem firstPayload_length (wire : WireRound) : (firstPayload head wire).length = 123 := by
  simp [firstPayload]

theorem decodeFirstRound_eq (back rest : Bytes) (wire : WireRound)
    (head z0 : FixedBytes 27) (z1 z2 z3 : FixedBytes 31) (v l1 l2 l3 : UInt8)
    (hhead : wire.p0.val = v :: l1 :: l2 :: l3 :: head.val)
    (hclean : wire.maskFirst.Clean) :
    ∃ cursor, decodeFieldElements (wire.bytes ++ back) 3
          ⟨copyInto (z0.val ++ 0 :: (z1.val ++ 0 :: (z2.val ++ 0 ::
            (z3.val ++ rest)))) 0 (slice (wire.bytes ++ back) 5 32), 28, 32⟩ =
        .ok ([wire.h1, wire.h2, wire.h3], cursor) ∧
      reassembleBytes [wire.h0, wire.h1, wire.h2, wire.h3] cursor =
        ⟨firstPayload head wire ++ rest, 123, 128⟩ := by
  obtain ⟨h1, h2, h3⟩ := wire.maskFirst_clean.mp hclean
  simp only [TopClear] at h1 h2 h3
  simp [decodeFieldElements, decodeFieldElement, bytes, hhead, h1, h2, h3,
    copyInto_append_right, copyInto_cons_succ, copyInto_zero_append,
    slice_append_right, slice_cons_succ, slice_zero_append,
    getElem?_append_right, bind, Except.bind, pure, Except.pure,
    reassembleBytes, firstPayload, unpack]

theorem maskFirst_clean_of_decode {back : Bytes}
    (hdecode : decodeFieldElements (wire.bytes ++ back) 3
      ⟨output, 28, 32⟩ = .ok result) : wire.maskFirst.Clean := by
  have hclear := decodeFieldElements_topClear hdecode
  refine wire.maskFirst_clean.mpr ⟨?_, ?_, ?_⟩
  · simpa [bytes] using hclear 0 (by decide)
  · simpa [bytes, getElem?_append_right] using hclear 1 (by decide)
  · simpa [bytes, getElem?_append_right] using hclear 2 (by decide)

theorem zeroBuffer_eq (count : Nat) : replicate (123 + count) (0 : UInt8) =
      (default : FixedBytes 27).val ++ 0 :: ((default : FixedBytes 31).val ++
        0 :: ((default : FixedBytes 31).val ++ 0 ::
          ((default : FixedBytes 31).val ++ replicate count 0))) := by
  simp only [replicate_add]
  rfl

/-- What a successful decoding of `wire :: wires` amounts to, in terms of its
header bytes, the run of the loop and the two padding checks. -/
theorem decode_eq_ok_steps {blob : Blob} (wire : WireRound) (back : Bytes)
    (head : FixedBytes 27) (v l1 l2 l3 : UInt8) (hblob : blob.val = wire.bytes ++ back)
    (hhead : wire.p0.val = v :: l1 :: l2 :: l3 :: head.val) :
    decode blob = .ok data ↔ v = 0 ∧ beNat [0, l1, l2, l3] ≤ blobMaxDataSize ∧
      wire.maskFirst.Clean ∧ ∃ cursor,
        decodeRounds (wire.bytes ++ back) (beNat [0, l1, l2, l3]) 1023
          ⟨firstPayload head wire ++ replicate (127 * 1023) 0, 123, 128⟩ = .ok cursor ∧
        (∀ byte ∈ cursor.output.drop (beNat [0, l1, l2, l3]), byte = 0) ∧
        (∀ byte ∈ (wire.bytes ++ back).drop cursor.inputPos, byte = 0) ∧
        data = cursor.output.take (beNat [0, l1, l2, l3]) := by
  have hbuffer : replicate blobMaxDataSize (0 : UInt8) = _ := zeroBuffer_eq (127 * 1023)
  have h0 : (wire.bytes ++ back)[0]? = some wire.h0 := by simp [bytes]
  have h1 : (wire.bytes ++ back)[1]? = some v := by simp [bytes, hhead]
  have h2 : (wire.bytes ++ back)[2]? = some l1 := by simp [bytes, hhead]
  have h3 : (wire.bytes ++ back)[3]? = some l2 := by simp [bytes, hhead]
  have h4 : (wire.bytes ++ back)[4]? = some l3 := by simp [bytes, hhead]
  unfold decode
  simp only [hblob, versionedHashVersionKzg, h0, h1, h2, h3, h4,
    Option.getD_some, hbuffer, bind, Except.bind,
    show blobEncodingRounds - 1 = 1023 from rfl]
  generalize beNat [0, l1, l2, l3] = length
  generalize replicate (127 * 1023) (0 : UInt8) = zeros
  by_cases hversion : v = 0
  · by_cases hlength : length ≤ blobMaxDataSize
    · rw [if_neg (not_not.mpr hversion), if_neg (not_lt.mpr hlength)]
      by_cases hclean : wire.maskFirst.Clean
      · obtain ⟨cursor, hcursor, hround⟩ := decodeFirstRound_eq back zeros wire
          head default default default default v l1 l2 l3 hhead hclean
        rw [hcursor]
        simp only [hround, hversion, hlength, hclean]
        cases decodeRounds (wire.bytes ++ back) length 1023
            ⟨firstPayload head wire ++ zeros, 123, 128⟩ with
        | error => simp
        | ok last =>
          simp only [Except.ok.injEq, exists_eq_left', ← nonZeroFrom_eq_none]
          cases nonZeroFrom last.output length with
          | some => simp
          | none =>
            cases nonZeroFrom (wire.bytes ++ back) last.inputPos with
            | some => simp
            | none => simp [eq_comm]
      · constructor
        · intro hdecode
          split at hdecode
          · cases hdecode
          · rename_i result hresult
            exact absurd (maskFirst_clean_of_decode hresult) hclean
        · rintro ⟨-, -, hmasked, -⟩
          exact absurd hmasked hclean
    · simp [hversion, not_le.mp hlength]
  · simp [hversion]

theorem length_header (l1 l2 l3 : UInt8) : beBytes 3 (beNat [0, l1, l2, l3]) = [l1, l2, l3] := by
  have hvalue : beNat [0, l1, l2, l3] = beNat [l1, l2, l3] := by simp [beNat]
  rw [hvalue]
  exact beBytes_beNat_of_length rfl

/-- Payload bytes and padding split a zero-tailed buffer in one way. -/
theorem take_append_zeros {length : Nat} (hpadding : ∀ byte ∈ output.drop length, byte = 0) :
    output.take length ++ replicate (output.length - length) 0 =
      output := by
  have hdrop : output.drop length = replicate (output.length - length) 0 :=
    eq_replicate_iff.mpr ⟨by simp, hpadding⟩
  rw [← hdrop, take_append_drop]

variable {wires : List WireRound}

theorem unpackRounds_zero (hzero : ∀ byte ∈ wires.flatMap bytes, byte = 0) :
    unpackRounds wires = replicate (127 * wires.length) 0 ∧ ∀ wire ∈ wires, wire.Clean := by
  have hwires := spelled_zero WireRound.eq_zero hzero
  constructor
  · refine eq_replicate_iff.mpr ⟨by simp, fun byte hbyte => ?_⟩
    obtain ⟨wire, hwire, hbyte⟩ := mem_flatMap.mp hbyte
    rw [hwires] at hwire
    rw [eq_of_mem_replicate hwire, unpack_pack, zero_plain] at hbyte
    exact eq_of_mem_replicate hbyte
  · intro wire hwire
    rw [hwires] at hwire
    rw [eq_of_mem_replicate hwire]
    exact zero.pack_clean

theorem flatMap_bytes_of_clean (hclean : ∀ wire ∈ wires, wire.Clean) :
    wires.flatMap bytes = packRounds (wires.map unpack) := by
  rw [packRounds, flatMap_map]
  refine flatMap_congr fun wire hwire => ?_
  rw [pack_unpack (hclean wire hwire)]

theorem zero_of_unpackRounds (hclean : ∀ wire ∈ wires, wire.Clean)
    (hzero : ∀ byte ∈ unpackRounds wires, byte = 0) :
    ∀ byte ∈ wires.flatMap bytes, byte = 0 := by
  have hplain : ∀ byte ∈ (wires.map unpack).flatMap plain, byte = 0 := by
    rw [flatMap_map]
    exact hzero
  rw [flatMap_bytes_of_clean hclean, spelled_zero Round.eq_zero hplain, packRounds_replicate_zero]
  intro byte hbyte
  exact eq_of_mem_replicate hbyte

/-- The first field element holds a 4-byte header and 27 payload bytes. -/
theorem exists_header (payload : FixedBytes 31) : ∃ v l1 l2 l3, ∃ head : FixedBytes 27,
      payload.val = v :: l1 :: l2 :: l3 :: head.val := by
  obtain ⟨data, hlength⟩ := payload
  match data, hlength with
  | v :: l1 :: l2 :: l3 :: head, hlength =>
    exact ⟨v, l1, l2, l3, ⟨head, by simpa using hlength⟩, rfl⟩

theorem unpackRounds_cons {head : FixedBytes 27} {v l1 l2 l3 : UInt8}
    (wires : List WireRound) (hhead : wire.p0.val = v :: l1 :: l2 :: l3 :: head.val) :
    unpackRounds (wire :: wires) = v :: l1 :: l2 :: l3 ::
      (firstPayload head wire ++ unpackRounds wires) := by
  simp [unpackRounds, plain, unpack, firstPayload, hhead]

/-- The accepted blobs: clean field elements whose payload is a version byte,
a length, that many bytes and zeros. -/
theorem decode_eq_ok_iff {blob : Blob} (hblob : blob.val = wire.bytes ++ wires.flatMap bytes)
    (hcount : wires.length = 1023) :
    decode blob = .ok data ↔ data.length ≤ blobMaxDataSize ∧ wire.maskFirst.Clean ∧
        (∀ other ∈ wires, other.Clean) ∧
        blobStream data = unpackRounds (wire :: wires) := by
  obtain ⟨v, l1, l2, l3, head, hhead⟩ := exists_header wire.p0
  rw [decode_eq_ok_steps wire _ head v l1 l2 l3 hblob hhead, unpackRounds_cons wires hhead]
  obtain ⟨used, rest, hwires, hstop, hloop⟩ := decodeRounds_spec
    (beNat [0, l1, l2, l3]) wires wire.bytes (firstPayload head wire)
  simp only [hcount, firstPayload_length, bytes_length] at hloop hstop
  simp only [hloop]
  have hunpack : unpackRounds wires = unpackRounds used ++ unpackRounds rest := by
    simp [hwires, unpackRounds]
  have hremaining : (wire.bytes ++ wires.flatMap bytes).drop
      (128 + 128 * used.length) = rest.flatMap bytes := by
    rw [hwires, flatMap_append, ← append_assoc, drop_left']
    rw [length_append, bytes_length, flatMap_bytes_length]
  have hheader := length_header l1 l2 l3
  have htotal : (firstPayload head wire ++ unpackRounds wires).length =
      blobMaxDataSize := by
    rw [length_append, firstPayload_length, unpackRounds_length, hcount]
    rfl
  constructor
  · rintro ⟨rfl, hlength, hmasked, -, ⟨hused, rfl⟩, houtput, hinput, rfl⟩
    simp only [hremaining] at hinput
    obtain ⟨hrest, hrestClean⟩ := unpackRounds_zero hinput
    rw [← hrest, ← hunpack] at houtput
    rw [← hrest, ← hunpack]
    have htake : ((firstPayload head wire ++ unpackRounds wires).take
        (beNat [0, l1, l2, l3])).length = beNat [0, l1, l2, l3] := by
      rw [length_take, htotal, min_eq_left hlength]
    have hpadded := take_append_zeros houtput
    rw [htotal] at hpadded
    refine ⟨by rw [htake]; exact hlength, hmasked, ?_, ?_⟩
    · intro other hother
      rw [hwires] at hother
      exact (mem_append.mp hother).elim (hused other) (hrestClean other)
    · rw [blobStream, htake, hpadded, hheader]
      rfl
  · rintro ⟨hdata, hmasked, hclean, hstream⟩
    have hsplit : [blobEncodingVersion] ++ (beBytes 3 data.length ++
        (data ++ replicate (blobMaxDataSize - data.length) 0)) = [v] ++ ([l1, l2, l3] ++
            (firstPayload head wire ++ unpackRounds wires)) := hstream
    obtain ⟨hversion, hsplit⟩ := append_inj hsplit rfl
    obtain ⟨hlengthBytes, hpayload⟩ := append_inj hsplit (by simp)
    have hlength : beNat [0, l1, l2, l3] = data.length := by
      have hvalue := congrArg beNat (hheader.trans hlengthBytes.symm)
      have hlt := beNat_lt [l1, l2, l3]
      have hzero : beNat [0, l1, l2, l3] = beNat [l1, l2, l3] := by simp [beNat]
      have hsmall : data.length < 256 ^ 3 := by
        simp only [blobMaxDataSize] at hdata
        omega
      rw [beNat_beBytes, beNat_beBytes, Nat.mod_eq_of_lt hsmall,
        Nat.mod_eq_of_lt (by rw [hzero]; exact hlt)] at hvalue
      exact hvalue
    -- rounds past the declared length carry padding only
    have hrestZero : ∀ byte ∈ unpackRounds rest, byte = 0 := by
      intro byte hbyte
      rcases hstop with rfl | hcovered
      · simp [unpackRounds] at hbyte
      · have hmem : byte ∈ (firstPayload head wire ++ unpackRounds wires).drop data.length := by
          rw [hunpack, ← append_assoc, drop_append_of_le_length]
          · exact mem_append_right _ hbyte
          · rw [length_append, firstPayload_length, unpackRounds_length]
            omega
        rw [← hpayload, drop_left] at hmem
        exact eq_of_mem_replicate hmem
    have hrest : unpackRounds rest = replicate (127 * rest.length) 0 :=
      eq_replicate_iff.mpr ⟨by simp, hrestZero⟩
    have hcleanRest : ∀ other ∈ rest, other.Clean := fun other hother =>
      hclean other (by rw [hwires]; exact mem_append_right _ hother)
    refine ⟨(List.cons.inj hversion).1.symm, by rw [hlength]; exact hdata,
      hmasked, _, ⟨?_, rfl⟩, ?_, ?_, ?_⟩
    · intro other hother
      exact hclean other (by rw [hwires]; exact mem_append_left _ hother)
    · rw [← hrest, ← hunpack, ← hpayload, hlength, drop_left]
      intro byte hbyte
      exact eq_of_mem_replicate hbyte
    · rw [hremaining]
      exact zero_of_unpackRounds hcleanRest hrestZero
    · rw [← hrest, ← hunpack, ← hpayload, hlength, take_left]

end BlobDecoder

end BaseChain
