/-
The blob codec as a whole: the batcher's encoder and decoder and the
derivation pipeline's decoder.  The two decoders are compared call by call,
with their different errors related by a map.
-/
import BaseChain.BlobDecoder

namespace BaseChain

open List BlobDecoder WireRound

open BlobDecodeError

variable (blob : Blob)

namespace BlobData

section

variable (data : Bytes)

theorem decodeFieldElement_eq (cursor : DecodeCursor) :
    decodeFieldElement ⟨some data⟩ cursor = (BlobDecoder.decodeFieldElement data cursor).mapError
        toDecodingError := by
  simp only [decodeFieldElement, BlobDecoder.decodeFieldElement]
  split <;> rfl

theorem decodeFieldElements_eq (count : Nat) (cursor : DecodeCursor) :
    decodeFieldElements ⟨some data⟩ count cursor =
      (BlobDecoder.decodeFieldElements data count cursor).mapError
        toDecodingError := by
  induction count generalizing cursor with
  | zero => rfl
  | succ count ih =>
    simp only [decodeFieldElements, BlobDecoder.decodeFieldElements,
      decodeFieldElement_eq, bind, Except.bind]
    cases BlobDecoder.decodeFieldElement data cursor with
    | error => rfl
    | ok pair =>
      simp only [Except.mapError, ih]
      cases BlobDecoder.decodeFieldElements data count pair.2 <;> rfl

theorem decodeRounds_eq (length rounds : Nat) (cursor : DecodeCursor) :
    decodeRounds ⟨some data⟩ length rounds cursor =
      (BlobDecoder.decodeRounds data length rounds cursor).mapError
        toDecodingError := by
  induction rounds generalizing cursor with
  | zero => rfl
  | succ rounds ih =>
    simp only [decodeRounds, BlobDecoder.decodeRounds, decodeFieldElements_eq, bind, Except.bind]
    split
    · rfl
    cases BlobDecoder.decodeFieldElements data 4 cursor with
    | error => rfl
    | ok => simp [Except.mapError, ih]

theorem any_drop_eq_isSome (start : Nat) : (data.drop start).any (· ≠ 0) =
      (BlobDecoder.nonZeroFrom data start).isSome := by
  simp [nonZeroFrom]

/-- Scanning by index sees the same bytes as scanning the tail. -/
theorem any_range_eq_isSome (start : Nat) :
    (range' start (data.length - start)).any (fun index => data[index]?.getD 0 ≠ 0) =
      (nonZeroFrom data start).isSome := by
  rw [← any_drop_eq_isSome, Bool.eq_iff_iff]
  simp only [any_eq_true, mem_range'_1]
  constructor
  · rintro ⟨index, ⟨hlow, hhigh⟩, hbyte⟩
    have hindex : index < data.length := by omega
    refine ⟨data[index], ?_, by simpa [hindex] using hbyte⟩
    rw [mem_iff_getElem?]
    exact ⟨index - start, by simp [Nat.add_sub_cancel' hlow]⟩
  · rintro ⟨byte, hmem, hbyte⟩
    obtain ⟨offset, hoffset⟩ := mem_iff_getElem?.mp hmem
    rw [getElem?_drop] at hoffset
    have hindex := (List.getElem?_eq_some_iff.mp hoffset).1
    exact ⟨start + offset, by omega, by simpa [hoffset] using hbyte⟩

end

/-- On a filled blob the pipeline's decoder is the batcher's decoder, up to
the names of the errors. -/
theorem decode_eq : decode ⟨some blob.val⟩ =
      (BlobDecoder.decode blob).mapError toDecodingError := by
  have hlength : bytesPerBlob = blob.val.length := blob.length_val.symm
  simp only [decode, BlobDecoder.decode, decodeFieldElements_eq,
    decodeRounds_eq, bind, Except.bind, any_drop_eq_isSome, hlength,
    any_range_eq_isSome, show blobEncodingVersion = 0 from rfl]
  split
  · rfl
  split
  · rfl
  cases BlobDecoder.decodeFieldElements blob.val 3 _ with
  | error => rfl
  | ok =>
    simp only [Except.mapError]
    cases BlobDecoder.decodeRounds blob.val _ _ _ with
    | error => rfl
    | ok cursor =>
      simp only []
      cases BlobDecoder.nonZeroFrom cursor.output _ with
      | some => rfl
      | none => cases BlobDecoder.nonZeroFrom blob.val cursor.inputPos <;> rfl

end BlobData

/-- The top two bits of a blob's first byte, the only bits the decoders do not
look at. -/
def Blob.FirstTopClear : Prop := WireRound.TopClear (blob.val[0]?.getD 0)

/-- Every blob is 1024 rounds of field elements. -/
theorem Blob.exists_wires : ∃ (wire : WireRound) (wires : List WireRound),
      blob.val = wire.bytes ++ wires.flatMap bytes ∧ wires.length = 1023 := by
  obtain ⟨wires, hcount, hwires⟩ := exists_spelled bytes_length exists_bytes_append (1023 + 1)
    (show blob.val.length = 128 * (1023 + 1) from blob.length_val)
  obtain ⟨wire, wires, rfl⟩ := exists_cons_of_length_eq_add_one hcount
  exact ⟨wire, wires, hwires, by simpa using hcount⟩

theorem unpackRounds_pack (rounds : List Round) :
    unpackRounds (rounds.map Round.pack) = rounds.flatMap Round.plain := by
  simp [unpackRounds, flatMap_map]

variable {data : Bytes}

/-- A written blob decodes to the payload it was written from. -/
theorem BlobEncoder.encode_decode (hdata : data.length ≤ blobMaxDataSize) :
    ∃ blob : Blob, BlobEncoder.encode data = .ok blob.val ∧ decode blob = .ok data := by
  obtain ⟨rounds, hcount, hrounds⟩ := exists_spelled Round.plain_length Round.exists_plain_append
    (1023 + 1) (blobStream_length hdata)
  have hlength : (packRounds rounds).length = bytesPerBlob := by
    rw [packRounds_length, hcount]
    rfl
  refine ⟨⟨packRounds rounds, hlength⟩, encode_eq_packRounds hdata hrounds, ?_⟩
  obtain ⟨round, rest, rfl⟩ := exists_cons_of_length_eq_add_one hcount
  have hblob : packRounds (round :: rest) = round.pack.bytes ++
      (rest.map Round.pack).flatMap bytes := by
    simp [packRounds, flatMap_map]
  have hfirst : round.pack.maskFirst.Clean := by
    rw [maskFirst_eq_self round.pack_clean.1]
    exact round.pack_clean
  refine (decode_eq_ok_iff hblob (by simpa using hcount)).mpr ⟨hdata, hfirst, ?_, ?_⟩
  · intro other hother
    obtain ⟨round, -, rfl⟩ := mem_map.mp hother
    exact round.pack_clean
  · rw [hrounds, ← unpackRounds_pack, map_cons]

/-- An accepted blob with a clean first byte is the one that is written. -/
theorem BlobDecoder.decode_encode {blob : Blob} (hclear : blob.FirstTopClear)
    (hdecode : BlobDecoder.decode blob = .ok data) :
    BlobEncoder.encode data = .ok blob.val := by
  obtain ⟨wire, wires, hblob, hcount⟩ := blob.exists_wires
  obtain ⟨hdata, hmasked, hclean, hstream⟩ := (decode_eq_ok_iff hblob hcount).mp hdecode
  have hfirst : WireRound.TopClear wire.h0 := by
    simpa [Blob.FirstTopClear, hblob, bytes] using hclear
  rw [maskFirst_eq_self hfirst] at hmasked
  have hall : ∀ other ∈ wire :: wires, other.Clean := by
    intro other hother
    rcases mem_cons.mp hother with rfl | hother
    · exact hmasked
    · exact hclean other hother
  have hwritten : blob.val = packRounds ((wire :: wires).map unpack) := by
    rw [← flatMap_bytes_of_clean hall, hblob, flatMap_cons]
  rw [hwritten]
  refine BlobEncoder.encode_eq_packRounds hdata ?_
  rw [hstream, unpackRounds, flatMap_map]

/-- The blob codec: every payload of at most `blobMaxDataSize` bytes survives
encoding and both decoders; the decoders accept the same blobs with the same
result; and a blob with a clean first byte is determined by its payload. -/
theorem blobCodec_roundTrip_and_canonical :
    (∀ data : Bytes, data.length ≤ blobMaxDataSize →
      ∃ blob : Blob, BlobEncoder.encode data = .ok blob.val ∧
        BlobDecoder.decode blob = .ok data ∧
        BlobData.decode ⟨some blob.val⟩ = .ok data) ∧
    (∀ (blob : Blob) (data : Bytes),
      BlobDecoder.decode blob = .ok data ↔
        BlobData.decode ⟨some blob.val⟩ = .ok data) ∧
    (∀ (blob : Blob) (data : Bytes), blob.FirstTopClear →
      BlobDecoder.decode blob = .ok data →
      BlobEncoder.encode data = .ok blob.val) ∧
    (∀ (left right : Blob) (data : Bytes),
      left.FirstTopClear → right.FirstTopClear →
      BlobDecoder.decode left = .ok data →
      BlobDecoder.decode right = .ok data → left = right) := by
  have hagree : ∀ (blob : Blob) (data : Bytes), BlobDecoder.decode blob = .ok data ↔
        BlobData.decode ⟨some blob.val⟩ = .ok data := by
    intro blob data
    rw [BlobData.decode_eq]
    cases BlobDecoder.decode blob <;> simp [Except.mapError]
  refine ⟨?_, hagree, ?_, ?_⟩
  · intro data hdata
    obtain ⟨blob, hencode, hdecode⟩ := BlobEncoder.encode_decode hdata
    exact ⟨blob, hencode, hdecode, (hagree blob data).mp hdecode⟩
  · intro blob data hclear hdecode
    exact BlobDecoder.decode_encode hclear hdecode
  · intro left right data hleft hright hdecodeLeft hdecodeRight
    have hencodeLeft := BlobDecoder.decode_encode hleft hdecodeLeft
    have hencodeRight := BlobDecoder.decode_encode hright hdecodeRight
    exact FixedBytes.ext (Except.ok.inj (hencodeLeft.symm.trans hencodeRight))

/-- A three-byte payload survives the codec. -/
theorem blobCodec_threeBytes :
    ∃ blob : Blob, BlobEncoder.encode [1, 2, 3] = .ok blob.val ∧
      BlobDecoder.decode blob = .ok [1, 2, 3] ∧
      BlobData.decode ⟨some blob.val⟩ = .ok [1, 2, 3] :=
  blobCodec_roundTrip_and_canonical.1 [1, 2, 3] (by decide)

end BaseChain
