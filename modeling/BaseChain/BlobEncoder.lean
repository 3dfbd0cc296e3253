/-
The blob encoder, as the buffer writes it performs.  Its early exit leaves
the rest of a zeroed buffer alone, and zero payload packs to zero field
elements, so the whole blob is the packed form of the padded payload.
-/
import BaseChain.BlobRound

namespace BaseChain

open List FixedBytes Round WireRound

def bytesPerBlob : Nat := 131072

/-- Four field elements carry 127 payload bytes, less the 4-byte header. -/
def blobMaxDataSize : Nat := (4 * 31 + 3) * 1024 - 4

def blobEncodingRounds : Nat := 1024

def blobEncodingVersion : UInt8 := 0

def versionedHashVersionKzg : Nat := 1

abbrev Blob := FixedBytes bytesPerBlob

inductive BlobEncodeError where
  | dataTooLarge (size : Nat)
deriving Repr, DecidableEq

variable (data : Bytes)

namespace BlobEncoder

/-- The encoder's output buffer and its two running positions. -/
structure Cursor where
  out : Bytes
  ipos : Nat
  blobPos : Nat

/-- The body of the loop over rounds `1..1024`. -/
def encodeRound (input : Bytes) (cursor : Cursor) : Cursor :=
  let ipos := cursor.ipos
  let pos := cursor.blobPos
  let out := copyInto cursor.out (pos + 1) (slice input ipos (ipos + 31))
  let x := input[ipos + 31]?.getD 0
  let out := copyInto out (pos + 33) (slice input (ipos + 32) (ipos + 63))
  let y := input[ipos + 63]?.getD 0
  let out := copyInto out (pos + 65) (slice input (ipos + 64) (ipos + 95))
  let z := input[ipos + 95]?.getD 0
  let out := copyInto out (pos + 97) (slice input (ipos + 96) (ipos + 127))
  let out := out.set pos (x &&& (0x3F : UInt8))
  let out := out.set (pos + 32)
    (((x >>> 6) &&& (0x03 : UInt8)) <<< 4 ||| (y &&& (0x0F : UInt8)))
  let out := out.set (pos + 64) (z &&& (0x3F : UInt8))
  let out := out.set (pos + 96)
    (((y >>> 4) &&& (0x0F : UInt8)) ||| (((z >>> 6) &&& (0x03 : UInt8)) <<< 4))
  { out := out, ipos := ipos + 127, blobPos := pos + 128 }

def encodeRounds (input : Bytes) (dataLen : Nat) : Nat → Cursor → Cursor
  | 0, cursor => cursor
  | rounds + 1, cursor =>
    if cursor.ipos ≥ dataLen then
      cursor
    else
      encodeRounds input dataLen rounds (encodeRound input cursor)

/-- Round zero, whose first field element also carries the version and the
3-byte length. -/
def encodeFirstRound (input : Bytes) (dataLen : Nat) : Cursor :=
  let lenBe := beBytes 4 dataLen
  let out : Bytes := List.replicate bytesPerBlob 0
  let out := out.set versionedHashVersionKzg blobEncodingVersion
  let out := out.set 2 (lenBe[1]?.getD 0)
  let out := out.set 3 (lenBe[2]?.getD 0)
  let out := out.set 4 (lenBe[3]?.getD 0)
  let out := copyInto out 5 (slice input 0 27)
  let x := input[27]?.getD 0
  let out := copyInto out 33 (slice input 28 59)
  let y := input[59]?.getD 0
  let out := copyInto out 65 (slice input 60 91)
  let z := input[91]?.getD 0
  let out := copyInto out 97 (slice input 92 123)
  let out := out.set 0 (x &&& (0x3F : UInt8))
  let out := out.set 32
    (((x >>> 6) &&& (0x03 : UInt8)) <<< 4 ||| (y &&& (0x0F : UInt8)))
  let out := out.set 64 (z &&& (0x3F : UInt8))
  let out := out.set 96
    (((y >>> 4) &&& (0x0F : UInt8)) ||| (((z >>> 6) &&& (0x03 : UInt8)) <<< 4))
  { out := out, ipos := 123, blobPos := 128 }

def encode : Except BlobEncodeError Bytes := if data.length > blobMaxDataSize then
    .error (.dataTooLarge data.length)
  else
    let input := copyInto (List.replicate blobMaxDataSize 0) 0 data
    let cursor := encodeFirstRound input data.length
    .ok (encodeRounds input data.length (blobEncodingRounds - 1) cursor).out

end BlobEncoder

/-- The 1024 rounds of payload a blob carries: version, 3-byte length, data and
zero padding. -/
def blobStream : Bytes := blobEncodingVersion :: (beBytes 3 data.length ++
    (data ++ List.replicate (blobMaxDataSize - data.length) 0))

theorem blobStream_length {data : Bytes} (hdata : data.length ≤ blobMaxDataSize) :
    (blobStream data).length = 127 * blobEncodingRounds := by
  simp only [blobStream, length_cons, length_append, beBytes_length, length_replicate]
  simp only [blobMaxDataSize, blobEncodingRounds] at hdata ⊢
  omega

namespace BlobEncoder

/-- One loop body replaces 128 bytes of the buffer by one packed round. -/
theorem encodeRound_eq (front back done rest : Bytes) (round : Round) (old : WireRound) :
    encodeRound (front ++ (round.plain ++ back))
        ⟨done ++ (old.bytes ++ rest), front.length, done.length⟩ =
      ⟨done ++ (round.pack.bytes ++ rest), front.length + 127, done.length + 128⟩ := by
  simp [encodeRound, bytes, plain, pack,
    copyInto_append_right, copyInto_cons_succ, copyInto_zero_append,
    slice_append_right, slice_cons_succ, slice_zero_append, getElem?_append_right]

theorem replicate_zero_rounds (count : Nat) : replicate (128 * (count + 1)) (0 : UInt8) =
      zero.pack.bytes ++ replicate (128 * count) 0 := by
  rw [zero_pack_bytes, replicate_append_replicate]
  congr 1
  omega

/-- From a zeroed buffer the loop writes every packed round.  Where it leaves
early the remaining payload is zero, and so are its packed rounds. -/
theorem encodeRounds_out (dataLen : Nat) (rounds : List Round) (front done : Bytes)
    (hpadding : ∀ byte ∈ (front ++ rounds.flatMap plain).drop dataLen, byte = 0) :
    (encodeRounds (front ++ rounds.flatMap plain) dataLen rounds.length
        ⟨done ++ replicate (128 * rounds.length) 0, front.length, done.length⟩).out =
      done ++ packRounds rounds := by
  induction rounds generalizing front done with
  | nil => simp [encodeRounds, packRounds]
  | cons round rest ih =>
    simp only [length_cons, encodeRounds]
    by_cases hbreak : front.length ≥ dataLen
    · have hzero : ∀ byte ∈ (round :: rest).flatMap plain, byte = 0 := by
        intro byte hbyte
        apply hpadding
        rw [drop_append_of_le_length hbreak]
        exact mem_append_right _ hbyte
      rw [if_pos hbreak, spelled_zero Round.eq_zero hzero, packRounds_replicate_zero]
      rfl
    · rw [if_neg hbreak, flatMap_cons, replicate_zero_rounds, encodeRound_eq]
      have hnext := ih (front ++ round.plain) (done ++ round.pack.bytes) (by simpa using hpadding)
      simpa [packRounds] using hnext

theorem encodeFirstRound_eq (dataLen : Nat) (head : FixedBytes 27) (round : Round) (back : Bytes)
    (hhead : round.p0.val = blobEncodingVersion :: (beBytes 3 dataLen ++ head.val)) :
    encodeFirstRound (head.val ++ round.x :: (round.p1.val ++ round.y ::
        (round.p2.val ++ round.z :: (round.p3.val ++ back)))) dataLen =
      ⟨round.pack.bytes ++ replicate (128 * 1023) 0, 123, 128⟩ := by
  have hzero : zero.p0.val = 0 :: 0 :: 0 :: 0 :: (default : FixedBytes 27).val := rfl
  unfold encodeFirstRound
  rw [show bytesPerBlob = 128 * (1023 + 1) from rfl, replicate_zero_rounds]
  generalize replicate (128 * 1023) (0 : UInt8) = rest
  simp [bytes, pack, hzero, hhead, beBytes,
    versionedHashVersionKzg, copyInto_append_right, copyInto_cons_succ,
    copyInto_zero_append, slice_append_right,
    slice_cons_succ, slice_zero_append, getElem?_append_right]

theorem input_eq : copyInto (replicate blobMaxDataSize 0) 0 data =
      data ++ replicate (blobMaxDataSize - data.length) 0 := by
  simp [copyInto]

/-- The encoder writes the packed rounds of the padded payload. -/
theorem encode_eq_packRounds {data : Bytes} {rounds : List Round}
    (hdata : data.length ≤ blobMaxDataSize)
    (hrounds : blobStream data = rounds.flatMap plain) :
    encode data = .ok (packRounds rounds) := by
  have hcount : rounds.length = 1023 + 1 := by
    have hlength := blobStream_length hdata
    rw [hrounds, flatMap_plain_length] at hlength
    exact Nat.eq_of_mul_eq_mul_left (by decide) hlength
  obtain ⟨round, rest, rfl⟩ := exists_cons_of_length_eq_add_one hcount
  have hrest : rest.length = 1023 := by simpa using hcount
  have hinput := input_eq data
  unfold encode
  rw [if_neg (Nat.not_lt.mpr hdata)]
  dsimp only
  generalize copyInto (replicate blobMaxDataSize 0) 0 data = input at hinput ⊢
  have hpadding : ∀ byte ∈ input.drop data.length, byte = 0 := by
    intro byte hbyte
    rw [hinput, drop_left] at hbyte
    exact eq_of_mem_replicate hbyte
  rw [blobStream, ← hinput] at hrounds
  have hlong : 27 ≤ input.length := by
    simp [hinput, blobMaxDataSize] at hdata ⊢
    omega
  obtain ⟨head, tail, rfl⟩ := exists_append 27 hlong
  -- the first field element holds the header and the first 27 bytes
  have hsplit : (blobEncodingVersion :: (beBytes 3 data.length ++ head.val)) ++
      tail = round.p0.val ++ (round.x :: (round.p1.val ++ round.y ::
        (round.p2.val ++ round.z :: (round.p3.val ++ rest.flatMap plain)))) := by
    simpa [plain] using hrounds
  obtain ⟨hhead, rfl⟩ := append_inj hsplit (by simp)
  rw [encodeFirstRound_eq data.length head round _ hhead.symm]
  have hloop := encodeRounds_out data.length rest
    (head.val ++ round.x :: (round.p1.val ++ round.y ::
      (round.p2.val ++ round.z :: round.p3.val))) round.pack.bytes (by simpa using hpadding)
  simp only [hrest, append_assoc, cons_append, length_append,
    length_cons, length_val, bytes_length] at hloop
  exact congrArg Except.ok hloop

end BlobEncoder

end BaseChain
