/-
Which byte strings the span batch decoder accepts.  Every column is read exactly
as it is written, with one exception: a protected bit column that ends too early
is filled up with zero bytes.
-/
import BaseChain.RawSpanBatch
import BaseChain.SpanTransactionsRoundTrip

namespace BaseChain

open Reader Reader.Reads SpanBatchBits SpanBatchTransactions Rlp SpanBatchEip8130TransactionData
open SpanBatchPrefix

namespace SpanBatchBits

variable {bitLength : Nat}

/-- Two bit lists of the same size with the same bits are equal. -/
theorem Fits.ext {left right : SpanBatchBits} (hleft : left.Fits bitLength)
    (hright : right.Fits bitLength) (hbits : ∀ index < bitLength,
      left.value.testBit index = right.value.testBit index) : left = right := by
  have hvalue : left.value = right.value := by
    apply Nat.eq_of_testBit_eq
    intro index
    by_cases hindex : index < bitLength
    · exact hbits index hindex
    · have hpow : 2 ^ bitLength ≤ 2 ^ index :=
        Nat.pow_le_pow_right (by decide) (le_of_not_gt hindex)
      have hlow := (bitLen_le_iff left bitLength).mp hleft.bitLen_le
      have hhigh := (bitLen_le_iff right bitLength).mp hright.bitLen_le
      rw [Nat.testBit_lt_two_pow (lt_of_lt_of_le hlow hpow),
        Nat.testBit_lt_two_pow (lt_of_lt_of_le hhigh hpow)]
  have hbytes : left.bytes = right.bytes := by
    rw [← beBytes_beNat_of_length hleft.length_eq, ← beBytes_beNat_of_length hright.length_eq]
    exact congrArg _ hvalue
  exact congrArg SpanBatchBits.mk hbytes

/-- A bit list read from an empty buffer has no bits, or is filled up. -/
theorem decode_exact {buf rest : Bytes} {bits : SpanBatchBits}
    (hdecode : decode bitLength buf = .ok (bits, rest))
    (hrest : 0 < bitLength → rest ≠ []) :
    bits.Fits bitLength ∧ buf = bits.bytes ++ rest := by
  obtain ⟨hfits, hexact | ⟨hnil, missing, hmissing, hbytes⟩⟩ := decode_eq_ok hdecode
  · exact ⟨hfits, hexact⟩
  · by_cases hpos : 0 < bitLength
    · exact absurd hnil (hrest hpos)
    · have hlength := hfits.length_eq
      have hzero : bitLength = 0 := Nat.eq_zero_of_not_pos hpos
      rw [hbytes, hzero, List.length_append, List.length_replicate] at hlength
      have hbuffer : bufferLen 0 = 0 := rfl
      omega

end SpanBatchBits

variable {varint : Varint} {rest buf : Bytes}

namespace SpanBatchTransactions

section Exact

theorem readList_eq_ok {data : Bytes} (hread : readList buf = .ok (data, rest)) :
    ∃ payload, data = encodeList payload ∧
      data.length ≤ maxSpanBatchElements ∧ buf = data ++ rest := by
  unfold readList at hread
  cases hheader : Header.decode buf with
  | error => simp [hheader] at hread
  | ok pair =>
    obtain ⟨header, tail⟩ := pair
    simp only [hheader] at hread
    by_cases hlist : header.list = false
    · simp [if_pos hlist] at hread
    · rw [if_neg hlist] at hread
      by_cases hbig : maxSpanBatchElements < header.payloadLength + header.encode.length
      · simp [if_pos hbig] at hread
      · rw [if_neg hbig] at hread
        obtain ⟨payload, back, -, hbuf, htotal⟩ := decode_list hheader (Bool.of_not_eq_false hlist)
        rw [htotal] at hread hbig
        obtain ⟨hlength, hsplit⟩ := chunk_eq_ok hread
        have hdata : data = encodeList payload := by
          rw [hbuf] at hsplit
          exact ((List.append_inj hsplit hlength.symm).1).symm
        exact ⟨payload, hdata, by omega, hsplit⟩

variable {entry : Bytes × OpTxType}

theorem readTyped_eq_ok {front : Bytes} {typeByte : UInt8}
    (hread : readTyped front typeByte buf = .ok (entry, rest)) :
    ∃ payload, entry.1 = front ++ encodeList payload ∧
      (encodeList payload).length ≤ maxSpanBatchElements ∧
      OpTxType.ofByte? typeByte = some entry.2 ∧
      buf = encodeList payload ++ rest := by
  obtain ⟨data, middle, hdata, htype⟩ := bind_eq_ok.mp hread
  obtain ⟨payload, rfl, hcap, hbuf⟩ := readList_eq_ok hdata
  cases hbyte : OpTxType.ofByte? typeByte with
  | none => simp [hbyte, fail] at htype
  | some =>
    simp only [hbyte] at htype
    obtain ⟨rfl, rfl⟩ := pure_eq_ok.mp htype
    exact ⟨payload, rfl, hcap, rfl, hbuf⟩

/-- Accepted transaction data is read from itself alone. -/
theorem readTxData_eq_ok (hread : readTxData buf = .ok (entry, rest)) :
    buf = entry.1 ++ rest ∧ Reads readTxData entry.1 entry := by
  cases buf with
  | nil => cases hread
  | cons first =>
    obtain ⟨data, txType⟩ := entry
    by_cases hsmall : first.toNat ≤ 0x7F
    · simp only [readTxData, if_pos hsmall] at hread
      obtain ⟨payload, hdata, hcap, htype, hbuf⟩ := readTyped_eq_ok hread
      subst hdata
      constructor
      · rw [hbuf]
        rfl
      · intro other
        have hreads := @readTyped_reads [first] payload first txType htype hcap other
        simp only [List.cons_append, readTxData, if_pos hsmall]
        exact hreads
    · simp only [readTxData, if_neg hsmall] at hread
      obtain ⟨payload, hdata, hcap, htype, hbuf⟩ := readTyped_eq_ok hread
      subst hdata
      refine ⟨hbuf, fun other => ?_⟩
      have hreads := @readTyped_reads [] payload 0 txType htype hcap other
      cases hpayload : encodeList payload with
      | nil => exact absurd hpayload (encodeList_ne_nil payload)
      | cons head =>
        rw [hpayload] at hbuf hreads
        have hhead : first = head := (List.cons.inj hbuf).1
        rw [← hhead] at hreads ⊢
        simp only [List.cons_append, List.nil_append, readTxData, if_neg hsmall] at hreads ⊢
        exact hreads

variable {bits : SpanBatchBits} {sigs : List Signature}

theorem readSigs_eq_ok {index count : Nat}
    (hread : readSigs bits index count buf = .ok (sigs, rest)) :
    sigs.length = count ∧ buf = sigs.flatMap encodeSig ++ rest ∧
      ∀ offset sig, sigs[offset]? = some sig → bits.getBit (index + offset) = some sig.yParity := by
  induction count generalizing index buf sigs with
  | zero =>
    obtain ⟨rfl, rfl⟩ := pure_eq_ok.mp hread
    refine ⟨rfl, rfl, fun offset sig hsig => ?_⟩
    cases hsig
  | succ count ih =>
    obtain ⟨yParity, afterBit, hparity, hread⟩ := bind_eq_ok.mp hread
    obtain ⟨data, middle, hdata, hread⟩ := bind_eq_ok.mp hread
    obtain ⟨tail, htail, rfl⟩ := bind_pure_eq_ok.mp hread
    obtain ⟨hlength, hmiddle, hbits⟩ := ih htail
    obtain ⟨hwidth, hsplit⟩ := chunk_eq_ok hdata
    have hbit : bits.getBit index = some yParity ∧ buf = afterBit := by
      rw [readParity] at hparity
      cases hget : bits.getBit index with
      | none => simp [hget, fail] at hparity
      | some =>
        simp only [hget] at hparity
        obtain ⟨rfl, rfl⟩ := pure_eq_ok.mp hparity
        exact ⟨rfl, rfl⟩
    have hsig : encodeSig
        { r := Word.ofBytes 32 (data.take 32)
          s := Word.ofBytes 32 (data.drop 32), yParity } = data := by
      rw [encodeSig, Word.toBytes_ofBytes (by rw [List.length_take]; omega),
        Word.toBytes_ofBytes (by rw [List.length_drop]; omega), List.take_append_drop]
    refine ⟨by rw [List.length_cons, hlength], ?_, ?_⟩
    · rw [hbit.2, hsplit, hmiddle, List.flatMap_cons, hsig, List.append_assoc]
    · intro offset sig hoffset
      cases offset with
      | zero =>
        cases hoffset
        exact hbit.1
      | succ offset =>
        rw [add_comm offset 1, ← add_assoc]
        exact hbits offset sig hoffset

theorem flatMap_encodeSig_ne_nil (hpos : 0 < sigs.length) (rest : Bytes) :
    sigs.flatMap encodeSig ++ rest ≠ [] := by
  cases sigs with
  | nil => cases hpos
  | cons =>
    intro hnil
    have hlength := congrArg List.length hnil
    simp [encodeSig] at hlength

variable {next txs : SpanBatchTransactions}

/-- Signatures cannot be read from a buffer that ends too early, so their
parity bits are never filled up. -/
theorem decodeTxSigs_eq_ok (hdecode : txs.decodeTxSigs buf = .ok (next, rest)) :
    ∃ sigs, next = { txs with txSigs := sigs } ∧ sigs.length = txs.totalBlockTxCount ∧
      buf = ((yParityBits sigs).bytes ++ sigs.flatMap encodeSig) ++ rest := by
  obtain ⟨bits, middle, hbits, hdecode⟩ := bind_eq_ok.mp hdecode
  obtain ⟨sigs, hsigs, rfl⟩ := bind_pure_eq_ok.mp hdecode
  obtain ⟨hlength, hmiddle, hparity⟩ := readSigs_eq_ok hsigs
  obtain ⟨hfits, hbuf⟩ := decode_exact hbits (by
    intro hpos
    rw [hmiddle]
    exact flatMap_encodeSig_ne_nil (by omega) _)
  have hsame : yParityBits sigs = bits := by
    have hyParity := yParityBits_fits sigs
    rw [hlength] at hyParity
    apply hyParity.ext hfits
    intro index hindex
    have hslot : index < sigs.length := by omega
    have hsig := List.getElem?_eq_getElem hslot
    have hget := hparity index _ hsig
    rw [zero_add, hfits.getBit hindex] at hget
    rw [Option.some.inj hget]
    apply testBit_ofBits
    rw [List.getElem?_map, hsig]
    rfl
  refine ⟨sigs, rfl, hlength, ?_⟩
  rw [hsame, hbuf, hmiddle, List.append_assoc]

theorem decodeContractCreationBits_eq_ok
    (hdecode : txs.decodeContractCreationBits buf = .ok (next, rest))
    (hrest : 0 < txs.totalBlockTxCount → rest ≠ []) :
    ∃ bits, next = { txs with contractCreationBits := bits } ∧ bits.Fits txs.totalBlockTxCount ∧
      txs.totalBlockTxCount ≤ maxSpanBatchElements ∧ buf = bits.bytes ++ rest := by
  unfold decodeContractCreationBits at hdecode
  by_cases hbig : maxSpanBatchElements < txs.totalBlockTxCount
  · simp [if_pos hbig, tooBig, fail] at hdecode
  · rw [if_neg hbig] at hdecode
    obtain ⟨bits, hbits, rfl⟩ := bind_pure_eq_ok.mp hdecode
    obtain ⟨hfits, hbuf⟩ := decode_exact hbits hrest
    exact ⟨bits, rfl, hfits, le_of_not_gt hbig, hbuf⟩

theorem decodeTxTos_eq_ok (hdecode : txs.decodeTxTos buf = .ok (next, rest)) :
    ∃ tos, next = { txs with txTos := tos } ∧
      tos.length = txs.totalBlockTxCount - txs.contractCreationCount ∧
      buf = tos.flatMap (·.val) ++ rest := by
  unfold decodeTxTos at hdecode
  by_cases hpanic : txs.totalBlockTxCount < txs.contractCreationCount
  · simp [if_pos hpanic, fail] at hdecode
  · rw [if_neg hpanic] at hdecode
    obtain ⟨tos, htos, rfl⟩ := bind_pure_eq_ok.mp hdecode
    obtain ⟨hlength, hbuf⟩ := many_eq_ok htos (fixed_exact _ _)
    exact ⟨tos, rfl, hlength, hbuf⟩

theorem decodeTxData_eq_ok (hdecode : txs.decodeTxData buf = .ok (next, rest)) :
    ∃ data types, next = { txs with
        txData := data, txTypes := types
        legacyTxCount := txs.legacyTxCount + types.count .legacy } ∧
      data.length = txs.totalBlockTxCount ∧
      types.length = txs.totalBlockTxCount ∧
      (∀ entry ∈ data.zip types, Reads readTxData entry.1 entry) ∧
      buf = data.flatMap id ++ rest := by
  obtain ⟨entries, hentries, rfl⟩ := bind_pure_eq_ok.mp hdecode
  have hexact : Exact readTxData (·.1) := fun _ _ _ hread => (readTxData_eq_ok hread).1
  obtain ⟨hlength, hbuf⟩ := many_eq_ok hentries hexact
  have hreads := many_forall hentries fun _ _ _ hread => (readTxData_eq_ok hread).2
  refine ⟨entries.map (·.1), entries.map (·.2), rfl, ?_, ?_, ?_, ?_⟩
  · rw [List.length_map, hlength]
  · rw [List.length_map, hlength]
  · rw [List.zip_map', List.map_id'']
    · exact hreads
    · exact fun _ => rfl
  · rw [List.flatMap_map, hbuf]
    rfl

theorem decodeEip8130Proof_eq_ok (hminimal : varint.Minimal) {proof : Bytes}
    (hdecode : decodeEip8130Proof varint buf = .ok (proof, rest)) :
    proof.length ≤ maxAuthProofBytes ∧ buf = encodeProof varint proof ++ rest := by
  obtain ⟨length, middle, hlength, hdecode⟩ := bind_eq_ok.mp hdecode
  have hbuf := hminimal.exact _ _ _ _ hlength
  by_cases hbig : maxAuthProofBytes < length.val
  · simp [if_pos hbig, tooBig, fail] at hdecode
  · rw [if_neg hbig] at hdecode
    obtain ⟨hwidth, hmiddle⟩ := chunk_eq_ok hdecode
    have hword : Fin.ofNat (256 ^ 8) proof.length = length := by rw [hwidth, Fin.ofNat_val_eq_self]
    refine ⟨by omega, ?_⟩
    rw [encodeProof, hword, hbuf, hmiddle, List.append_assoc]

theorem decodeProofs_eq_ok (hminimal : varint.Minimal) {proofs : Bytes × Bytes}
    (hdecode : decodeProofs varint buf = .ok (proofs, rest)) :
    (proofs.1.length ≤ maxAuthProofBytes ∧ proofs.2.length ≤ maxAuthProofBytes) ∧
      buf = encodeProofs varint proofs ++ rest := by
  obtain ⟨sender, middle, hsender, hdecode⟩ := bind_eq_ok.mp hdecode
  obtain ⟨payer, hpayer, rfl⟩ := bind_pure_eq_ok.mp hdecode
  obtain ⟨hsenderCap, hbuf⟩ := decodeEip8130Proof_eq_ok hminimal hsender
  obtain ⟨hpayerCap, hmiddle⟩ := decodeEip8130Proof_eq_ok hminimal hpayer
  refine ⟨⟨hsenderCap, hpayerCap⟩, ?_⟩
  rw [encodeProofs, hbuf, hmiddle, List.append_assoc]

variable {authData : List (Bytes × Bytes)}

section

variable (hinverse : varint.Inverse)
include hinverse

/-- An encoded word takes at least one byte. -/
theorem encode_ne_nil (value : U64) : varint.encode value ≠ [] := by
  intro hnil
  have hall : ∀ other : U64, other = value := by
    intro other
    have hother := hinverse other []
    have hvalue := hinverse value (varint.encode other ++ [])
    rw [hnil, List.nil_append] at hvalue
    rw [hvalue] at hother
    exact ((Prod.mk.inj (Option.some.inj hother)).1).symm
  have hzero : (0 : U64) = 1 := (hall 0).trans (hall 1).symm
  revert hzero
  decide

theorem flatMap_encodeProofs_ne_nil (hpos : authData ≠ []) (rest : Bytes) :
    authData.flatMap (encodeProofs varint) ++ rest ≠ [] := by
  cases authData with
  | nil => exact absurd rfl hpos
  | cons => simp [encodeProofs, encodeProof, encode_ne_nil hinverse]

/-- The columns after the transaction data.  The protected bits may be cut off,
when no proofs follow them. -/
theorem decodeTail_eq_ok (hminimal : varint.Minimal) {result : SpanBatchTransactions} (hdecode : (do
      let txs ← txs.decodeTxNonces varint
      let txs ← txs.decodeTxGases varint
      let txs ← txs.decodeProtectedBits
      txs.decodeEip8130AuthData varint : Reader Fault SpanBatchTransactions)
        buf = .ok (result, rest)) :
    ∃ nonces gases bits authData,
      result = { txs with
        txNonces := nonces, txGases := gases, protectedBits := bits
        eip8130AuthData := authData } ∧
      nonces.length = txs.totalBlockTxCount ∧
      gases.length = txs.totalBlockTxCount ∧ bits.Fits txs.legacyTxCount ∧
      authData.length = txs.txTypes.count .eip8130 ∧
      (∀ proofs ∈ authData, proofs.1.length ≤ maxAuthProofBytes ∧
          proofs.2.length ≤ maxAuthProofBytes) ∧
      ∃ short, buf = nonces.flatMap varint.encode ++ (gases.flatMap varint.encode ++ short) ∧
        (short = bits.bytes ++ (authData.flatMap (encodeProofs varint) ++ rest) ∨
          rest = [] ∧ authData = [] ∧ ∃ missing, 0 < missing ∧
            bits.bytes = short ++ List.replicate missing 0) := by
  obtain ⟨first, afterNonces, hfirst, hdecode⟩ := bind_eq_ok.mp hdecode
  obtain ⟨nonces, hnonces, rfl⟩ := bind_pure_eq_ok.mp hfirst
  obtain ⟨second, afterGases, hsecond, hdecode⟩ := bind_eq_ok.mp hdecode
  obtain ⟨gases, hgases, rfl⟩ := bind_pure_eq_ok.mp hsecond
  obtain ⟨third, afterBits, hthird, hdecode⟩ := bind_eq_ok.mp hdecode
  obtain ⟨authData, hauth, rfl⟩ := bind_pure_eq_ok.mp hdecode
  obtain ⟨hnoncesLength, hbuf⟩ := many_eq_ok hnonces (hminimal.exact _)
  obtain ⟨hgasesLength, hmiddle⟩ := many_eq_ok hgases (hminimal.exact _)
  unfold decodeProtectedBits at hthird
  split at hthird
  · simp [tooBig, fail] at hthird
  · obtain ⟨bits, hbits, rfl⟩ := bind_pure_eq_ok.mp hthird
    have hexact : Exact (decodeProofs varint) (encodeProofs varint) :=
      fun _ _ _ hread => (decodeProofs_eq_ok hminimal hread).2
    obtain ⟨hauthLength, hauthBuf⟩ := many_eq_ok hauth hexact
    have hcaps := many_forall hauth fun _ _ _ hread => (decodeProofs_eq_ok hminimal hread).1
    obtain ⟨hfits, hsplit⟩ := decode_eq_ok hbits
    refine ⟨nonces, gases, bits, authData, rfl, hnoncesLength, hgasesLength,
      hfits, hauthLength, hcaps, afterGases, ?_, ?_⟩
    · rw [hbuf, hmiddle]
    · rcases hsplit with hfull | ⟨hnil, missing, hmissing, hbytes⟩
      · exact .inl (by rw [hfull, hauthBuf])
      · rw [hauthBuf] at hnil
        by_cases hempty : authData = []
        · rw [hempty] at hnil
          exact .inr ⟨hnil, hempty, missing, hmissing, hbytes⟩
        · exact absurd hnil (flatMap_encodeProofs_ne_nil hinverse hempty _)

/-- What the decoder of the columns accepts: a wire form, or one whose protected
bits are cut off. -/
theorem decode_eq_ok (hminimal : varint.Minimal) {total : Nat}
    (hdecode : decode varint { empty with totalBlockTxCount := total } buf = .ok (txs, rest)) :
    txs.Aligned ∧ txs.totalBlockTxCount = total ∧ (buf = wire varint txs ++ rest ∨
        rest = [] ∧ txs.eip8130AuthData = [] ∧ ∃ missing, 0 < missing ∧
            missing ≤ txs.protectedBits.bytes.length ∧
            wire varint txs = buf ++ List.replicate missing 0) := by
  obtain ⟨first, afterCreation, hfirst, hdecode⟩ := bind_eq_ok.mp hdecode
  obtain ⟨second, afterSigs, hsecond, hdecode⟩ := bind_eq_ok.mp hdecode
  obtain ⟨third, afterTos, hthird, hdecode⟩ := bind_eq_ok.mp hdecode
  obtain ⟨fourth, afterData, hfourth, hdecode⟩ := bind_eq_ok.mp hdecode
  obtain ⟨sigs, hsecondEq, hsigs, hafterCreation⟩ := decodeTxSigs_eq_ok hsecond
  have hcount : first.totalBlockTxCount = total := by
    unfold decodeContractCreationBits at hfirst
    split at hfirst
    · simp [tooBig, fail] at hfirst
    · obtain ⟨bits, -, rfl⟩ := bind_pure_eq_ok.mp hfirst
      rfl
  obtain ⟨creation, rfl, hmade, hcap, hbuf⟩ := decodeContractCreationBits_eq_ok hfirst (by
      intro hpos
      rw [hafterCreation, List.append_assoc]
      intro hnil
      exact flatMap_encodeSig_ne_nil (by rw [hsigs, hcount]; exact hpos) _
        (List.append_eq_nil_iff.mp hnil).2)
  subst hsecondEq
  obtain ⟨tos, rfl, htos, hafterSigs⟩ := decodeTxTos_eq_ok hthird
  obtain ⟨data, types, rfl, hdata, htypes, hentries, hafterTos⟩ := decodeTxData_eq_ok hfourth
  obtain ⟨nonces, gases, bits, authData, rfl, hnonces, hgases, hbits, hauth,
    hcaps, short, hafterData, hend⟩ := decodeTail_eq_ok hinverse hminimal hdecode
  refine ⟨?_, rfl, ?_⟩
  · exact
      { creation := hmade, sigs := hsigs, tos := htos, data := hdata
        types := htypes, entries := hentries, nonces := hnonces
        gases := hgases, legacy := zero_add _, protectedFits := hbits
        auth := hauth, proofs := hcaps, count_le := hcap }
  · rcases hend with hfull | ⟨hnil, hempty, missing, hmissing, hbytes⟩
    · refine .inl ?_
      rw [hbuf, hafterCreation, hafterSigs, hafterTos, hafterData, hfull]
      simp [wire, encodeTxTos, encodeTxData, encodeTxNonces, encodeTxGases, encodeEip8130AuthData]
    · refine .inr ⟨hnil, hempty, missing, hmissing, ?_, ?_⟩
      · simp only [hbytes, List.length_append, List.length_replicate]
        omega
      · rw [hbuf, hafterCreation, hafterSigs, hafterTos, hafterData]
        simp [wire, encodeTxTos, encodeTxData, encodeTxNonces, encodeTxGases,
          encodeEip8130AuthData, hbytes, hempty]

end

variable {missing : Nat} {short : Bytes}

theorem decode_short_bits {bitLength : Nat} (hfits : bits.Fits bitLength)
    (hmissing : 0 < missing) (hbytes : bits.bytes = short ++ List.replicate missing 0) :
    SpanBatchBits.decode bitLength short = .ok (bits, []) := by
  have hlength := hfits.length_eq
  rw [hbytes, List.length_append, List.length_replicate] at hlength
  have hshort : short.length < bufferLen bitLength := by omega
  have hfill : bufferLen bitLength - short.length = missing := by omega
  have hbits : (⟨short ++ List.replicate missing 0⟩ : SpanBatchBits) = bits := by rw [← hbytes]
  simp only [SpanBatchBits.decode, if_pos hshort, hfill, hbits]
  rw [if_neg (not_lt.mpr hfits.bitLen_le), List.drop_of_length_le (le_of_lt hshort)]

/-- A string that lacks the end of the second part of another one. -/
theorem exists_cut {front back zeros : Bytes} (hwhole : front ++ back = buf ++ zeros)
    (hle : zeros.length ≤ back.length) : ∃ short, back = short ++ zeros ∧ buf = front ++ short := by
  obtain ⟨short, hbuf, hback⟩ | ⟨extra, hfront, hzeros⟩ := List.append_eq_append_iff.mp hwhole
  · exact ⟨short, hback, hbuf⟩
  · rw [hzeros, List.length_append] at hle
    obtain rfl : extra = [] := List.length_eq_zero_iff.mp (by omega)
    exact ⟨[], hzeros.symm, by simp [hfront]⟩

/-- Protected bits that end too early are filled up, when no proofs follow. -/
theorem Aligned.decode_short (hinverse : varint.Inverse) (halign : txs.Aligned)
    (hauth : txs.eip8130AuthData = []) (hmissing : 0 < missing)
    (hle : missing ≤ txs.protectedBits.bytes.length)
    (hwire : wire varint txs = buf ++ List.replicate missing 0) :
    decode varint { empty with totalBlockTxCount := txs.totalBlockTxCount } buf =
      .ok (txs, []) := by
  rw [wire_eq, encodeEip8130AuthData, hauth, List.flatMap_nil, List.append_nil] at hwire
  obtain ⟨short, hshort, rfl⟩ := exists_cut hwire (by rwa [List.length_replicate])
  apply halign.decode_front hinverse (decode_short_bits halign.protectedFits hmissing hshort)
  rw [← halign.auth, hauth]
  rfl

end Exact

end SpanBatchTransactions

namespace RawSpanBatch

open SpanBatchPayload

/-- A span batch that can stand on the wire: its counts are within the limits
and agree with its columns. -/
structure Aligned (batch : RawSpanBatch) : Prop where
  count_pos : batch.payload.blockCount.val ≠ 0
  count_le : batch.payload.blockCount.val ≤ maxSpanBatchElements
  origin : batch.payload.originBits.Fits batch.payload.blockCount.val
  counts : batch.payload.blockTxCounts.length = batch.payload.blockCount.val
  counts_le : ∀ count ∈ batch.payload.blockTxCounts, count.val ≤ maxSpanBatchElements
  total : batch.payload.txs.totalBlockTxCount = totalTxCount batch.payload.blockTxCounts
  txs : batch.payload.txs.Aligned

/-- Everything before the transactions. -/
def head (varint : Varint) (batch : RawSpanBatch) : Bytes := batch.front.encodePrefix varint ++
    (varint.encode batch.payload.blockCount ++ (batch.payload.originBits.bytes ++
        batch.payload.blockTxCounts.flatMap varint.encode))

def wire (varint : Varint) (batch : RawSpanBatch) : Bytes :=
  batch.head varint ++ batch.payload.txs.wire varint

variable {batch : RawSpanBatch}

theorem Aligned.encode_eq (halign : batch.Aligned) :
    batch.encode varint = .ok (batch.wire varint) := by
  have htxs : batch.payload.txs.encode varint =
      .ok (batch.payload.txs.wire varint) := halign.txs.encode_eq
  rw [encode, encodePayload, halign.origin.encode, htxs]
  simp only [wire, head, List.append_assoc]
  rfl

variable {counts : List U64}

theorem decodeTxs_eq (hne : counts ≠ []) (hcap : totalTxCount counts ≤ maxSpanBatchElements) :
    decodeTxs varint counts = SpanBatchTransactions.decode varint
      { SpanBatchTransactions.empty with
        totalBlockTxCount := totalTxCount counts } := by
  have hempty : ¬ counts.isEmpty = true := by
    rw [List.isEmpty_iff]
    exact hne
  have hword : ¬ u64Max < totalTxCount counts := by
    unfold u64Max
    unfold maxSpanBatchElements at hcap
    omega
  rw [decodeTxs, if_neg hempty, if_neg hword, if_neg (not_lt.mpr hcap)]

/-- The head is read back, and the transactions are read from what follows. -/
theorem Aligned.decode_head (hinverse : varint.Inverse) (halign : batch.Aligned)
    (htxs : SpanBatchTransactions.decode varint
      { SpanBatchTransactions.empty with
        totalBlockTxCount := batch.payload.txs.totalBlockTxCount } buf =
          .ok (batch.payload.txs, rest)) :
    decode varint (batch.head varint ++ buf) = .ok (batch, rest) := by
  have hfront : Reader.Reads (decodePrefix varint) (batch.front.encodePrefix varint) batch.front :=
    (hinverse.reads _ _).bind ((hinverse.reads _ _).bind
      ((fixed_reads _ _).bind ((fixed_reads _ _).map _)))
  have hcount : Reader.Reads (decodeBlockCount varint)
      (varint.encode batch.payload.blockCount) batch.payload.blockCount := by
    have hpure := Reader.Reads.pure (ε := Fault) batch.payload.blockCount
    rw [← List.append_nil (varint.encode batch.payload.blockCount)]
    apply (hinverse.reads _ _).bind
    rw [if_neg (not_lt.mpr halign.count_le), if_neg halign.count_pos]
    exact hpure
  have horigin : Reader.Reads (decodeOriginBits batch.payload.blockCount)
      batch.payload.originBits.bytes batch.payload.originBits := by
    rw [decodeOriginBits, if_neg (not_lt.mpr halign.count_le)]
    exact halign.origin.reads
  have hcounts : Reader.Reads ((decodeBlockTxCount varint).many batch.payload.blockCount.val)
      (batch.payload.blockTxCounts.flatMap varint.encode)
      batch.payload.blockTxCounts := by
    rw [← halign.counts]
    apply Reader.Reads.many
    intro count hmem
    rw [← List.append_nil (varint.encode count)]
    apply (hinverse.reads _ _).bind
    rw [if_neg (not_lt.mpr (halign.counts_le count hmem))]
    exact Reader.Reads.pure count
  have hne : batch.payload.blockTxCounts ≠ [] := by
    intro hnil
    have hlength := halign.counts
    rw [hnil] at hlength
    exact halign.count_pos hlength.symm
  rw [halign.total] at htxs
  rw [← decodeTxs_eq hne (by rw [← halign.total]; exact halign.txs.count_le)] at htxs
  simp only [head, List.append_assoc]
  apply hfront.run_bind
  apply bind_eq_ok.mpr
  refine ⟨batch.payload, rest, ?_, rfl⟩
  apply hcount.run_bind
  apply horigin.run_bind
  apply hcounts.run_bind
  exact bind_eq_ok.mpr ⟨batch.payload.txs, rest, htxs, rfl⟩

theorem Aligned.reads (hinverse : varint.Inverse) (halign : batch.Aligned) :
    Reader.Reads (decode varint) (batch.wire varint) batch := by
  intro rest
  rw [wire, List.append_assoc]
  exact halign.decode_head hinverse (halign.txs.reads hinverse rest)

theorem decodePrefix_exact (hminimal : varint.Minimal) :
    Reader.Exact (decodePrefix varint) (encodePrefix varint) := by
  intro buf front rest hdecode
  obtain ⟨time, afterTime, htime, hdecode⟩ := bind_eq_ok.mp hdecode
  obtain ⟨origin, afterOrigin, horigin, hdecode⟩ := bind_eq_ok.mp hdecode
  obtain ⟨parent, afterParent, hparent, hdecode⟩ := bind_eq_ok.mp hdecode
  obtain ⟨check, hcheck, rfl⟩ := bind_pure_eq_ok.mp hdecode
  rw [hminimal.exact _ _ _ _ htime, hminimal.exact _ _ _ _ horigin,
    fixed_exact _ _ _ _ _ hparent, fixed_exact _ _ _ _ _ hcheck]
  simp [encodePrefix]

variable {count : U64}

theorem decodeBlockCount_eq_ok (hminimal : varint.Minimal)
    (hdecode : decodeBlockCount varint buf = .ok (count, rest)) :
    count.val ≠ 0 ∧ count.val ≤ maxSpanBatchElements ∧ buf = varint.encode count ++ rest := by
  obtain ⟨value, middle, hvalue, hdecode⟩ := bind_eq_ok.mp hdecode
  by_cases hbig : maxSpanBatchElements < value.val
  · simp [if_pos hbig, tooBig, fail] at hdecode
  · by_cases hzero : value.val = 0
    · simp only [if_neg hbig, if_pos hzero, fail, reduceCtorEq] at hdecode
    · rw [if_neg hbig, if_neg hzero] at hdecode
      obtain ⟨rfl, rfl⟩ := pure_eq_ok.mp hdecode
      exact ⟨hzero, le_of_not_gt hbig, hminimal.exact _ _ _ _ hvalue⟩

theorem decodeBlockTxCount_eq_ok (hminimal : varint.Minimal)
    (hdecode : decodeBlockTxCount varint buf = .ok (count, rest)) :
    count.val ≤ maxSpanBatchElements ∧ buf = varint.encode count ++ rest := by
  obtain ⟨value, middle, hvalue, hdecode⟩ := bind_eq_ok.mp hdecode
  by_cases hbig : maxSpanBatchElements < value.val
  · simp [if_pos hbig, tooBig, fail] at hdecode
  · rw [if_neg hbig] at hdecode
    obtain ⟨rfl, rfl⟩ := pure_eq_ok.mp hdecode
    exact ⟨le_of_not_gt hbig, hminimal.exact _ _ _ _ hvalue⟩

theorem decodeTxs_eq_ok {txs : SpanBatchTransactions}
    (hdecode : decodeTxs varint counts buf = .ok (txs, rest)) :
    SpanBatchTransactions.decode varint
      { SpanBatchTransactions.empty with
        totalBlockTxCount := totalTxCount counts } buf = .ok (txs, rest) := by
  by_cases hempty : counts.isEmpty = true
  · simp only [decodeTxs, if_pos hempty, fail, reduceCtorEq] at hdecode
  · by_cases hcap : maxSpanBatchElements < totalTxCount counts
    · simp only [decodeTxs, if_neg hempty, if_pos hcap, ite_self,
        tooBig, fail, reduceCtorEq] at hdecode
    · rwa [decodeTxs_eq _ (le_of_not_gt hcap)] at hdecode
      intro hnil
      exact hempty (List.isEmpty_iff.mpr hnil)

/-- What the decoder of a span batch accepts: a wire form, or one whose last
column is cut off.  The origin bits are never cut off, for a count follows. -/
theorem decode_eq_ok (hinverse : varint.Inverse) (hminimal : varint.Minimal)
    (hdecode : decode varint buf = .ok (batch, rest)) :
    batch.Aligned ∧ (buf = batch.wire varint ++ rest ∨
      rest = [] ∧ batch.payload.txs.eip8130AuthData = [] ∧ ∃ missing, 0 < missing ∧
          missing ≤ batch.payload.txs.protectedBits.bytes.length ∧
          batch.wire varint = buf ++ List.replicate missing 0) := by
  obtain ⟨front, afterFront, hfront, hdecode⟩ := bind_eq_ok.mp hdecode
  obtain ⟨payload, hpayload, rfl⟩ := bind_pure_eq_ok.mp hdecode
  obtain ⟨blockCount, afterCount, hcount, hdecode⟩ := bind_eq_ok.mp hpayload
  obtain ⟨originBits, afterOrigin, horigin, hdecode⟩ := bind_eq_ok.mp hdecode
  obtain ⟨counts, afterCounts, hcounts, hdecode⟩ := bind_eq_ok.mp hdecode
  obtain ⟨txs, htxs, rfl⟩ := bind_pure_eq_ok.mp hdecode
  have hbuf := decodePrefix_exact hminimal _ _ _ hfront
  obtain ⟨hpos, hle, hafterFront⟩ := decodeBlockCount_eq_ok hminimal hcount
  obtain ⟨hlength, hafterOrigin⟩ := many_eq_ok hcounts
    fun _ _ _ hread => (decodeBlockTxCount_eq_ok hminimal hread).2
  have hcaps := many_forall hcounts fun _ _ _ hread => (decodeBlockTxCount_eq_ok hminimal hread).1
  rw [decodeOriginBits, if_neg (not_lt.mpr hle)] at horigin
  obtain ⟨hfits, hafterCount⟩ := decode_exact horigin (by
    intro hblocks hnil
    rw [hafterOrigin] at hnil
    cases counts with
    | nil => exact hpos hlength.symm
    | cons => simp [encode_ne_nil hinverse] at hnil)
  obtain ⟨halign, htotal, hend⟩ := decode_eq_ok hinverse hminimal (decodeTxs_eq_ok htxs)
  refine ⟨⟨hpos, hle, hfits, hlength, hcaps, htotal, halign⟩, ?_⟩
  rcases hend with hfull | ⟨hnil, hauth, missing, hmissing, hmost, hshort⟩
  · refine .inl ?_
    rw [hbuf, hafterFront, hafterCount, hafterOrigin, hfull]
    simp [wire, head]
  · refine .inr ⟨hnil, hauth, missing, hmissing, hmost, ?_⟩
    rw [hbuf, hafterFront, hafterCount, hafterOrigin]
    simp [wire, head, hshort]

/-- The string is a wire form without the last bytes of its protected bits, and
those bytes are zero. -/
def MissingZeros (varint : Varint) (buf : Bytes) : Prop := ∃ batch : RawSpanBatch, batch.Aligned ∧
    batch.payload.txs.eip8130AuthData = [] ∧
    ∃ missing, 0 < missing ∧ missing ≤ batch.payload.txs.protectedBits.bytes.length ∧
      batch.wire varint = buf ++ List.replicate missing 0

theorem MissingZeros.decode (hinverse : varint.Inverse) {missing : Nat}
    (halign : batch.Aligned) (hauth : batch.payload.txs.eip8130AuthData = [])
    (hmissing : 0 < missing)
    (hle : missing ≤ batch.payload.txs.protectedBits.bytes.length)
    (hwire : batch.wire varint = buf ++ List.replicate missing 0) :
    RawSpanBatch.decode varint buf = .ok (batch, []) := by
  obtain ⟨short, hshort, rfl⟩ := exists_cut hwire (by
    rw [List.length_replicate, SpanBatchTransactions.wire_eq, List.length_append, List.length_append]
    omega)
  exact halign.decode_head hinverse (halign.txs.decode_short hinverse hauth hmissing hle hshort)

/-- The bytes a decoded batch was read from are its encoding, and a string cut
off inside an encoding is refused. -/
def CanonicalAt (varint : Varint) (buf : Bytes) : Prop :=
  (∀ batch rest, decode varint buf = .ok (batch, rest) →
    ∃ used, buf = used ++ rest ∧ batch.encode varint = .ok used) ∧
  ∀ batch cut, cut ≠ [] → batch.encode varint = .ok (buf ++ cut) →
    decode varint (buf ++ cut) = .ok (batch, []) →
    ∃ fault, decode varint buf = .error fault

/-- Span batches are canonical on a string exactly when the string is not a wire
form that lacks zero bytes at the end of its protected bits. -/
theorem canonicalAt_iff (hinverse : varint.Inverse) (hminimal : varint.Minimal)
    (buf : Bytes) : CanonicalAt varint buf ↔ ¬ MissingZeros varint buf := by
  constructor
  · rintro ⟨hcanonical, -⟩ ⟨batch, haligned, hauth, missing, hmissing, hle, hwire⟩
    have hdecode := MissingZeros.decode hinverse haligned hauth hmissing hle hwire
    obtain ⟨used, hused, hencode⟩ := hcanonical _ _ hdecode
    rw [haligned.encode_eq, Except.ok.injEq, hwire, ← List.append_nil used, ← hused] at hencode
    have hlength := congrArg List.length hencode
    rw [List.length_append, List.length_replicate] at hlength
    omega
  · intro hwhole
    have hcanonical : ∀ batch rest, decode varint buf = .ok (batch, rest) →
        batch.Aligned ∧ buf = batch.wire varint ++ rest := by
      intro batch rest hdecode
      obtain ⟨haligned, hfull | ⟨-, hauth, hshort⟩⟩ := decode_eq_ok hinverse hminimal hdecode
      · exact ⟨haligned, hfull⟩
      · exact absurd ⟨batch, haligned, hauth, hshort⟩ hwhole
    refine ⟨?_, ?_⟩
    · intro batch rest hdecode
      obtain ⟨haligned, hbuf⟩ := hcanonical batch rest hdecode
      exact ⟨batch.wire varint, hbuf, haligned.encode_eq⟩
    · intro batch cut hcut hencode hdecode
      cases hresult : decode varint buf with
      | error fault => exact ⟨fault, rfl⟩
      | ok pair =>
        -- The same batch would be read from the longer string, with a rest.
        obtain ⟨haligned, hbuf⟩ := hcanonical pair.1 pair.2 hresult
        have hlonger := haligned.reads hinverse (pair.2 ++ cut)
        rw [← List.append_assoc, ← hbuf, hdecode, Except.ok.injEq, Prod.mk.injEq] at hlonger
        exact absurd (List.append_eq_nil_iff.mp hlonger.2.symm).2 hcut

/-- One block with one legacy contract creation, without the byte that holds its
protected bit. -/
def cutBatch : Bytes := List.replicate 42 0 ++ ([1, 0, 1, 1, 0] ++
    (List.replicate 64 0 ++ [0xc3, 0x80, 0x80, 0x80, 0, 0]))

/-- The batch the cut string is read as. -/
def cutResult : RawSpanBatch where
  front :=
    { relTimestamp := 0, l1OriginNum := 0
      parentCheck := ⟨List.replicate 20 0, rfl⟩
      l1OriginCheck := ⟨List.replicate 20 0, rfl⟩ }
  payload :=
    { blockCount := 1, originBits := ⟨[0]⟩, blockTxCounts := [1]
      txs := { SpanBatchTransactions.empty with
        totalBlockTxCount := 1
        contractCreationBits := ⟨[1]⟩
        txSigs := [⟨0, 0, false⟩]
        txData := [[0xc3, 0x80, 0x80, 0x80]]
        txTypes := [.legacy]
        txNonces := [0], txGases := [0], legacyTxCount := 1
        protectedBits := ⟨[0]⟩ } }

theorem decode_cutBatch : decode .leb128 cutBatch = .ok (cutResult, []) := by decide +kernel

theorem encode_cutResult : cutResult.encode .leb128 = .ok (cutBatch ++ [0]) := by decide +kernel

theorem canonicalAt_whole : CanonicalAt .leb128 (cutBatch ++ [0]) := by
  apply (canonicalAt_iff Varint.leb128_inverse Varint.leb128_minimal _).mpr
  rintro ⟨batch, haligned, hauth, missing, hmissing, hle, hwire⟩
  have hdecode := MissingZeros.decode Varint.leb128_inverse haligned hauth hmissing hle hwire
  have hwhole : decode .leb128 (cutBatch ++ [0]) = .ok (cutResult, []) := by
    decide +kernel
  obtain rfl : cutResult = batch := by
    rw [hwhole, Except.ok.injEq, Prod.mk.injEq] at hdecode
    exact hdecode.1
  have hencode : cutResult.encode .leb128 = .ok (cutResult.wire .leb128) := haligned.encode_eq
  rw [encode_cutResult, Except.ok.injEq, hwire] at hencode
  have hnil := List.self_eq_append_right.mp hencode
  rw [List.replicate_eq_nil_iff] at hnil
  omega

/-- The decoder completes the cut string with the byte it lacks. -/
theorem cutBatch_not_canonicalAt : ¬ CanonicalAt .leb128 cutBatch := by
  rintro ⟨hcanonical, -⟩
  obtain ⟨used, hused, hencode⟩ := hcanonical _ _ decode_cutBatch
  rw [encode_cutResult, ← List.append_nil used, ← hused] at hencode
  revert hencode
  decide +kernel

end RawSpanBatch

end BaseChain
