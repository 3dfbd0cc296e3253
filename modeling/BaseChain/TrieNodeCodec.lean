/-
The decoder of trie nodes.  Reading the encoding of a node gives the node with
its long children hidden behind their hashes.
-/
import BaseChain.TrieNode
import Mathlib.Algebra.Order.BigOperators.Group.List
import Mathlib.Data.List.OfFn

namespace BaseChain

open List Rlp Rlp.Header TrieNode Header
open List (ofFn)
open UInt8 (ofNat)

namespace Rlp

theorem length_header (list : Bool) (payloadLength : Nat) :
    (encode ⟨list, payloadLength⟩).length = lengthOfLength payloadLength := by
  unfold Header.encode lengthOfLength
  split
  · rfl
  · rw [length_cons, beMin_length, add_comm]

theorem length_encodeBytes (data : Bytes) : (encodeBytes data).length = bytesLength data := by
  rcases data with _ | ⟨byte, _ | ⟨next, rest⟩⟩
  · rfl
  · by_cases hsmall : byte.toNat < 0x80
    · simp [encodeBytes, bytesLength, hsmall]
    · simp [encodeBytes, bytesLength, hsmall, length_header, add_comm]
  · simp [encodeBytes, bytesLength, length_header, add_comm]

theorem length_encodeFixed (data : B256) : (encodeFixed data).length = 33 := by
  rw [encodeFixed, length_encodeBytes]
  have hlength := data.property
  unfold bytesLength
  split
  · rename_i byte hdata
    rw [hdata] at hlength
    cases hlength
  · rw [hlength]
    rfl

/-- One item: its header is read and its payload skipped. -/
structure IsItem (item : Bytes) : Prop where
  ne_nil : item ≠ []
  skip : ∀ rest, ∃ header tail, Header.decode (item ++ rest) = .ok (header, tail) ∧
    tail.drop header.payloadLength = rest

variable {payload : Bytes}

theorem isItem_header {header : Header} (hcanon : header.Canonical payload) :
    IsItem (header.encode ++ payload) := by
  refine ⟨by simp [encode_ne_nil], ?_⟩
  intro rest
  refine ⟨header, payload ++ rest, ?_, ?_⟩
  · rw [append_assoc]
    exact decode_encode rest hcanon
  · rw [← hcanon.1, drop_left]

theorem isItem_encodeList (hbound : payload.length < 2 ^ 64) : IsItem (encodeList payload) :=
  isItem_header (list_canonical hbound)

theorem isItem_encodeBytes {data : Bytes} (hbound : data.length < 2 ^ 64) :
    IsItem (encodeBytes data) := by
  rcases data with _ | ⟨byte, _ | ⟨next, rest⟩⟩
  · exact isItem_header ⟨rfl, by simp, by simp⟩
  · by_cases hsmall : byte.toNat < 0x80
    · refine ⟨by simp [encodeBytes, hsmall], ?_⟩
      intro rest
      refine ⟨⟨false, 1⟩, byte :: rest, ?_, rfl⟩
      simp [encodeBytes, hsmall, Header.decode, Header.read]
    · have hitem : IsItem (encode ⟨false, 1⟩ ++ [byte]) := by
        apply isItem_header
        refine ⟨rfl, by simp, ?_⟩
        intro other _ hother
        cases hother
        omega
      simpa [encodeBytes, hsmall] using hitem
  · exact isItem_header ⟨rfl, hbound, by simp⟩

variable {items : List Bytes}

theorem countItems_flatten (hitems : ∀ item ∈ items, IsItem item) (rest : Bytes)
    {fuel : Nat} (hfuel : (items.flatten ++ rest).length ≤ fuel + rest.length) :
    countItems rest.length fuel (items.flatten ++ rest) = .ok items.length := by
  induction items generalizing fuel with
  | nil =>
    cases fuel with
    | zero => rfl
    | succ => simp [countItems]
  | cons item items ih =>
    have hitem := hitems item mem_cons_self
    have hpos := length_pos_of_ne_nil hitem.ne_nil
    rw [flatten_cons, append_assoc] at hfuel ⊢
    rw [length_append, length_append] at hfuel
    cases fuel with
    | zero => omega
    | succ fuel =>
      obtain ⟨header, tail, hdecode, hskip⟩ := hitem.skip (items.flatten ++ rest)
      have hlong : rest.length < (item ++ (items.flatten ++ rest)).length := by
        rw [length_append, length_append]
        omega
      have hcount : countItems rest.length fuel (items.flatten ++ rest) = .ok items.length :=
        ih (fun other hother => hitems other (mem_cons_of_mem _ hother))
          (by rw [length_append]; omega)
      rw [countItems, if_pos hlong, hdecode]
      simp [hskip, hcount]

theorem listElementLength_encodeList (hitems : ∀ item ∈ items, IsItem item)
    (hbound : items.flatten.length < 2 ^ 64) (rest : Bytes) :
    listElementLength (encodeList items.flatten ++ rest) = .ok items.length := by
  rw [encodeList, append_assoc, listElementLength, decode_encode rest (list_canonical hbound)]
  simp only [if_true]
  have hstop : (items.flatten ++ rest).length - items.flatten.length = rest.length := by
    rw [length_append, Nat.add_sub_cancel_left]
  rw [hstop]
  exact countItems_flatten hitems rest (Nat.le_add_right _ _)

end Rlp

variable (nibbles : Nibbles)

theorem length_packNibbles : (packNibbles nibbles).length = nibbles.length / 2 := by
  induction nibbles using packNibbles.induct with
  | case1 high low rest ih =>
    simp only [packNibbles, length_cons]
    omega
  | case2 nibbles hshort =>
    cases nibbles with
    | nil => rfl
    | cons high rest =>
      cases rest with
      | nil => simp [packNibbles]
      | cons low rest => exact absurd rfl (hshort high low rest)

theorem length_encodePathLeaf (leaf : Bool) :
    (encodePathLeaf nibbles leaf).length = nibbles.length / 2 + 1 := by
  unfold encodePathLeaf
  dsimp only
  split
  · rw [length_cons, length_packNibbles]
  · cases nibbles with
    | nil => rename_i hodd; exact absurd rfl hodd
    | cons =>
      rename_i hodd
      rw [length_cons] at hodd
      simp only [length_cons, length_packNibbles]
      omega

/-- A path starts with one of the four codes. -/
theorem encodePathLeaf_cons (leaf : Bool) :
    ∃ code rest, encodePathLeaf nibbles leaf = ofNat code :: rest ∧ code < 64 := by
  unfold encodePathLeaf
  dsimp only
  split
  · refine ⟨_, _, rfl, ?_⟩
    split <;> omega
  · cases nibbles with
    | nil => rename_i hodd; exact absurd rfl hodd
    | cons =>
      refine ⟨_, _, rfl, ?_⟩
      split <;> omega

theorem nibbles_ofNat {high : Nat} (hhigh : high < 16) (low : Nibble) :
    (ofNat (16 * high + low.val)).toNat / 16 = high ∧
      lowNibble (ofNat (16 * high + low.val)) = low := by
  have hbyte : (ofNat (16 * high + low.val)).toNat = 16 * high + low.val :=
    toNat_ofNat_byte (by omega)
  refine ⟨by omega, Fin.ext ?_⟩
  simp only [lowNibble, Fin.ofNat]
  omega

theorem unpackNibbles_packNibbles {nibbles : Nibbles} (heven : nibbles.length % 2 = 0) :
    unpackNibbles (packNibbles nibbles) = nibbles := by
  induction nibbles using packNibbles.induct with
  | case1 high low rest ih =>
    simp only [length_cons] at heven
    obtain ⟨hhigh, htail⟩ := nibbles_ofNat high.isLt low
    have hhead : highNibble (ofNat (16 * high.val + low.val)) = high := by
      apply Fin.ext
      simp only [highNibble, Fin.ofNat]
      omega
    rw [packNibbles, unpackNibbles, flatMap_cons, hhead, htail]
    exact congrArg (fun rest => high :: low :: rest) (ih (by omega))
  | case2 nibbles hshort =>
    cases nibbles with
    | nil => simp [packNibbles, unpackNibbles]
    | cons high rest =>
      cases rest with
      | nil => cases heven
      | cons low rest => exact absurd rfl (hshort high low rest)

/-- The path of a leaf or extension is read back, with its kind. -/
theorem encodePathLeaf_read (leaf : Bool) :
    ∃ byte path, encodePathLeaf nibbles leaf = byte :: path ∧
      (byte.toNat / 16 < 2 ↔ leaf = false) ∧ byte.toNat / 16 < 4 ∧
      (if byte.toNat / 16 % 2 = 1 then [lowNibble byte] else []) ++
        unpackNibbles path = nibbles := by
  unfold encodePathLeaf
  dsimp only
  split
  · rename_i heven
    refine ⟨_, _, rfl, ?_⟩
    rw [unpackNibbles_packNibbles heven]
    cases leaf with
    | true | false => simp
  · rename_i hodd
    cases nibbles with
    | nil => exact absurd rfl hodd
    | cons first =>
      rw [length_cons] at hodd
      refine ⟨_, _, rfl, ?_⟩
      rw [unpackNibbles_packNibbles (by omega)]
      cases leaf with
      | true =>
        obtain ⟨hcode, hlow⟩ := nibbles_ofNat (show 2 + 1 < 16 by decide) first
        simp only [if_true, hcode, hlow]
        simp
      | false =>
        obtain ⟨hcode, hlow⟩ := nibbles_ofNat (show 0 + 1 < 16 by decide) first
        simp only [Bool.false_eq_true, if_false, hcode, hlow]
        simp

namespace TrieNode

theorem length_encodePath (stem : Nibbles) (leaf : Bool) :
    (encodeBytes (encodePathLeaf stem leaf)).length = keyLength stem := by
  obtain ⟨code, rest, hpath, hcode⟩ := encodePathLeaf_cons stem leaf
  have hlength := length_encodePathLeaf stem leaf
  have hbyte : (ofNat code).toNat = code := toNat_ofNat_byte (by omega)
  rw [length_encodeBytes]
  unfold keyLength
  rw [← hlength, hpath]
  cases rest with
  | nil => simp [bytesLength, hbyte, show code < 128 by omega]
  | cons => simp [bytesLength]

variable (keccak : Bytes → B256) {node : TrieNode}

theorem length_pointerWith {encoding : Bytes} (hlength : encoding.length = node.length) :
    (pointerWith keccak node encoding).length = blindedLength node.length := by
  unfold pointerWith blindedLength
  split
  · exact length_encodeFixed _
  · exact hlength

/-- The length of a list whose items have given lengths. -/
theorem length_flatten_ofFn {count : Nat} {items : Fin count → Bytes} {lengths : Fin count → Nat}
    (hlengths : ∀ index, (items index).length = lengths index) :
    (ofFn items).flatten.length = (ofFn lengths).sum := by
  rw [length_flatten, map_ofFn]
  congr 2
  funext index
  exact hlengths index

theorem length_encode (node : TrieNode) : (node.encode keccak).length = node.length := by
  induction node with
  | empty => rfl
  | blinded => exact length_encodeFixed _
  | leaf =>
    rw [encode, length_append, length_append, length_header, length_encodePath, length_encodeBytes]
    rfl
  | extension stem node ih =>
    simp only [encode, length_append, length_header,
      length_encodePath, length_pointerWith keccak ih]
    rfl
  | branch stack ih =>
    simp only [encode, length_append, length_header,
      length_flatten_ofFn fun index => length_pointerWith keccak (ih index)]
    rfl

/-- A node as the decoder builds it: a child that is not hidden has a short
encoding, and everything fits into memory. -/
def Decoded : TrieNode → Prop
  | .empty => True
  | .blinded _ => True
  | .leaf stem value => (leaf stem value).payloadLength < 2 ^ 64
  | .extension stem node =>
    (extension stem node).payloadLength < 2 ^ 64 ∧ Decoded node ∧
      (node.length < 32 ∨ ∃ commitment, node = .blinded commitment)
  | .branch stack => ∀ index, Decoded (stack index) ∧
      ((stack index).length < 32 ∨ ∃ commitment, stack index = .blinded commitment)

theorem pointerWith_of_decoded
    (hchild : node.length < 32 ∨ ∃ commitment, node = .blinded commitment) :
    pointerWith keccak node (node.encode keccak) = node.encode keccak := by
  unfold pointerWith
  rcases hchild with hshort | ⟨commitment, rfl⟩
  · rw [if_neg (not_le.mpr hshort)]
  · rfl

theorem payloadLength_leaf (stem : Nibbles) (value : Bytes) :
    (leaf stem value).payloadLength = (encodeBytes (encodePathLeaf stem true) ++
        encodeBytes value).length := by
  rw [length_append, length_encodePath, length_encodeBytes]
  rfl

theorem payloadLength_extension (stem : Nibbles) (node : TrieNode) :
    (extension stem node).payloadLength = (encodeBytes (encodePathLeaf stem false) ++
        pointerWith keccak node (node.encode keccak)).length := by
  rw [length_append, length_encodePath, length_pointerWith keccak (length_encode keccak node)]
  rfl

variable (stack : Fin 17 → TrieNode)

theorem payloadLength_branch : (branch stack).payloadLength =
      (ofFn fun index => pointerWith keccak (stack index)
        ((stack index).encode keccak)).flatten.length := by
  rw [length_flatten_ofFn fun index =>
    length_pointerWith keccak (length_encode keccak (stack index))]
  rfl

theorem encode_leaf (stem : Nibbles) (value : Bytes) : (leaf stem value).encode keccak =
      encodeList (encodeBytes (encodePathLeaf stem true) ++ encodeBytes value) := by
  rw [encode, encodeList, payloadLength_leaf]

theorem encode_extension (stem : Nibbles) (node : TrieNode) : (extension stem node).encode keccak =
      encodeList (encodeBytes (encodePathLeaf stem false) ++
        pointerWith keccak node (node.encode keccak)) := by
  rw [encode, encodeList, payloadLength_extension keccak]

theorem encode_branch : (branch stack).encode keccak =
      encodeList (ofFn fun index => pointerWith keccak (stack index)
        ((stack index).encode keccak)).flatten := by
  rw [encode, encodeList, payloadLength_branch keccak]

theorem payloadLength_branch_lt : (branch stack).payloadLength < 2 ^ 64 := by
  have hentry : ∀ index, blindedLength (stack index).length ≤ 33 := by
    intro index
    unfold blindedLength
    split <;> omega
  have hbound := sum_le_card_nsmul (ofFn fun index => blindedLength (stack index).length) 33 (by
      intro length hlength
      obtain ⟨index, rfl⟩ := mem_ofFn.mp hlength
      exact hentry index)
  rw [length_ofFn] at hbound
  exact lt_of_le_of_lt hbound (by decide)

/-- Every encoding is one item. -/
theorem isItem_encode (hdecoded : Decoded node) : IsItem (node.encode keccak) := by
  have hfixed : ∀ data : B256, IsItem (encodeFixed data) := by
    intro data
    apply isItem_encodeBytes
    rw [data.property]
    decide
  cases node with
  | empty => exact @Rlp.isItem_encodeBytes [] (by simp)
  | blinded commitment => exact hfixed commitment
  | leaf =>
    rw [encode_leaf]
    apply isItem_encodeList
    rw [← payloadLength_leaf]
    exact hdecoded
  | extension =>
    rw [encode_extension]
    apply isItem_encodeList
    rw [← payloadLength_extension]
    exact hdecoded.1
  | branch stack =>
    rw [encode_branch]
    apply isItem_encodeList
    rw [← payloadLength_branch]
    exact payloadLength_branch_lt stack

theorem stackOf_ofFn : stackOf (ofFn stack) = some stack := by
  unfold stackOf
  rw [dif_pos (length_ofFn)]
  congr 1
  funext index
  exact get_ofFn stack _

variable {stem : Nibbles} {value : Bytes} (hbound : (leaf stem value).payloadLength < 2 ^ 64)

include hbound in
/-- Read the payload of a leaf. -/
theorem decodeLeafOrExtension_leaf
    (decodeNode : Bytes → Except Error (TrieNode × Bytes)) (rest : Bytes) :
    decodeLeafOrExtension decodeNode (encodeBytes (encodePathLeaf stem true) ++
        (encodeBytes value ++ rest)) = .ok (.leaf stem value, rest) := by
  rw [payloadLength_leaf, length_append] at hbound
  obtain ⟨byte, path, hpath, hkind, hcode, hstem⟩ := encodePathLeaf_read stem true
  have hpathLength := length_le_encodeBytes (encodePathLeaf stem true)
  have hvalueLength := length_le_encodeBytes value
  have hlarge : ¬ byte.toNat / 16 < 2 := fun hsmall => by
    cases hkind.mp hsmall
  unfold decodeLeafOrExtension
  rw [decodePayload_encodeBytes _ (by omega), hpath]
  dsimp only
  rw [if_neg hlarge, if_pos hcode, decodePayload_encodeBytes _ (by omega), hstem]

variable {rest : Bytes}

/-- Read the payload of an extension. -/
theorem decodeLeafOrExtension_extension {pointer : Bytes}
    (hbound : (encodePathLeaf stem false).length < 2 ^ 64)
    {decodeNode : Bytes → Except Error (TrieNode × Bytes)}
    (hnode : decodeNode (pointer ++ rest) = .ok (node, rest)) :
    decodeLeafOrExtension decodeNode
      (encodeBytes (encodePathLeaf stem false) ++ (pointer ++ rest)) =
        .ok (.extension stem node, rest) := by
  obtain ⟨byte, path, hpath, hkind, hcode, hstem⟩ := encodePathLeaf_read stem false
  unfold decodeLeafOrExtension
  rw [decodePayload_encodeBytes _ hbound, hpath]
  dsimp only
  rw [if_pos (hkind.mpr rfl), hnode]
  rw [hstem]

/-- The list case of the decoder. -/
theorem decodeWith_list {items : List Bytes} (hitems : ∀ item ∈ items, Rlp.IsItem item)
    (hbound : items.flatten.length < 2 ^ 64) (fuel : Nat) (rest : Bytes) :
    decodeWith (fuel + 1) (encodeList items.flatten ++ rest) = if items.length = 17 then
        match decodeList (decodeWith fuel)
          (encodeList items.flatten ++ rest) with
        | .error error => .error error
        | .ok (nodes, rest) =>
          match stackOf nodes with
          | none => .error .unexpectedLength
          | some stack => .ok (.branch stack, rest)
      else if items.length = 2 then
        match decodeLeafOrExtension (decodeWith fuel)
          (items.flatten ++ rest) with
        | .error _ => .error .unexpectedList
        | .ok result => .ok result
      else .error .unexpectedLength := by
  have hheader : Rlp.Header.decode (encodeList items.flatten ++ rest) =
      .ok (⟨true, items.flatten.length⟩, items.flatten ++ rest) := by
    rw [encodeList, append_assoc]
    exact decode_encode rest (list_canonical hbound)
  rw [decodeWith, hheader]
  simp only [listElementLength_encodeList hitems hbound rest]
  all_goals rfl

/-- The string case of the decoder. -/
theorem decodeWith_blinded (commitment : B256) (fuel : Nat) (rest : Bytes) :
    decodeWith (fuel + 1) (encodeFixed commitment ++ rest) = .ok (.blinded commitment, rest) := by
  have hlength := commitment.property
  have hheader : Rlp.Header.decode (encodeFixed commitment ++ rest) =
      .ok (⟨false, 32⟩, commitment.val ++ rest) := by
    have hcanon : Rlp.Header.Canonical ⟨false, 32⟩ commitment.val := by
      refine ⟨hlength, by decide, ?_⟩
      intro byte _ hbyte
      rw [hbyte] at hlength
      cases hlength
    have hencode : encodeFixed commitment = Rlp.Header.encode ⟨false, 32⟩ ++ commitment.val := by
      unfold encodeFixed encodeBytes
      split
      · rename_i byte hbyte
        rw [hbyte] at hlength
        cases hlength
      · rw [hlength]
    rw [hencode, append_assoc]
    exact decode_encode rest hcanon
  have hfixed : decodeFixed 32 (encodeFixed commitment ++ rest) = .ok (commitment, rest) :=
    decodeFixed_encodeBytes commitment rest (by decide)
  rw [decodeWith, hheader]
  simp [hfixed]

variable {fuel : Nat}

/-- A list of two items is a leaf or an extension. -/
theorem decodeWith_pair {first second : Bytes} (hfirst : IsItem first)
    (hsecond : IsItem second) (hbound : (first ++ second).length < 2 ^ 64)
    (hpayload : decodeLeafOrExtension (decodeWith fuel)
      (first ++ (second ++ rest)) = .ok (node, rest)) :
    decodeWith (fuel + 1) (encodeList (first ++ second) ++ rest) = .ok (node, rest) := by
  have hflatten : first ++ second = [first, second].flatten := by simp
  rw [hflatten, decodeWith_list, if_neg (by simp), if_pos (by simp), ← hflatten,
    append_assoc, hpayload]
  · intro item hitem
    simp only [mem_cons, not_mem_nil, or_false] at hitem
    rcases hitem with rfl | rfl
    · exact hfirst
    · exact hsecond
  · rw [← hflatten]
    exact hbound

include hbound in
theorem decodeWith_leaf (fuel : Nat) (rest : Bytes) :
    decodeWith (fuel + 1) ((leaf stem value).encode keccak ++ rest) =
      .ok (.leaf stem value, rest) := by
  have hpayload := decodeLeafOrExtension_leaf hbound (decodeWith fuel) rest
  rw [payloadLength_leaf] at hbound
  have hlengths := hbound
  rw [length_append] at hlengths
  have hpath := length_le_encodeBytes (encodePathLeaf stem true)
  have hvalue := length_le_encodeBytes value
  rw [encode_leaf]
  exact decodeWith_pair (isItem_encodeBytes (by omega))
    (isItem_encodeBytes (by omega)) hbound hpayload

theorem decodeWith_extension (hbound : (extension stem node).payloadLength < 2 ^ 64)
    (hnode : Decoded node)
    (hchild : node.length < 32 ∨ ∃ commitment, node = .blinded commitment)
    (hread : decodeWith fuel (node.encode keccak ++ rest) = .ok (node, rest)) :
    decodeWith (fuel + 1) ((extension stem node).encode keccak ++ rest) =
        .ok (.extension stem node, rest) := by
  rw [payloadLength_extension keccak, pointerWith_of_decoded keccak hchild] at hbound
  have hlengths := hbound
  rw [length_append] at hlengths
  have hpath := length_le_encodeBytes (encodePathLeaf stem false)
  rw [encode_extension, pointerWith_of_decoded keccak hchild]
  exact decodeWith_pair (isItem_encodeBytes (by omega)) (isItem_encode keccak hnode) hbound
    (decodeLeafOrExtension_extension (by omega) hread)

variable {stack : Fin 17 → TrieNode}

theorem encode_branch_of_decoded (hdecoded : Decoded (.branch stack)) :
    (branch stack).encode keccak = encodeList ((ofFn stack).flatMap (encode keccak)) := by
  rw [encode_branch, flatMap, map_ofFn]
  congr 3
  funext index
  exact pointerWith_of_decoded keccak (hdecoded index).2

theorem decodeWith_branch (hdecoded : Decoded (.branch stack)) (rest : Bytes)
    (hread : ∀ index rest, decodeWith fuel ((stack index).encode keccak ++ rest) =
      .ok (stack index, rest)) :
    decodeWith (fuel + 1) ((branch stack).encode keccak ++ rest) = .ok (.branch stack, rest) := by
  have hbound : ((ofFn stack).map (encode keccak)).flatten.length < 2 ^ 64 := by
    have hbranch := payloadLength_branch_lt stack
    rw [payloadLength_branch keccak] at hbranch
    rw [map_ofFn]
    convert hbranch using 5 with index
    exact (pointerWith_of_decoded keccak (hdecoded index).2).symm
  rw [encode_branch_of_decoded keccak hdecoded]
  have hlist : decodeList (decodeWith fuel) (encodeList
      ((ofFn stack).flatMap (encode keccak)) ++ rest) = .ok (ofFn stack, rest) := by
    apply decodeList_encodeList _ rest hbound
    · intro node hnode rest
      obtain ⟨index, rfl⟩ := mem_ofFn.mp hnode
      exact hread index rest
    · intro node hnode
      obtain ⟨index, rfl⟩ := mem_ofFn.mp hnode
      exact (isItem_encode keccak (hdecoded index).1).ne_nil
  rw [flatMap] at hlist ⊢
  rw [decodeWith_list _ hbound, if_pos (by simp), hlist]
  · dsimp only
    rw [stackOf_ofFn]
  · intro item hitem
    obtain ⟨node, hnode, rfl⟩ := mem_map.mp hitem
    obtain ⟨index, rfl⟩ := mem_ofFn.mp hnode
    exact isItem_encode keccak (hdecoded index).1

include keccak in
/-- The encoding of a child is shorter than that of its branch. -/
theorem length_lt_branch (hdecoded : Decoded (.branch stack)) (index : Fin 17) :
    (stack index).length < (branch stack).length := by
  have hmem : (stack index) ∈ ofFn stack := mem_ofFn.mpr ⟨index, rfl⟩
  have hle := @Rlp.length_le_flatMap _ (encode keccak) _ _ hmem
  rw [← length_encode keccak, ← length_encode keccak,
    encode_branch_of_decoded keccak hdecoded, encodeList, length_append, length_header]
  have hheader : 0 < lengthOfLength ((ofFn stack).flatMap (encode keccak)).length := by
    unfold lengthOfLength
    split <;> omega
  omega

theorem length_lt_extension {stem : Nibbles} {node : TrieNode}
    (hchild : node.length < 32 ∨ ∃ commitment, node = .blinded commitment) :
    node.length < (extension stem node).length := by
  have hblinded : blindedLength node.length = node.length := by
    unfold blindedLength
    rcases hchild with hshort | ⟨commitment, rfl⟩
    · rw [if_neg (not_le.mpr hshort)]
    · rfl
  have hpayload : (extension stem node).payloadLength =
      keyLength stem + blindedLength node.length := rfl
  have hlength : (extension stem node).length = lengthOfLength (extension stem node).payloadLength +
        (extension stem node).payloadLength := rfl
  have hkey : 0 < keyLength stem := by
    unfold keyLength
    dsimp only
    split <;> omega
  omega

theorem one_le_length (node : TrieNode) : 1 ≤ node.length := by
  unfold length lengthWith
  have hheader : ∀ payload, 1 ≤ lengthOfLength payload + payload := by
    intro payload
    unfold lengthOfLength
    split <;> omega
  split
  · exact le_refl _
  · omega
  · exact hheader _

/-- What the decoder builds is read back from its encoding. -/
theorem decodeWith_encode (hdecoded : Decoded node) (hfuel : node.length ≤ fuel) (rest : Bytes) :
    decodeWith fuel (node.encode keccak ++ rest) = .ok (node, rest) := by
  induction node generalizing fuel rest with
  | empty =>
    obtain ⟨fuel, rfl⟩ := Nat.exists_eq_add_of_le' hfuel
    change decodeWith (fuel + 1) _ = _
    simp [decodeWith, encode, Rlp.Header.decode, Rlp.Header.read]
  | blinded commitment =>
    obtain ⟨fuel, rfl⟩ := Nat.exists_eq_add_of_le' hfuel
    exact decodeWith_blinded commitment (fuel + 32) rest
  | leaf stem value =>
    have hpos := one_le_length (.leaf stem value)
    obtain ⟨fuel, rfl⟩ := Nat.exists_eq_add_of_le' (hpos.trans hfuel)
    exact decodeWith_leaf keccak hdecoded fuel rest
  | extension stem node ih =>
    obtain ⟨hbound, hnode, hchild⟩ := hdecoded
    have hlt := @length_lt_extension stem node hchild
    obtain ⟨fuel, rfl⟩ := Nat.exists_eq_add_of_le'
      ((one_le_length (.extension stem node)).trans hfuel)
    exact decodeWith_extension keccak hbound hnode hchild (ih hnode (by omega) rest)
  | branch stack ih =>
    obtain ⟨fuel, rfl⟩ := Nat.exists_eq_add_of_le' ((one_le_length (.branch stack)).trans hfuel)
    apply decodeWith_branch keccak hdecoded rest
    intro index rest
    have hlt := length_lt_branch keccak hdecoded index
    exact ih index (hdecoded index).1 (by omega) rest

theorem decode_encode (hdecoded : Decoded node) (rest : Bytes) :
    decode (node.encode keccak ++ rest) = .ok (node, rest) := by
  apply decodeWith_encode keccak hdecoded
  rw [length_append, length_encode]
  exact Nat.le_add_right _ _

end TrieNode

end BaseChain
