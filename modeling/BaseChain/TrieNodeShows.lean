/-
A node shows a trie when it is the trie with some nodes of long encoding hidden
behind their hashes.  Hiding a node changes no commitment, and a provider that
knows the trie reveals it again.
-/
import BaseChain.TrieNodeCodec

namespace BaseChain

open List

abbrev Trie := Patricia Nibble Bytes

namespace TrieNode

/-- A trie without hidden nodes, as a node. -/
def ofTrie : Trie → TrieNode
  | .empty => .empty
  | .leaf stem value => .leaf stem value
  | .extension stem node => .extension stem (ofTrie node)
  | .branch children => .branch fun index =>
    if h : index.val < 16 then ofTrie (children ⟨index, h⟩) else .empty

variable (keccak : Bytes → B256) {node : TrieNode}

section Commitments

/-- The same node to a parent: it is referred to in the same way and has the same
commitment. -/
structure Same (node other : TrieNode) : Prop where
  length : blindedLength node.length = blindedLength other.length
  pointer : pointerWith keccak node (node.encode keccak) =
    pointerWith keccak other (other.encode keccak)
  blind : node.blind keccak = other.blind keccak

theorem Same.refl (node : TrieNode) : Same keccak node node := ⟨rfl, rfl, rfl⟩

variable {keccak}

variable {other : TrieNode}

/-- A list node with the same encoding is the same node. -/
theorem Same.of_encode (hencode : node.encode keccak = other.encode keccak)
    (hblind : node.blind keccak = other.blind keccak) :
    Same keccak node other := by
  have hlength : node.length = other.length := by
    rw [← length_encode keccak, ← length_encode keccak, hencode]
  refine ⟨by rw [hlength], ?_, hblind⟩
  unfold pointerWith
  rw [hlength]
  split
  · exact congrArg Rlp.encodeFixed hblind
  · exact hencode

theorem encode_extension_congr (hsame : Same keccak node other) (stem : Nibbles) :
    (extension stem node).encode keccak = (extension stem other).encode keccak := by
  rw [encode_extension, encode_extension, hsame.pointer]

theorem Same.extension {node other : TrieNode} (hsame : Same keccak node other) (stem : Nibbles) :
    Same keccak (.extension stem node) (.extension stem other) := by
  have hencode := encode_extension_congr hsame stem
  exact .of_encode hencode (congrArg keccak hencode)

theorem encode_branch_congr {stack other : Fin 17 → TrieNode}
    (hsame : ∀ index, Same keccak (stack index) (other index)) :
    (branch stack).encode keccak = (branch other).encode keccak := by
  rw [encode_branch, encode_branch]
  congr 3
  funext index
  exact (hsame index).pointer

theorem Same.branch {stack other : Fin 17 → TrieNode}
    (hsame : ∀ index, Same keccak (stack index) (other index)) :
    Same keccak (.branch stack) (.branch other) := by
  have hencode := encode_branch_congr hsame
  exact .of_encode hencode (congrArg keccak hencode)

theorem Same.blinded (hlong : 32 ≤ node.length) :
    Same keccak (.blinded (node.blind keccak)) node := by
  have hblinded : 32 ≤ (TrieNode.blinded (node.blind keccak)).length := by
    change 32 ≤ 33
    omega
  refine ⟨?_, ?_, rfl⟩
  · rw [blindedLength, blindedLength, if_pos hlong, if_pos hblinded]
  · rw [pointerWith, pointerWith, if_pos hlong]
    rfl

variable (keccak)

/-- A child as the decoder sees it. -/
def hide (node revealed : TrieNode) : TrieNode :=
  if 32 ≤ node.length then .blinded (node.blind keccak) else revealed

/-- A node as the decoder sees it: its long children are hidden. -/
def reveal : TrieNode → TrieNode
  | .empty => .empty
  | .blinded commitment => .blinded commitment
  | .leaf stem value => .leaf stem value
  | .extension stem node => .extension stem (hide keccak node (reveal node))
  | .branch stack => .branch fun index =>
    hide keccak (stack index) (reveal (stack index))

variable {keccak}

variable {revealed : TrieNode}

theorem Same.hide (hsame : Same keccak revealed node) :
    Same keccak (hide keccak node revealed) node := by
  unfold TrieNode.hide
  split
  · rename_i hlong
    exact .blinded hlong
  · exact hsame

theorem same_reveal (node : TrieNode) : Same keccak (reveal keccak node) node := by
  induction node with
  | empty | blinded commitment | leaf stem value => exact .refl keccak _
  | extension stem _ ih => exact ih.hide.extension stem
  | branch _ ih => exact .branch fun index => (ih index).hide

theorem encode_reveal (node : TrieNode) :
    (reveal keccak node).encode keccak = node.encode keccak := by
  cases node with
  | empty | blinded commitment | leaf stem value => rfl
  | extension stem node => exact encode_extension_congr (same_reveal node).hide stem
  | branch stack => exact encode_branch_congr fun index => (same_reveal (stack index)).hide

/-- The payloads of a node and its children fit into memory. -/
def Fits : TrieNode → Prop
  | .empty => True
  | .blinded _ => True
  | .leaf stem value => (TrieNode.leaf stem value).payloadLength < 2 ^ 64
  | .extension stem node =>
    (TrieNode.extension stem node).payloadLength < 2 ^ 64 ∧ Fits node
  | .branch stack => ∀ index, Fits (stack index)

theorem hide_cases (hsame : Same keccak revealed node) : (hide keccak node revealed).length < 32 ∨
      ∃ commitment, hide keccak node revealed = .blinded commitment := by
  unfold hide
  split
  · exact Or.inr ⟨_, rfl⟩
  · refine Or.inl ?_
    have hlength := hsame.length
    unfold blindedLength at hlength
    split at hlength
    · omega
    · omega

theorem Decoded.hide (hdecoded : Decoded revealed) : Decoded (hide keccak node revealed) := by
  unfold TrieNode.hide
  split
  · trivial
  · exact hdecoded

theorem decoded_reveal (hfits : Fits node) : Decoded (reveal keccak node) := by
  induction node with
  | empty | blinded commitment => trivial
  | leaf => exact hfits
  | extension stem node ih =>
    have hsame : Same keccak (hide keccak node (reveal keccak node)) node := (same_reveal node).hide
    refine ⟨?_, (ih hfits.2).hide, hide_cases (same_reveal node)⟩
    have hpayload : (extension stem (hide keccak node (reveal keccak node))).payloadLength =
        (extension stem node).payloadLength := congrArg (keyLength stem + ·) hsame.length
    rw [hpayload]
    exact hfits.1
  | branch _ ih =>
    intro index
    exact ⟨(ih index (hfits index)).hide, hide_cases (same_reveal _)⟩

theorem decode_append {node : TrieNode} (hfits : Fits node) (rest : Bytes) :
    decode (node.encode keccak ++ rest) = .ok (reveal keccak node, rest) := by
  rw [← encode_reveal node]
  exact decode_encode keccak (decoded_reveal hfits) rest

/-- Decoding the encoding of a node reveals it. -/
theorem decode_reveal {node : TrieNode} (hfits : Fits node) :
    decode (node.encode keccak) = .ok (reveal keccak node, []) := by
  rw [← append_nil (node.encode keccak)]
  exact decode_append hfits []

/-- The encoding of a node has the length that is computed for it, and in front
of any bytes it is read back as the node with its long children hidden. -/
theorem encoding_roundTrip (keccak : Bytes → B256) (node : TrieNode) (hfits : Fits node)
    (suffix : Bytes) : node.length = (node.encode keccak).length ∧
      decode (node.encode keccak ++ suffix) = .ok (reveal keccak node, suffix) :=
  ⟨(length_encode keccak node).symm, decode_append hfits suffix⟩

theorem encoding_roundTrip_hidden :
    decode ((TrieNode.extension [0] (.leaf [] (replicate 32 7))).encode
      (fun _ => ⟨replicate 32 1, rfl⟩) ++ [5]) =
      .ok (.extension [0] (.blinded ⟨replicate 32 1, rfl⟩), [5]) :=
  (encoding_roundTrip (fun _ => ⟨replicate 32 1, rfl⟩) (.extension [0] (.leaf [] (replicate 32 7)))
    ⟨by decide, by rw [Fits]; decide⟩ [5]).2

end Commitments

section Provider

variable (fetcher : Provider)

/-- The provider answers the commitment of a trie with its decoded preimage; the
commitment is not that of the empty trie. -/
def Served (trie : Trie) : Prop := 32 ≤ (ofTrie trie).length →
    (ofTrie trie).blind keccak ≠ emptyRootHash keccak ∧
      ∀ node, decode ((ofTrie trie).encode keccak) = .ok (node, []) →
        fetcher ((ofTrie trie).blind keccak) = .ok node

/-- The provider knows a trie with all its nodes. -/
def Known : Trie → Prop
  | .empty => True
  | .leaf stem value =>
    Served keccak fetcher (.leaf stem value) ∧ Fits (ofTrie (.leaf stem value))
  | .extension stem node =>
    Served keccak fetcher (.extension stem node) ∧ Fits (ofTrie (.extension stem node)) ∧ Known node
  | .branch children =>
    Served keccak fetcher (.branch children) ∧
      Fits (ofTrie (.branch children)) ∧ ∀ digit, Known (children digit)

/-- A node is a trie, except that nodes with a long encoding that the provider
knows may be hidden. -/
inductive Shows : TrieNode → Trie → Prop where
  | empty : Shows .empty .empty
  | leaf {stem : Nibbles} {value : Bytes} :
      Shows (.leaf stem value) (.leaf stem value)
  | extension {stem : Nibbles} {node : TrieNode} {trie : Trie}
      (hnode : Shows node trie) :
      Shows (.extension stem node) (.extension stem trie)
  | branch {stack : Fin 17 → TrieNode} {children : Nibble → Trie}
      (hchildren : ∀ digit : Nibble, Shows (stack digit.castSucc) (children digit))
      (hvalue : stack (Fin.last 16) = .empty) :
      Shows (.branch stack) (.branch children)
  | blinded {trie : Trie} (hlong : 32 ≤ (ofTrie trie).length)
      (hknown : Known keccak fetcher trie) :
      Shows (.blinded ((ofTrie trie).blind keccak)) trie

variable {keccak fetcher} {trie : Trie}

section

variable (hshows : Shows keccak fetcher node trie)
include hshows

theorem Shows.same : Same keccak node (ofTrie trie) := by
  induction hshows with
  | empty | leaf => exact .refl keccak _
  | extension _ ih => exact ih.extension _
  | @branch stack children hkids hvalue ih =>
    apply Same.branch
    intro index
    by_cases hindex : index.val < 16
    · rw [dif_pos hindex]
      exact ih ⟨index, hindex⟩
    · have hlast : index = Fin.last 16 := by
        apply Fin.ext
        change index.val = 16
        omega
      rw [hlast, hvalue]
      exact .refl keccak _
  | blinded hlong => exact .blinded hlong

/-- A node has the commitment of the trie that it shows. -/
theorem Shows.blind_eq : node.blind keccak = (ofTrie trie).blind keccak := hshows.same.blind

theorem Shows.eq_empty_iff : node = .empty ↔ trie = .empty := by
  cases hshows with
  | empty | leaf | extension hnode | branch hkids hvalue => simp
  | blinded hlong =>
    refine ⟨nofun, ?_⟩
    rintro rfl
    exact absurd hlong (by decide)

end

section

variable (hknown : Known keccak fetcher trie)
include hknown

theorem Known.fits : Fits (ofTrie trie) := by
  cases trie with
  | empty => trivial
  | leaf => exact hknown.2
  | extension stem node | branch children => exact hknown.2.1

theorem Known.served : Served keccak fetcher trie := by
  cases trie with
  | empty => exact fun hlong => absurd hlong (by decide)
  | leaf stem value | extension stem node | branch children => exact hknown.1

theorem Shows.hide {revealed : TrieNode} (hshows : Shows keccak fetcher revealed trie) :
    Shows keccak fetcher (hide keccak (ofTrie trie) revealed) trie := by
  unfold TrieNode.hide
  split
  · rename_i hlong
    exact .blinded hlong hknown
  · exact hshows

theorem shows_reveal : Shows keccak fetcher (reveal keccak (ofTrie trie)) trie := by
  induction trie with
  | empty => exact .empty
  | leaf => exact .leaf
  | extension _ _ ih => exact .extension ((ih hknown.2.2).hide hknown.2.2)
  | branch _ ih =>
    apply Shows.branch
    · intro digit
      dsimp only
      rw [dif_pos (show digit.castSucc.val < 16 from digit.isLt)]
      exact (ih digit (hknown.2.2 digit)).hide (hknown.2.2 digit)
    · rfl

end

/-- A hidden node is replaced by what the provider knows. -/
theorem Shows.unblind (hshows : Shows keccak fetcher node trie) :
    ∃ revealed, unblind keccak fetcher node = (.ok (), revealed) ∧
      Shows keccak fetcher revealed trie ∧
      ∀ commitment, revealed ≠ .blinded commitment := by
  cases hshows with
  | empty => exact ⟨_, rfl, .empty, nofun⟩
  | leaf => exact ⟨_, rfl, .leaf, nofun⟩
  | extension hnode => exact ⟨_, rfl, .extension hnode, nofun⟩
  | branch hkids hvalue => exact ⟨_, rfl, .branch hkids hvalue, nofun⟩
  | blinded hlong hknown =>
    obtain ⟨hroot, hfetch⟩ := hknown.served hlong
    refine ⟨reveal keccak (ofTrie trie), ?_, shows_reveal hknown, ?_⟩
    · unfold unblind
      dsimp only
      rw [if_neg hroot, hfetch _ (decode_reveal hknown.fits)]
    · cases trie with
      | empty | leaf stem value | extension stem node | branch children => nofun

end Provider

end TrieNode

end BaseChain
