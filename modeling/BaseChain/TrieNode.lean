/-
The nodes of the fault-proof trie.  The encoding of a node hides a child behind
its hash when the child's own encoding has at least 32 bytes; open, insert and
delete reveal the hidden nodes on their way with a provider of preimages.
-/
import BaseChain.Patricia
import BaseChain.RlpReader
import BaseChain.RollupConfig

namespace BaseChain

open Function Patricia Rlp

namespace Rlp

/-- The length of the header of a string or list. -/
def lengthOfLength (payloadLength : Nat) : Nat :=
  if payloadLength < 56 then 1 else 1 + byteLength payloadLength

/-- The length of the encoding of a byte string. -/
def bytesLength (data : Bytes) : Nat := match data with
  | [byte] => if byte.toNat < 0x80 then 1 else 1 + lengthOfLength 1
  | data => data.length + lengthOfLength data.length

end Rlp

abbrev Nibble := Fin 16

abbrev Nibbles := List Nibble

/-- A node; the last entry of a branch is its value slot. -/
inductive TrieNode where
  | empty
  | blinded (commitment : B256)
  | leaf (stem : Nibbles) (value : Bytes)
  | extension (stem : Nibbles) (node : TrieNode)
  | branch (stack : Fin 17 → TrieNode)

inductive TrieNodeError where
  | invalidNodeType
  | pathTooShort
  | rlpError (error : Rlp.Error)
  | keyNotFound
  | provider (message : String)
deriving Repr, DecidableEq

/-- How an operation can fail: with an error, by a panic, or by running out of
the fuel that bounds the recursion here. -/
inductive TrieFault where
  | error (error : TrieNodeError)
  | panic
  | outOfFuel
deriving Repr, DecidableEq

abbrev TrieNodeResult (α : Type) := Except TrieFault α

/-- Two nibbles in each byte. -/
def packNibbles : Nibbles → Bytes
  | high :: low :: rest =>
    UInt8.ofNat (16 * high.val + low.val) :: packNibbles rest
  | _ => []

/-- The path of a leaf or extension: the first byte says which of the two it is,
and holds the first nibble if their number is odd. -/
def encodePathLeaf (nibbles : Nibbles) (leaf : Bool) : Bytes :=
  let flag := if leaf then 2 else 0
  if nibbles.length % 2 = 0 then UInt8.ofNat (16 * flag) :: packNibbles nibbles
  else
    match nibbles with
    | [] => []
    | first :: rest =>
      UInt8.ofNat (16 * (flag + 1) + first.val) :: packNibbles rest

namespace TrieNode

/-- The length of the encoding of a node whose payload has a given length. -/
def lengthWith (node : TrieNode) (payload : Nat) : Nat := match node with
  | .empty => 1
  | .blinded _ => 33
  | _ => lengthOfLength payload + payload

def blindedLength (length : Nat) : Nat := if 32 ≤ length then 33 else length

def keyLength (stem : Nibbles) : Nat :=
  let encoded := stem.length / 2 + 1
  if encoded ≠ 1 then encoded + lengthOfLength encoded else encoded

def payloadLength : TrieNode → Nat
  | .empty => 0
  | .blinded _ => 32
  | .leaf stem value => keyLength stem + bytesLength value
  | .extension stem node =>
    keyLength stem + blindedLength (node.lengthWith node.payloadLength)
  | .branch stack =>
    (List.ofFn fun index =>
      blindedLength ((stack index).lengthWith (stack index).payloadLength)).sum

def length (node : TrieNode) : Nat := node.lengthWith node.payloadLength

section Commitments

variable (keccak : Bytes → B256)

/-- The root of the empty trie: the hash of the empty string's encoding. -/
def emptyRootHash : B256 := keccak [0x80]

/-- The commitment of a node with a given encoding. -/
def blindWith (node : TrieNode) (encoding : Bytes) : B256 := match node with
  | .blinded commitment => commitment
  | .empty => emptyRootHash keccak
  | _ => keccak encoding

/-- How a parent refers to a node with a given encoding. -/
def pointerWith (node : TrieNode) (encoding : Bytes) : Bytes :=
  if 32 ≤ node.length then encodeFixed (blindWith keccak node encoding)
  else encoding

def encode : TrieNode → Bytes
  | .empty => [0x80]
  | .blinded commitment => encodeFixed commitment
  | .leaf stem value =>
    Rlp.Header.encode ⟨true, (TrieNode.leaf stem value).payloadLength⟩ ++
      (encodeBytes (encodePathLeaf stem true) ++ encodeBytes value)
  | .extension stem node =>
    Rlp.Header.encode ⟨true, (TrieNode.extension stem node).payloadLength⟩ ++
      (encodeBytes (encodePathLeaf stem false) ++ pointerWith keccak node (encode node))
  | .branch stack =>
    Rlp.Header.encode ⟨true, (TrieNode.branch stack).payloadLength⟩ ++ (List.ofFn fun index =>
        pointerWith keccak (stack index) (encode (stack index))).flatten

def blind (node : TrieNode) : B256 := blindWith keccak node (node.encode keccak)

/-- What the operations ask for the preimage of a commitment. -/
abbrev Provider := B256 → Except String TrieNode

variable (fetcher : Provider)

def unblind (node : TrieNode) : TrieNodeResult Unit × TrieNode := match node with
  | .blinded commitment =>
    if commitment = emptyRootHash keccak then (.ok (), .empty)
    else
      match fetcher commitment with
      | .ok node => (.ok (), node)
      | .error message =>
        (.error (.error (.provider message)), .blinded commitment)
  | node => (.ok (), node)

/-- Walk down to the value of a path. -/
def openAt : Nat → TrieNode → Nibbles → TrieNodeResult (Option Bytes) × TrieNode
  | 0, node, _ => (.error .outOfFuel, node)
  | _ + 1, .empty, _ => (.ok none, .empty)
  | _ + 1, .leaf stem value, path =>
    (.ok (if path = stem then some value else none), .leaf stem value)
  | fuel + 1, .extension stem node, path =>
    if path.length < stem.length then (.error .panic, .extension stem node)
    else if path.take stem.length = stem then
      match unblind keccak fetcher node with
      | (.error fault, node) => (.error fault, .extension stem node)
      | (.ok (), node) =>
        let (result, node) := openAt fuel node (path.drop stem.length)
        (result, .extension stem node)
    else (.ok none, .extension stem node)
  | _ + 1, .branch stack, [] =>
    (.error (.error .pathTooShort), .branch stack)
  | fuel + 1, .branch stack, nibble :: rest =>
    let (result, node) := openAt fuel (stack nibble.castSucc) rest
    (result, .branch (update stack nibble.castSucc node))
  | fuel + 1, .blinded commitment, path =>
    match unblind keccak fetcher (.blinded commitment) with
    | (.error fault, node) => (.error fault, node)
    | (.ok (), node) => openAt fuel node path

/-- A branch with two entries below the part that two paths share. -/
def forkAt (path : Nibbles) (shared : Nat) (first : Nibble) (left : TrieNode)
    (second : Nibble) (right : TrieNode) : TrieNode :=
  let stack := update
    (update (fun _ => .empty) first.castSucc left) second.castSucc right
  if shared = 0 then .branch stack
  else .extension (path.take shared) (.branch stack)

/-- Insert a value at a path. -/
def insert : Nat → TrieNode → Nibbles → Bytes → TrieNodeResult Unit × TrieNode
  | 0, node, _, _ => (.error .outOfFuel, node)
  | _ + 1, .empty, path, value => (.ok (), .leaf path value)
  | _ + 1, .leaf stem leafValue, path, value =>
    let shared := sharedLength path stem
    if path = stem then (.ok (), .leaf stem value)
    else
      match stem.drop shared, path.drop shared with
      | first :: stemRest, second :: pathRest =>
        (.ok (), forkAt path shared first (.leaf stemRest leafValue) second (.leaf pathRest value))
      | _, _ => (.error (.error .pathTooShort), .leaf stem leafValue)
  | fuel + 1, .extension stem node, path, value =>
    let shared := sharedLength path stem
    if shared = stem.length then
      let (result, node) := insert fuel node (path.drop shared) value
      (result, .extension stem node)
    else
      match stem.drop shared, path.drop shared with
      | first :: stemRest, second :: pathRest =>
        -- without a stem of its own the node goes into the branch itself
        (.ok (), forkAt path shared first
          (if stemRest.isEmpty then node else .extension stemRest node)
          second (.leaf pathRest value))
      | _, _ => (.error (.error .pathTooShort), .extension stem node)
  | _ + 1, .branch stack, [], _ =>
    (.error (.error .pathTooShort), .branch stack)
  | fuel + 1, .branch stack, nibble :: rest, value =>
    let (result, node) := insert fuel (stack nibble.castSucc) rest value
    (result, .branch (update stack nibble.castSucc node))
  | fuel + 1, .blinded commitment, path, value =>
    match unblind keccak fetcher (.blinded commitment) with
    | (.error fault, node) => (.error fault, node)
    | (.ok (), node) => insert fuel node path value

def isEmpty : TrieNode → Bool
  | .empty => true
  | _ => false

def nonEmptyChildren (stack : Fin 17 → TrieNode) : List (Fin 17) :=
  (List.finRange 17).filter fun index => !(stack index).isEmpty

/-- An entry that is alone in its branch takes the branch's place.  There is no
nibble for the value slot. -/
def liftChild (index : Fin 17) (stack : Fin 17 → TrieNode) : TrieNodeResult Unit × TrieNode :=
  if h : index.val < 16 then
    match stack index with
    | .leaf stem value => (.ok (), .leaf (⟨index, h⟩ :: stem) value)
    | .extension stem node => (.ok (), .extension (⟨index, h⟩ :: stem) node)
    | .branch children => (.ok (), .extension [⟨index, h⟩] (.branch children))
    | _ => (.ok (), .branch stack)
  else (.error .panic, .branch stack)

/-- Bring a node into a more compact form after a deletion. -/
def collapseIfPossible : Nat → TrieNode → TrieNodeResult Unit × TrieNode
  | 0, node => (.error .outOfFuel, node)
  | fuel + 1, node =>
    match node with
    | .extension stem (.extension childStem child) =>
      (.ok (), .extension (stem ++ childStem) child)
    | .extension stem (.leaf childStem value) =>
      (.ok (), .leaf (stem ++ childStem) value)
    | .extension _ .empty => (.ok (), .empty)
    | .branch stack =>
      match nonEmptyChildren stack with
      | [index] =>
        match stack index with
        | .blinded commitment =>
          match unblind keccak fetcher (.blinded commitment) with
          | (.error fault, child) =>
            (.error fault, .branch (update stack index child))
          | (.ok (), child) =>
            collapseIfPossible fuel (.branch (update stack index child))
        | _ => liftChild index stack
      | _ => (.ok (), .branch stack)
    | node => (.ok (), node)

/-- Delete the value at a path. -/
def delete : Nat → TrieNode → Nibbles → TrieNodeResult Unit × TrieNode
  | 0, node, _ => (.error .outOfFuel, node)
  | _ + 1, .empty, _ => (.error (.error .keyNotFound), .empty)
  | _ + 1, .leaf stem value, path =>
    if path = stem then (.ok (), .empty)
    else (.error (.error .keyNotFound), .leaf stem value)
  | fuel + 1, .extension stem node, path =>
    let shared := sharedLength path stem
    if shared < stem.length then
      (.error (.error .keyNotFound), .extension stem node)
    else if shared = path.length then (.ok (), .empty)
    else
      match delete fuel node (path.drop stem.length) with
      | (.error fault, node) => (.error fault, .extension stem node)
      | (.ok (), node) =>
        collapseIfPossible keccak fetcher fuel (.extension stem node)
  | _ + 1, .branch stack, [] =>
    (.error (.error .pathTooShort), .branch stack)
  | fuel + 1, .branch stack, nibble :: rest =>
    match delete fuel (stack nibble.castSucc) rest with
    | (.error fault, node) =>
      (.error fault, .branch (update stack nibble.castSucc node))
    | (.ok (), node) =>
      collapseIfPossible keccak fetcher fuel (.branch (update stack nibble.castSucc node))
  | fuel + 1, .blinded commitment, path =>
    match unblind keccak fetcher (.blinded commitment) with
    | (.error fault, node) => (.error fault, node)
    | (.ok (), node) => delete fuel node path

end Commitments

end TrieNode

namespace Rlp

/-- The number of items until the buffer is no longer than `stop`.  Every item
takes at least one byte, so the length of the buffer is enough fuel. -/
def countItems (stop : Nat) : Nat → Bytes → Except Error Nat
  | 0, _ => .ok 0
  | fuel + 1, buf =>
    if stop < buf.length then
      match Header.decode buf with
      | .error error => .error error
      | .ok (header, rest) =>
        match countItems stop fuel (rest.drop header.payloadLength) with
        | .error error => .error error
        | .ok count => .ok (count + 1)
    else .ok 0

/-- The number of items of the list at the front of a buffer. -/
def listElementLength (buf : Bytes) : Except Error Nat := match Header.decode buf with
  | .error error => .error error
  | .ok (header, rest) =>
    if header.list then
      countItems (rest.length - header.payloadLength) rest.length rest
    else .error .unexpectedString

end Rlp

instance Nibble.neZero : NeZero 16 := inferInstance

def highNibble (byte : UInt8) : Nibble := Fin.ofNat 16 (byte.toNat / 16)

def lowNibble (byte : UInt8) : Nibble := Fin.ofNat 16 byte.toNat

def unpackNibbles (data : Bytes) : Nibbles :=
  data.flatMap fun byte => [highNibble byte, lowNibble byte]

namespace TrieNode

/-- The payload of a leaf or an extension; the first half of the first byte says
which of the two it is and if the second half is a nibble of the path. -/
def decodeLeafOrExtension (decodeNode : Bytes → Except Rlp.Error (TrieNode × Bytes)) (buf : Bytes) :
    Except TrieNodeError (TrieNode × Bytes) :=
  match decodePayload false buf with
  | .error error => .error (.rlpError error)
  | .ok ([], _) => .error .invalidNodeType
  | .ok (byte :: path, rest) =>
    let code := byte.toNat / 16
    let first := if code % 2 = 1 then [lowNibble byte] else []
    if code < 2 then
      match decodeNode rest with
      | .error error => .error (.rlpError error)
      | .ok (node, rest) =>
        .ok (.extension (first ++ unpackNibbles path) node, rest)
    else if code < 4 then
      match decodePayload false rest with
      | .error error => .error (.rlpError error)
      | .ok (value, rest) =>
        .ok (.leaf (first ++ unpackNibbles path) value, rest)
    else .error .invalidNodeType

/-- The entries of a branch. -/
def stackOf (nodes : List TrieNode) : Option (Fin 17 → TrieNode) :=
  if h : nodes.length = 17 then some fun index => nodes.get (index.cast h.symm)
  else none

/-- Read a node; nesting takes at least one byte a level. -/
def decodeWith : Nat → Bytes → Except Rlp.Error (TrieNode × Bytes)
  | 0, _ => .error .inputTooShort
  | fuel + 1, buf =>
    match Rlp.Header.decode buf with
    | .error error => .error error
    | .ok (header, payload) =>
      if header.list then
        match listElementLength buf with
        | .error error => .error error
        | .ok count =>
          if count = 17 then
            match decodeList (decodeWith fuel) buf with
            | .error error => .error error
            | .ok (nodes, rest) =>
              match stackOf nodes with
              | none => .error .unexpectedLength
              | some stack => .ok (.branch stack, rest)
          else if count = 2 then
            match decodeLeafOrExtension (decodeWith fuel) payload with
            | .error _ => .error .unexpectedList
            | .ok result => .ok result
          else .error .unexpectedLength
      else if header.payloadLength = 0 then .ok (.empty, payload)
      else if header.payloadLength = 32 then
        match decodeFixed 32 buf with
        | .error error => .error error
        | .ok (commitment, rest) => .ok (.blinded commitment, rest)
      else .error .unexpectedLength

def decode (buf : Bytes) : Except Rlp.Error (TrieNode × Bytes) := decodeWith buf.length buf

end TrieNode

end BaseChain
