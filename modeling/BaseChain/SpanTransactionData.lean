/-
The part of a transaction that a span batch keeps in its transaction data
column: value, fees, call data and the lists that belong to the transaction's
type.  Every kind of data is read back from its encoding.
-/
import BaseChain.RlpReader
import BaseChain.RollupConfig
import BaseChain.SpanBatchBits

namespace BaseChain

open Rlp
open Rlp (Error Inverse)

abbrev U64 := Word 8

abbrev U128 := Word 16

abbrev U256 := Word 32

instance U64.neZero : NeZero (256 ^ 8) := inferInstance

instance U256.neZero : NeZero (256 ^ 32) := inferInstance

structure AccessListItem where
  address : Address
  storageKeys : List B256
deriving DecidableEq

namespace AccessListItem

variable (item : AccessListItem)

def payload : Bytes := encodeFixed item.address ++ encodeItems encodeFixed item.storageKeys

def encode : Bytes := encodeList item.payload

def decode : Reader Error AccessListItem := record do
    let address ← fixed 20
    let storageKeys ← items (fixed 32)
    return { address, storageKeys }

theorem inverse : Inverse encode decode := by
  apply record_inverse
  intro item
  apply (fixed_inverse).field
  apply (items_inverse (fixed_inverse)).lastField

end AccessListItem

abbrev AccessList := List AccessListItem

def encodeAccessList : AccessList → Bytes := encodeItems AccessListItem.encode

def decodeAccessList : Reader Error AccessList := items AccessListItem.decode

theorem accessList_inverse : Inverse encodeAccessList decodeAccessList :=
  items_inverse AccessListItem.inverse

structure SignedAuthorization where
  chainId : U256
  address : Address
  nonce : U64
  yParity : Word 1
  r : U256
  s : U256
deriving DecidableEq

namespace SignedAuthorization

variable (authorization : SignedAuthorization)

def payload : Bytes := encodeWord authorization.chainId ++ (encodeFixed authorization.address ++
    (encodeWord authorization.nonce ++ (encodeWord authorization.yParity ++
      (encodeWord authorization.r ++ encodeWord authorization.s))))

def encode : Bytes := encodeList authorization.payload

def decode : Reader Error SignedAuthorization := record do
    let chainId ← word 32
    let address ← fixed 20
    let nonce ← word 8
    let yParity ← word 1
    let r ← word 32
    let s ← word 32
    return { chainId, address, nonce, yParity, r, s }

theorem inverse : Inverse encode decode := by
  apply record_inverse
  intro authorization
  apply (word_inverse).field
  apply (fixed_inverse).field
  apply (word_inverse).field
  apply (word_inverse).field
  apply (word_inverse).field
  apply (word_inverse).lastField

end SignedAuthorization

structure Call where
  recipient : Address
  value : U256
  data : Bytes
deriving DecidableEq

namespace Call

def payload (call : Call) : Bytes :=
  encodeFixed call.recipient ++ (encodeWord call.value ++ encodeBytes call.data)

def encode (call : Call) : Bytes := encodeList call.payload

def decode : Reader Error Call := record do
    let recipient ← fixed 20
    let value ← word 32
    let data ← bytes
    return { recipient, value, data }

theorem inverse : Inverse encode decode := by
  apply record_inverse
  intro call
  apply (fixed_inverse).field
  apply (word_inverse).field
  apply bytes_inverse.lastField

end Call

structure InitialActor where
  actorId : B256
  authenticator : Address
  scope : Word 2
  policyData : Bytes
deriving DecidableEq

namespace InitialActor

variable (actor : InitialActor)

def payload : Bytes := encodeFixed actor.actorId ++ (encodeFixed actor.authenticator ++
    (encodeWord actor.scope ++ encodeBytes actor.policyData))

def encode : Bytes := encodeList actor.payload

def decode : Reader Error InitialActor := record do
    let actorId ← fixed 32
    let authenticator ← fixed 20
    let scope ← word 2
    let policyData ← bytes
    return { actorId, authenticator, scope, policyData }

theorem inverse : Inverse encode decode := by
  apply record_inverse
  intro actor
  apply (fixed_inverse).field
  apply (fixed_inverse).field
  apply (word_inverse).field
  apply bytes_inverse.lastField

end InitialActor

inductive ChangeType where
  | authorizeActor
  | revokeActor
  | incrementLocalEpoch
  | lock
  | unlock
deriving Repr, DecidableEq

namespace ChangeType

def opByte : ChangeType → Word 1
  | .authorizeActor => 0
  | .revokeActor => 1
  | .incrementLocalEpoch => 2
  | .lock => 3
  | .unlock => 4

def fromOpByte (byte : Word 1) : Option ChangeType := match byte.val with
  | 0 => some .authorizeActor
  | 1 => some .revokeActor
  | 2 => some .incrementLocalEpoch
  | 3 => some .lock
  | 4 => some .unlock
  | _ => none

theorem fromOpByte_opByte (change : ChangeType) : fromOpByte change.opByte = some change := by
  cases change <;> rfl

end ChangeType

inductive AccountChangeChannel where
  | localChannel
  | multichain
deriving Repr, DecidableEq

namespace AccountChangeChannel

def byte : AccountChangeChannel → Word 1
  | .localChannel => 0
  | .multichain => 1

def fromByte (byte : Word 1) : Option AccountChangeChannel := match byte.val with
  | 0 => some .localChannel
  | 1 => some .multichain
  | _ => none

theorem fromByte_byte (channel : AccountChangeChannel) : fromByte channel.byte = some channel := by
  cases channel <;> rfl

end AccountChangeChannel

structure SignedChange where
  changeType : ChangeType
  payload : Bytes
deriving DecidableEq

namespace SignedChange

variable (change : SignedChange)

def fields : Bytes := encodeWord change.changeType.opByte ++ encodeBytes change.payload

def encode : Bytes := encodeList change.fields

def decode : Reader Error SignedChange := record do
    let op ← word 1
    let changeType ← ofOption (ChangeType.fromOpByte op)
    let payload ← bytes
    return { changeType, payload }

theorem inverse : Inverse encode decode := by
  apply record_inverse
  intro change
  apply (word_inverse).field
  intro hlength
  apply (ofOption_reads (ChangeType.fromOpByte_opByte _)).bind
  apply bytes_inverse.lastField _ hlength

end SignedChange

inductive AccountChange where
  | create (userSalt : B256) (code : Bytes) (initialActors : List InitialActor)
  | configChange (channel : AccountChangeChannel) (sequence : U64)
      (changes : List SignedChange) (signature : Bytes)
  | delegation (target : Address)
deriving DecidableEq

namespace AccountChange

def typeByte : AccountChange → Word 1
  | .create .. => 2
  | .configChange .. => 3
  | .delegation .. => 1

def body : AccountChange → Bytes
  | .create userSalt code initialActors =>
    encodeFixed userSalt ++ (encodeBytes code ++ encodeItems InitialActor.encode initialActors)
  | .configChange channel sequence changes signature =>
    encodeWord channel.byte ++ (encodeWord sequence ++
      (encodeItems SignedChange.encode changes ++ encodeBytes signature))
  | .delegation target => encodeFixed target

variable (change : AccountChange)

def encode : Bytes := encodeList (encodeWord change.typeByte ++ change.body)

def decodeCreate : Reader Error AccountChange := do
  let userSalt ← fixed 32
  let code ← bytes
  let initialActors ← items InitialActor.decode
  return .create userSalt code initialActors

def decodeConfigChange : Reader Error AccountChange := do
  let channelByte ← word 1
  let channel ← ofOption (AccountChangeChannel.fromByte channelByte)
  let sequence ← word 8
  let changes ← items SignedChange.decode
  let signature ← bytes
  return .configChange channel sequence changes signature

def decodeDelegation : Reader Error AccountChange := do
  let target ← fixed 20
  return .delegation target

def decodeBody (typeByte : Word 1) : Reader Error AccountChange := match typeByte.val with
  | 2 => decodeCreate
  | 3 => decodeConfigChange
  | 1 => decodeDelegation
  | _ => Reader.fail .custom

def decode : Reader Error AccountChange := record do
    let typeByte ← word 1
    decodeBody typeByte

theorem decodeBody_reads : change.body.length < 2 ^ 64 →
    Reader.Reads (decodeBody change.typeByte) change.body change := by
  cases change with
  | create =>
    apply (fixed_inverse).field
    apply bytes_inverse.field
    apply (items_inverse InitialActor.inverse).lastField
  | configChange channel sequence =>
    apply (word_inverse).field
    intro hlength
    apply (ofOption_reads (AccountChangeChannel.fromByte_byte _)).bind
    revert hlength
    apply (word_inverse).field
    apply (items_inverse SignedChange.inverse).field
    apply bytes_inverse.lastField
  | delegation => exact (fixed_inverse).lastField _

theorem inverse : Inverse encode decode := by
  apply record_inverse
  intro change
  apply (word_inverse).field
  exact decodeBody_reads change

end AccountChange

structure SpanBatchLegacyTransactionData where
  value : U256
  gasPrice : U256
  data : Bytes
deriving DecidableEq

namespace SpanBatchLegacyTransactionData

variable (tx : SpanBatchLegacyTransactionData)

def payload : Bytes := encodeWord tx.value ++ (encodeWord tx.gasPrice ++ encodeBytes tx.data)

def encode : Bytes := encodeList tx.payload

def decode : Reader Error SpanBatchLegacyTransactionData := record do
    let value ← word 32
    let gasPrice ← word 32
    let data ← bytes
    return { value, gasPrice, data }

theorem inverse : Inverse encode decode := by
  apply record_inverse
  intro tx
  apply (word_inverse).field
  apply (word_inverse).field
  apply bytes_inverse.lastField

end SpanBatchLegacyTransactionData

structure SpanBatchEip2930TransactionData where
  value : U256
  gasPrice : U256
  data : Bytes
  accessList : AccessList
deriving DecidableEq

namespace SpanBatchEip2930TransactionData

variable (tx : SpanBatchEip2930TransactionData)

def payload : Bytes := encodeWord tx.value ++ (encodeWord tx.gasPrice ++ (encodeBytes tx.data ++
    encodeAccessList tx.accessList))

def encode : Bytes := encodeList tx.payload

def decode : Reader Error SpanBatchEip2930TransactionData := record do
    let value ← word 32
    let gasPrice ← word 32
    let data ← bytes
    let accessList ← decodeAccessList
    return { value, gasPrice, data, accessList }

theorem inverse : Inverse encode decode := by
  apply record_inverse
  intro tx
  apply (word_inverse).field
  apply (word_inverse).field
  apply bytes_inverse.field
  apply accessList_inverse.lastField

end SpanBatchEip2930TransactionData

structure SpanBatchEip1559TransactionData where
  value : U256
  maxPriorityFeePerGas : U256
  maxFeePerGas : U256
  data : Bytes
  accessList : AccessList
deriving DecidableEq

namespace SpanBatchEip1559TransactionData

variable (tx : SpanBatchEip1559TransactionData)

def payload : Bytes := encodeWord tx.value ++ (encodeWord tx.maxPriorityFeePerGas ++
    (encodeWord tx.maxFeePerGas ++ (encodeBytes tx.data ++ encodeAccessList tx.accessList)))

def encode : Bytes := encodeList tx.payload

def decode : Reader Error SpanBatchEip1559TransactionData := record do
    let value ← word 32
    let maxPriorityFeePerGas ← word 32
    let maxFeePerGas ← word 32
    let data ← bytes
    let accessList ← decodeAccessList
    return { value, maxPriorityFeePerGas, maxFeePerGas, data, accessList }

theorem inverse : Inverse encode decode := by
  apply record_inverse
  intro tx
  apply (word_inverse).field
  apply (word_inverse).field
  apply (word_inverse).field
  apply bytes_inverse.field
  apply accessList_inverse.lastField

end SpanBatchEip1559TransactionData

structure SpanBatchEip7702TransactionData where
  value : U256
  maxPriorityFeePerGas : U256
  maxFeePerGas : U256
  data : Bytes
  accessList : AccessList
  authorizationList : List SignedAuthorization
deriving DecidableEq

namespace SpanBatchEip7702TransactionData

variable (tx : SpanBatchEip7702TransactionData)

def payload : Bytes := encodeWord tx.value ++ (encodeWord tx.maxPriorityFeePerGas ++
    (encodeWord tx.maxFeePerGas ++ (encodeBytes tx.data ++ (encodeAccessList tx.accessList ++
        encodeItems SignedAuthorization.encode tx.authorizationList))))

def encode : Bytes := encodeList tx.payload

def decode : Reader Error SpanBatchEip7702TransactionData := record do
    let value ← word 32
    let maxPriorityFeePerGas ← word 32
    let maxFeePerGas ← word 32
    let data ← bytes
    let accessList ← decodeAccessList
    let authorizationList ← items SignedAuthorization.decode
    return { value, maxPriorityFeePerGas, maxFeePerGas, data, accessList,
             authorizationList }

theorem inverse : Inverse encode decode := by
  apply record_inverse
  intro tx
  apply (word_inverse).field
  apply (word_inverse).field
  apply (word_inverse).field
  apply bytes_inverse.field
  apply accessList_inverse.field
  apply (items_inverse SignedAuthorization.inverse).lastField

end SpanBatchEip7702TransactionData

structure SpanBatchEip8130TransactionData where
  sender : Option Address
  nonceKey : U256
  validAfter : U64
  validBefore : U64
  maxPriorityFeePerGas : U128
  maxFeePerGas : U128
  payer : Option Address
  accountChanges : List AccountChange
  calls : List (List Call)
  metadata : Bytes
  senderAuthenticator : Bytes
  payerAuthenticator : Bytes
deriving DecidableEq

/-- The payer that stands for whoever signs. -/
def openPayer : Address := default

namespace SpanBatchEip8130TransactionData

def maxAuthProofBytes : Nat := 10000000

def addressOptBytes : Option Address → Bytes
  | none => []
  | some address => address.val

def addressOpt? (raw : Bytes) : Option (Option Address) := if raw.length = 0 then some none
  else (FixedBytes.ofBytes? 20 raw).map some

variable (address : Option Address)

def encodeAddressOpt : Bytes := encodeBytes (addressOptBytes address)

def decodeAddressOpt : Reader Error (Option Address) := do
  let raw ← bytes
  ofOption (addressOpt? raw)

def splitAuth (blob : Bytes) (configured : Bool) : Except SpanBatchError (Bytes × Bytes) :=
  if configured = false then .ok ([], blob)
  else if blob.length < 20 then .error (.decoding .invalidAuthData)
  else .ok (blob.take 20, blob.drop 20)

def namedPayer (payer : Option Address) : Bool := payer.any (· ≠ openPayer)

def joinAuth (authenticator proof : Bytes) (configured : Bool) : Bytes :=
  if configured = false then proof
  else if proof.isEmpty then authenticator
  else authenticator ++ proof

def validateAuthenticator (authenticator : Bytes) (configured : Bool) : Option Unit :=
  if (if configured then authenticator.length = 20 else authenticator = []) then
    some ()
  else none

variable (tx : SpanBatchEip8130TransactionData)

def payload : Bytes := encodeAddressOpt tx.sender ++ (encodeWord tx.nonceKey ++
    (encodeWord tx.validAfter ++ (encodeWord tx.validBefore ++
      (encodeWord tx.maxPriorityFeePerGas ++ (encodeWord tx.maxFeePerGas ++
        (encodeAddressOpt tx.payer ++ (encodeItems AccountChange.encode tx.accountChanges ++
            (encodeItems (encodeItems Call.encode) tx.calls ++ (encodeBytes tx.metadata ++
                (encodeBytes tx.senderAuthenticator ++ encodeBytes tx.payerAuthenticator))))))))))

def encode : Bytes := encodeList tx.payload

def decode : Reader Error SpanBatchEip8130TransactionData := record do
    let sender ← decodeAddressOpt
    let nonceKey ← word 32
    let validAfter ← word 8
    let validBefore ← word 8
    let maxPriorityFeePerGas ← word 16
    let maxFeePerGas ← word 16
    let payer ← decodeAddressOpt
    let accountChanges ← items AccountChange.decode
    let calls ← items (items Call.decode)
    let metadata ← bytes
    let senderAuthenticator ← bytes
    let payerAuthenticator ← bytes
    ofOption (validateAuthenticator senderAuthenticator sender.isSome)
    ofOption (validateAuthenticator payerAuthenticator (namedPayer payer))
    return { sender, nonceKey, validAfter, validBefore, maxPriorityFeePerGas,
             maxFeePerGas, payer, accountChanges, calls, metadata,
             senderAuthenticator, payerAuthenticator }

/-- The authenticator columns agree with the presence of their actors. -/
def Authenticated : Prop :=
  validateAuthenticator tx.senderAuthenticator tx.sender.isSome = some () ∧
    validateAuthenticator tx.payerAuthenticator (namedPayer tx.payer) = some ()

theorem addressOpt?_addressOptBytes : addressOpt? (addressOptBytes address) = some address := by
  cases address with
  | none => rfl
  | some => simp [addressOpt?, addressOptBytes]

theorem addressOpt_inverse : Inverse encodeAddressOpt decodeAddressOpt :=
  bytes_inverse.partialMap addressOpt?_addressOptBytes

theorem decode_reads {tx : SpanBatchEip8130TransactionData}
    (hauth : tx.Authenticated) (hlength : tx.encode.length < 2 ^ 64) :
    Reader.Reads decode tx.encode tx := by
  intro rest
  have hpayload : tx.payload.length < 2 ^ 64 := Nat.lt_of_le_of_lt (length_le_encodeList _) hlength
  apply decodeRecord_encodeList rest hpayload
  revert rest
  refine addressOpt_inverse.field ?_ hpayload
  apply (word_inverse).field
  apply (word_inverse).field
  apply (word_inverse).field
  apply (word_inverse).field
  apply (word_inverse).field
  apply addressOpt_inverse.field
  apply (items_inverse AccountChange.inverse).field
  apply (items_inverse (items_inverse Call.inverse)).field
  apply bytes_inverse.field
  apply bytes_inverse.field
  intro hlength
  -- Both checks read nothing, so they stand between two empty strings.
  rw [← List.append_nil (encodeBytes tx.payerAuthenticator)]
  apply (bytes_inverse.reads hlength).bind
  apply (ofOption_reads hauth.1).bind
  exact (ofOption_reads hauth.2).map _

end SpanBatchEip8130TransactionData

end BaseChain
