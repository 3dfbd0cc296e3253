/-
The parts of an EIP-8130 transaction that its authorization reads, and the third-party
primitives it calls: hashing, signature recovery and verification, ABI decoding.  The
two signing hashes of a transaction cover its whole RLP body and are taken as
primitives too.
-/
import BaseChain.AccountConfiguration

namespace BaseChain

namespace Eip8130

def addressOf (value : Nat) : Address := ⟨beBytes 20 value, beBytes_length 20 value⟩

def accountConfigAddress : Address := addressOf 0x813012Bd8D971928475235BBac6F0488c4A100AC

def p256Authenticator : Address := addressOf 0x8130C89F65750431b564A4730397552a11CeA256

def webauthnAuthenticator : Address := addressOf 0x813007b6b1b48E75D91dEc5927ab515d12a0F1d0

def delegateAuthenticator : Address := addressOf 0x81301AA52202f8C6b79Cde660440E3c6A7c5ade1

/-- The low half of a local sequence word that stands for no sequence. -/
def unsequenced : Nat := 2 ^ 32 - 1

def policyDataLen : Nat := 52

def maxCodeSize : Nat := 24576

structure InitialActor where
  actorId : B256
  authenticator : Address
  scope : BitVec 16
  policyData : Bytes

inductive ChangeType where
  | authorizeActor
  | revokeActor
  | incrementLocalEpoch
  | lock
  | unlock
deriving DecidableEq

def ChangeType.opByte : ChangeType → UInt8
  | .authorizeActor => 0
  | .revokeActor => 1
  | .incrementLocalEpoch => 2
  | .lock => 3
  | .unlock => 4

inductive AccountChangeChannel where
  | localChain
  | multichain
deriving DecidableEq

structure SignedChange where
  changeType : ChangeType
  payload : Bytes

structure CreateEntry where
  userSalt : B256
  code : Bytes
  initialActors : List InitialActor

/-- A batch of changes of one account under one signature. -/
structure SignedAccountChanges where
  channel : AccountChangeChannel
  sequence : BitVec 64
  changes : List SignedChange
  signature : Bytes

inductive AccountChange where
  | create (entry : CreateEntry)
  | configChange (batch : SignedAccountChanges)
  | delegation (target : Address)

structure TxEip8130 where
  sender : Option Address
  nonceKey : Nat
  accountChanges : List AccountChange
  payer : Option Address

structure Eip8130Signed where
  tx : TxEip8130
  senderAuth : Bytes
  payerAuth : Bytes

/-- The zero address stands for a payer that the sender does not name. -/
def TxEip8130.isOpenPayer (tx : TxEip8130) : Bool := tx.payer = some default

structure ActorConfigAbi where
  authenticator : Address
  expiry : BitVec 48
  scope : BitVec 16

structure WebAuthnAuth where
  r : B256
  s : B256
  challengeIndex : Nat
  typeIndex : Nat
  authenticatorData : Bytes
  clientDataJson : Bytes

inductive AuthError where
  | malformedAuth
  | notCanonical (authenticator : Address)
  | invalidSignature
  | nestedDelegate
  | invalidPublicKey
deriving DecidableEq

structure Primitives where
  keccak256 : Bytes → B256
  sha256 : Bytes → B256
  base64Url : Bytes → Bytes
  /-- Checked recovery of the signer from `r`, `s` and `v`. -/
  recoverSigner : Bytes → B256 → Option Address
  p256Verify : (prehash r s x y : Bytes) → Except AuthError Unit
  decodeWebauthn : Bytes → Option (WebAuthnAuth × B256 × B256)
  encodeWebauthn : WebAuthnAuth × B256 × B256 → Bytes
  decodeAuthorizeParams : Bytes → Option (B256 × ActorConfigAbi × Bytes)
  decodeRevokeParams : Bytes → Option B256
  senderSignatureHash : TxEip8130 → B256
  payerSignatureHash : TxEip8130 → Address → B256

end Eip8130

end BaseChain
