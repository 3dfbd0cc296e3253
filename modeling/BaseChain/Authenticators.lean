/-
The dispatch over the authenticators: a hash and a blob give the id of the actor that
signed, or for a delegate the account that has to be asked.
-/
import BaseChain.CheckedArith
import BaseChain.Eip8130Types

namespace BaseChain

open Checked

namespace Eip8130

inductive DispatchOutcome where
  | authenticated (actorId : B256)
  | delegated (actorId : B256) (delegateAccount : Address)
deriving DecidableEq

variable (primitives : Primitives)

section Recovery

/-- Only `v` of 27 or 28 is taken, so that a signature has one encoding. -/
def recoverRawK1 (hash : B256) (raw : Bytes) : Option Address :=
  if raw.length ≠ 65 ∨ ¬ (raw.getD 64 0 = 27 ∨ raw.getD 64 0 = 28) then none
  else primitives.recoverSigner raw hash

def recoverK1 (hash : B256) (signature : Bytes) : Except AuthError Address :=
  if signature.length ≠ 65 then .error .malformedAuth
  else match recoverRawK1 primitives hash signature with
    | none => .error .invalidSignature
    | some address => .ok address

/-- The sender of a transaction that does not name one. -/
def recoverEoaSender (signed : Eip8130Signed) : Except AuthError (Option Address) :=
  if signed.tx.sender.isSome then .ok none
  else match recoverRawK1 primitives (primitives.senderSignatureHash signed.tx)
      signed.senderAuth with
    | none => .error .invalidSignature
    | some address => .ok (some address)

end Recovery

section Dispatch

variable (hash : B256) (data : Bytes)

def p256 : Except AuthError B256 := do
  ensure (data.length = 129) .malformedAuth
  let x := slice data 64 96
  let y := slice data 96 128
  primitives.p256Verify hash.val (slice data 0 32) (slice data 32 64) x y
  return primitives.keccak256 (x ++ y)

/-- An index that does not fit a machine word is no offset into the text. -/
def containsAt (haystack : Bytes) (index : Nat) (needle : Bytes) : Except AuthError Unit := do
  ensure (index < 2 ^ 64) .malformedAuth
  ensure (index + needle.length < 2 ^ 64) .malformedAuth
  ensure (¬ (haystack.length < index + needle.length ∨
    slice haystack index (index + needle.length) ≠ needle)) .invalidSignature

def webauthnType : Bytes := "\"type\":\"webauthn.get\"".toUTF8.toList

def webauthnChallengePrefix : Bytes := "\"challenge\":\"".toUTF8.toList

def flagUserPresent : UInt8 := 0x01

def flagBackupEligible : UInt8 := 0x08

def flagBackupState : UInt8 := 0x10

def webauthn : Except AuthError B256 := match primitives.decodeWebauthn data with
  | none => .error .malformedAuth
  | some decoded => do
      -- a blob that is not the canonical encoding would change the transaction hash
      ensure (primitives.encodeWebauthn decoded = data) .malformedAuth
      let (auth, x, y) := decoded
      let authData := auth.authenticatorData
      ensure (¬ authData.length ≤ 36) .invalidSignature
      containsAt auth.clientDataJson auth.typeIndex webauthnType
      containsAt auth.clientDataJson auth.challengeIndex
        (webauthnChallengePrefix ++ primitives.base64Url hash.val ++ [34])
      let flags := authData.getD 32 0
      ensure (flags &&& flagUserPresent = flagUserPresent) .invalidSignature
      ensure (¬ (flags &&& flagBackupEligible ≠ flagBackupEligible ∧
        flags &&& flagBackupState ≠ 0)) .invalidSignature
      let clientHash := primitives.sha256 auth.clientDataJson
      let signed := primitives.sha256 (authData ++ clientHash.val)
      primitives.p256Verify signed.val auth.r.val auth.s.val x.val y.val
      return primitives.keccak256 (x.val ++ y.val)

/-- The address in the first twenty bytes, which the callers check to be there. -/
def addressPrefix : Address := (FixedBytes.ofBytes? 20 (data.take 20)).getD default

/-- Only the form of the blob is checked; the nested signature is not. -/
def delegate : Except AuthError DispatchOutcome := do
  ensure (¬ data.length < 40) .malformedAuth
  let delegateAccount := addressPrefix data
  ensure (addressPrefix (data.drop 20) ≠ delegateAuthenticator) .nestedDelegate
  return .delegated (selfActorId delegateAccount) delegateAccount

def dispatchAuthenticate (authenticator : Address) (data : Bytes) :
    Except AuthError DispatchOutcome :=
  if authenticator = k1Authenticator then do
    let address ← recoverK1 primitives hash data
    return .authenticated (selfActorId address)
  else if authenticator = p256Authenticator then do
    let actorId ← p256 primitives hash data
    return .authenticated actorId
  else if authenticator = webauthnAuthenticator then do
    let actorId ← webauthn primitives hash data
    return .authenticated actorId
  else if authenticator = delegateAuthenticator then delegate data
  else .error (.notCanonical authenticator)

end Dispatch

end Eip8130

end BaseChain
