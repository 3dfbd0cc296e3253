/-
What an accepted authentication blob leaves open.  A blob lies outside the signed hash;
two blobs with the same signature, key and signed texts that are accepted as the same
actor agree in everything but the parts that no check reads.
-/
import BaseChain.AccountRuns
import BaseChain.ActorAuthentication

namespace BaseChain

open Checked List

namespace Eip8130

/-- A verifier, asked directly or in the name of a delegate. -/
structure Route where
  delegated : Bool
  verifier : Address

section Blob

variable (primitives : Primitives) (hash : B256) (route : Route) (data : Bytes)

/-- The blob that the verifier is given: behind a delegate and the nested authenticator. -/
def Route.blob : Bytes := if route.delegated then data.drop 40 else data

/-- A blob is accepted as an actor, with the signature of a signer.  Without a delegate they
are the same. -/
def Route.Accepts (actorId signer : B256) : Prop :=
  dispatchAuthenticate primitives hash route.verifier (route.blob data) =
      .ok (.authenticated signer) ∧
    if route.delegated then
      addressPrefix (data.drop 20) = route.verifier ∧
        ∃ account, dispatchAuthenticate primitives hash delegateAuthenticator data =
          .ok (.delegated actorId account)
    else actorId = signer

/-- The signature scalars, the public key and the signed texts of a blob. -/
def material (verifier : Address) (data : Bytes) : List Bytes :=
  if verifier = k1Authenticator then [data.take 64]
  else if verifier = p256Authenticator then [data.take 128]
  else match primitives.decodeWebauthn data with
    | none => []
    | some (auth, x, y) =>
      [auth.r.val, auth.s.val, x.val, y.val, auth.authenticatorData, auth.clientDataJson]

/-- The parts that neither the material nor the actor determines: the reserved last byte of
a P-256 blob, and the places in the client JSON where its two members were looked for. -/
def unread (verifier : Address) (data : Bytes) : List Nat :=
  if verifier = p256Authenticator then [(data.getD 128 0).toNat]
  else if verifier = webauthnAuthenticator then
    match primitives.decodeWebauthn data with
    | none => []
    | some (auth, _, _) => [auth.challengeIndex, auth.typeIndex]
  else []

/-- The two signatures with the same scalars recover different signers. -/
def SeparatesParity : Prop := ∀ hash raw other address, raw.take 64 = other.take 64 →
  primitives.recoverSigner raw hash = some address →
  primitives.recoverSigner other hash = some address → raw.getD 64 0 = other.getD 64 0

end Blob

variable {primitives : Primitives} {hash actorId signer : B256} {data other : Bytes}

/-- A string is its front and its last byte. -/
theorem eq_of_front {width : Nat} (hdata : data.length = width + 1)
    (hother : other.length = width + 1) (hfront : data.take width = other.take width)
    (hlast : data.getD width 0 = other.getD width 0) : data = other := by
  have hsplit : ∀ {bytes : Bytes}, bytes.length = width + 1 →
      bytes = bytes.take width ++ [bytes.getD width 0] := by
    intro bytes hbytes
    rw [getD_eq_getElem?_getD, List.getElem?_eq_getElem (by omega), Option.getD_some,
      take_append_getElem, take_of_length_le (by omega)]
  rw [hsplit hdata, hsplit hother, hfront, hlast]

theorem recoverK1_eq_ok {recovered : Address}
    (hrecover : recoverK1 primitives hash data = .ok recovered) :
    data.length = 65 ∧ primitives.recoverSigner data hash = some recovered := by
  unfold recoverK1 recoverRawK1 at hrecover
  grind

theorem selfActorId_injective : Function.Injective selfActorId := by
  intro first second hsame
  exact Subtype.ext (append_cancel_left (congrArg Subtype.val hsame))

theorem addressPrefix_val (hlength : 20 ≤ data.length) :
    (addressPrefix data).val = data.take 20 := by
  rw [addressPrefix, FixedBytes.ofBytes?_of_length (by rw [length_take]; omega)]
  rfl

theorem webauthn_decoded (hwebauthn : webauthn primitives hash data = .ok signer) :
    ∃ decoded, primitives.decodeWebauthn data = some decoded ∧
      primitives.encodeWebauthn decoded = data := by
  unfold webauthn at hwebauthn
  split at hwebauthn
  · cases hwebauthn
  · rename_i decoded hdecode
    exact ⟨decoded, hdecode, (ensure_bind_eq_ok.mp hwebauthn).1⟩

/-- What a verifier accepts is determined by the material, the signer and the unread parts. -/
theorem verified_unique {verifier : Address} (hparity : SeparatesParity primitives)
    (hdata : dispatchAuthenticate primitives hash verifier data = .ok (.authenticated signer))
    (hother : dispatchAuthenticate primitives hash verifier other = .ok (.authenticated signer))
    (hmaterial : material primitives verifier data = material primitives verifier other)
    (hunread : unread primitives verifier data = unread primitives verifier other) :
    data = other := by
  rcases isVerifier_of_dispatch hdata with rfl | rfl | rfl
  · obtain ⟨recovered, hrecovered, rfl⟩ := dispatch_k1_eq_ok hdata
    obtain ⟨recovered', hrecovered', hsame⟩ := dispatch_k1_eq_ok hother
    cases selfActorId_injective hsame
    obtain ⟨hlength, hsigner⟩ := recoverK1_eq_ok hrecovered
    obtain ⟨hlength', hsigner'⟩ := recoverK1_eq_ok hrecovered'
    have hscalars := (cons.inj hmaterial).1
    exact eq_of_front hlength hlength' hscalars (hparity hash _ _ _ hscalars hsigner hsigner')
  · rw [dispatchAuthenticate, if_neg (by decide), if_pos rfl] at hdata hother
    obtain ⟨_, hp256, -⟩ := bind_eq_ok.mp hdata
    obtain ⟨_, hp256', -⟩ := bind_eq_ok.mp hother
    exact eq_of_front (ensure_bind_eq_ok.mp hp256).1 (ensure_bind_eq_ok.mp hp256').1
      (cons.inj hmaterial).1 (UInt8.toNat_inj.mp (cons.inj hunread).1)
  · rw [dispatchAuthenticate, if_neg (by decide), if_neg (by decide), if_pos rfl] at hdata hother
    obtain ⟨_, hwebauthn, -⟩ := bind_eq_ok.mp hdata
    obtain ⟨_, hwebauthn', -⟩ := bind_eq_ok.mp hother
    obtain ⟨⟨⟨r, s, challenge, type, auth, json⟩, x, y⟩, hdecode, rfl⟩ := webauthn_decoded hwebauthn
    obtain ⟨⟨⟨r', s', challenge', type', auth', json'⟩, x', y'⟩, hdecode', rfl⟩ :=
      webauthn_decoded hwebauthn'
    rw [material, if_neg (by decide), if_neg (by decide), hdecode,
      material, if_neg (by decide), if_neg (by decide), hdecode'] at hmaterial
    rw [unread, if_neg (by decide), if_pos rfl, hdecode,
      unread, if_neg (by decide), if_pos rfl, hdecode'] at hunread
    simp only [cons.injEq, ← FixedBytes.ext_iff, and_true] at hmaterial hunread
    obtain ⟨rfl, rfl, rfl, rfl, rfl, rfl⟩ := hmaterial
    obtain ⟨rfl, rfl⟩ := hunread
    rfl

/-- Primitives that accept a signature with one parity only. -/
def evenPrimitives : Primitives :=
  { transparentPrimitives with
    recoverSigner := fun raw _ => if raw.getD 64 0 = 27 then some (padded 20 raw) else none }

theorem evenPrimitives_parity : SeparatesParity evenPrimitives := by
  intro hash raw other address _ hraw hother
  obtain ⟨hraw, -⟩ := Option.ite_none_right_eq_some.mp hraw
  obtain ⟨hother, -⟩ := Option.ite_none_right_eq_some.mp hother
  rw [hraw, hother]

def reservedBlob (reserved : UInt8) : Bytes := replicate 128 0 ++ [reserved]

def blobActor : B256 := ⟨1 :: replicate 31 0, rfl⟩

theorem reservedBlob_accepted (reserved : UInt8) :
    (Route.mk false p256Authenticator).Accepts evenPrimitives default (reservedBlob reserved)
      blobActor blobActor := ⟨by rfl, rfl⟩

end Eip8130

end BaseChain
