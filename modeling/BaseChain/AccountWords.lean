/-
The two packed words of the account configuration: the configuration of one actor and
the state of one account.  Both are written field after field, most significant first,
so a word is the concatenation of its fields.
-/
import BaseChain.RollupConfig

namespace BaseChain

open BitVec

namespace Eip8130

theorem beNat_slice_lt (word : B256) (low high width : Nat) (hwidth : min high 32 - low = width) :
    beNat (slice word.val low high) < 256 ^ width := by
  have hlength : (slice word.val low high).length = width := by
    rw [slice_length, word.length_val]
    exact hwidth
  have hlt := beNat_lt (slice word.val low high)
  rwa [hlength] at hlt

/-- One actor of an account.  An authenticator of zero is an empty slot. -/
@[ext] structure ActorConfig where
  authenticator : Address
  expiry : Nat
  scope : BitVec 16
deriving DecidableEq

namespace ActorConfig

def empty : ActorConfig := ⟨default, 0, 0⟩

def fromWord (word : B256) : ActorConfig where
  authenticator := ⟨slice word.val 12 32, by simp⟩
  expiry := beNat (slice word.val 6 12)
  scope := BitVec.ofNat 16 (beNat (slice word.val 4 6))

variable (config : ActorConfig)

def isEmpty : Bool := config.authenticator = default

/-- A grant is still good in the second of its expiry. -/
def isExpired (now : Nat) : Bool := config.expiry ≠ 0 ∧ config.expiry < now

def fields : List Bytes :=
  [List.replicate 4 0, beBytes 2 config.scope.toNat, beBytes 6 config.expiry,
    config.authenticator.val]

/-- Bytes of the expiry beyond its six are dropped. -/
def toWord : B256 := ⟨config.fields.flatten, by simp [fields]⟩

theorem fromWord_toWord {config : ActorConfig} (hexpiry : config.expiry < 2 ^ 48) :
    fromWord config.toWord = config := by
  have hscope : slice config.toWord.val 4 6 = beBytes 2 config.scope.toNat :=
    slice_flatten [List.replicate 4 0] _ [beBytes 6 config.expiry, _] rfl rfl
  have hfield : slice config.toWord.val 6 12 = beBytes 6 config.expiry :=
    slice_flatten [List.replicate 4 0, beBytes 2 config.scope.toNat] _ [_] rfl rfl
  have hauth : slice config.toWord.val 12 32 = config.authenticator.val :=
    slice_flatten [List.replicate 4 0, beBytes 2 config.scope.toNat,
      beBytes 6 config.expiry] _ [] rfl (by simp)
  have hnarrow : beNat (beBytes 2 config.scope.toNat) = config.scope.toNat :=
    beNat_beBytes_of_lt config.scope.isLt
  apply ActorConfig.ext
  · exact FixedBytes.ext hauth
  · exact (congrArg beNat hfield).trans (beNat_beBytes_of_lt hexpiry)
  · unfold fromWord
    rw [hscope, hnarrow, ofNat_toNat, setWidth_eq]

theorem fromWord_default : fromWord default = empty := by decide

end ActorConfig

def defaultEoaRevokedFlag : BitVec 8 := 1

def flagLocked : BitVec 8 := 2

def flagUnlockInitiated : BitVec 8 := 4

/-- The counters, the lock and the inline key of one account. -/
@[ext] structure AccountState where
  multichainSequence : Nat
  localSequence : Nat
  localEpoch : Nat
  flags : BitVec 8
  lockUnion : Nat
  defaultEoaExpiry : Nat
  defaultEoaScope : BitVec 16
deriving DecidableEq

namespace AccountState

def fromWord (word : B256) : AccountState where
  multichainSequence := beNat (slice word.val 24 32)
  localSequence := beNat (slice word.val 20 24)
  localEpoch := beNat (slice word.val 16 20)
  flags := BitVec.ofNat 8 (beNat (slice word.val 15 16))
  lockUnion := beNat (slice word.val 9 15)
  defaultEoaExpiry := beNat (slice word.val 3 9)
  defaultEoaScope := BitVec.ofNat 16 (beNat (slice word.val 1 3))

variable (state : AccountState)

def defaultEoaRevoked : Bool := state.flags &&& defaultEoaRevokedFlag ≠ 0

def isLocked (now : Nat) : Bool := if state.flags &&& flagLocked = 0 then false
  else if state.flags &&& flagUnlockInitiated = 0 then true
  else now < state.lockUnion

/-- The soonest time at which a locked account can be unlocked. -/
def unlockFloor (now : Nat) : Nat := if state.flags &&& flagUnlockInitiated ≠ 0 then state.lockUnion
  else min (now + state.lockUnion % 2 ^ 16) (2 ^ 64 - 1)

def isInitialized : Bool :=
  0 < state.localSequence ∨ 0 < state.localEpoch ∨ 0 < state.multichainSequence

def fields : List Bytes :=
  [[0], beBytes 2 state.defaultEoaScope.toNat, beBytes 6 state.defaultEoaExpiry,
    beBytes 6 state.lockUnion, beBytes 1 state.flags.toNat,
    beBytes 4 state.localEpoch, beBytes 4 state.localSequence,
    beBytes 8 state.multichainSequence]

/-- Bytes of a field beyond its width are dropped. -/
def toWord : B256 := ⟨state.fields.flatten, by simp [fields]⟩

/-- Every field is within the width that it is packed into. -/
structure Fits (state : AccountState) : Prop where
  multichainSequence : state.multichainSequence < 2 ^ 64
  localSequence : state.localSequence < 2 ^ 32
  localEpoch : state.localEpoch < 2 ^ 32
  lockUnion : state.lockUnion < 2 ^ 48
  defaultEoaExpiry : state.defaultEoaExpiry < 2 ^ 48

theorem fromWord_toWord {state : AccountState} (hfits : state.Fits) :
    fromWord state.toWord = state := by
  have hscope : slice state.toWord.val 1 3 = beBytes 2 state.defaultEoaScope.toNat :=
    slice_flatten (state.fields.take 1) _ (state.fields.drop 2) rfl rfl
  have hexpiry : slice state.toWord.val 3 9 = beBytes 6 state.defaultEoaExpiry :=
    slice_flatten (state.fields.take 2) _ (state.fields.drop 3) rfl rfl
  have hlock : slice state.toWord.val 9 15 = beBytes 6 state.lockUnion :=
    slice_flatten (state.fields.take 3) _ (state.fields.drop 4) rfl rfl
  have hflags : slice state.toWord.val 15 16 = beBytes 1 state.flags.toNat :=
    slice_flatten (state.fields.take 4) _ (state.fields.drop 5) rfl rfl
  have hepoch : slice state.toWord.val 16 20 = beBytes 4 state.localEpoch :=
    slice_flatten (state.fields.take 5) _ (state.fields.drop 6) rfl rfl
  have hsequence : slice state.toWord.val 20 24 = beBytes 4 state.localSequence :=
    slice_flatten (state.fields.take 6) _ (state.fields.drop 7) rfl rfl
  have hmultichain : slice state.toWord.val 24 32 = beBytes 8 state.multichainSequence :=
    slice_flatten (state.fields.take 7) _ (state.fields.drop 8) rfl rfl
  have hnarrow : beNat (beBytes 2 state.defaultEoaScope.toNat) =
      state.defaultEoaScope.toNat := beNat_beBytes_of_lt state.defaultEoaScope.isLt
  have hbyte : beNat (beBytes 1 state.flags.toNat) = state.flags.toNat :=
    beNat_beBytes_of_lt state.flags.isLt
  apply AccountState.ext
  · exact (congrArg beNat hmultichain).trans (beNat_beBytes_of_lt hfits.multichainSequence)
  · exact (congrArg beNat hsequence).trans (beNat_beBytes_of_lt hfits.localSequence)
  · exact (congrArg beNat hepoch).trans (beNat_beBytes_of_lt hfits.localEpoch)
  · unfold fromWord
    rw [hflags, hbyte, ofNat_toNat, setWidth_eq]
  · exact (congrArg beNat hlock).trans (beNat_beBytes_of_lt hfits.lockUnion)
  · exact (congrArg beNat hexpiry).trans (beNat_beBytes_of_lt hfits.defaultEoaExpiry)
  · unfold fromWord
    rw [hscope, hnarrow, ofNat_toNat, setWidth_eq]

theorem fits_fromWord (word : B256) : (fromWord word).Fits where
  multichainSequence := beNat_slice_lt word 24 32 8 rfl
  localSequence := beNat_slice_lt word 20 24 4 rfl
  localEpoch := beNat_slice_lt word 16 20 4 rfl
  lockUnion := beNat_slice_lt word 9 15 6 rfl
  defaultEoaExpiry := beNat_slice_lt word 3 9 6 rfl

/-- An account that nothing was ever written for. -/
def zero : AccountState := ⟨0, 0, 0, 0, 0, 0, 0⟩

theorem fromWord_default : fromWord default = zero := by decide

theorem revoked_or (flags : BitVec 8) :
    (flags ||| defaultEoaRevokedFlag) &&& defaultEoaRevokedFlag ≠ 0 := by
  revert flags
  decide

theorem not_revoked_and_not (flags : BitVec 8) :
    (flags &&& ~~~defaultEoaRevokedFlag) &&& defaultEoaRevokedFlag = 0 := by
  revert flags
  decide

end AccountState

end Eip8130

end BaseChain
