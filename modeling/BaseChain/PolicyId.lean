/-
Policy ids and packed policy words.  An id is a word of 64 bits: the top byte is the
type, whose highest bit inverts the policy, and the rest is a counter.
-/
import BaseChain.RollupConfig
import Mathlib.Data.Nat.Bitwise

namespace BaseChain

open BitVec

namespace Policy

abbrev PolicyId := BitVec 64

inductive PolicyType where
  | blocklist
  | allowlist
  | union
  | intersect
deriving DecidableEq

def PolicyType.discriminant : PolicyType → Nat
  | .blocklist => 0
  | .allowlist => 1
  | .union => 2
  | .intersect => 3

def counterMask : Nat := 2 ^ 56 - 1

def invertedPolicyBit : PolicyId := 1#64 <<< 63

def alwaysAllowId : PolicyId := 0#64

def alwaysBlockId : PolicyId := (1#64 <<< 56) ||| 1#64

variable (policyId : PolicyId)

/-- The type in the top byte. -/
def policyIdType : Nat := (policyId >>> 56).toNat

def makeId (policyType counter : Nat) : PolicyId := (BitVec.ofNat 64 policyType <<< 56) |||
    (BitVec.ofNat 64 counter &&& BitVec.ofNat 64 counterMask)

def invertedPolicyId : PolicyId := policyId ^^^ invertedPolicyBit

def basePolicyId : PolicyId := policyId &&& ~~~invertedPolicyBit

def isInverted : Bool := policyId &&& invertedPolicyBit != 0#64

def isComposite : Bool := policyIdType policyId == PolicyType.union.discriminant ||
    policyIdType policyId == PolicyType.intersect.discriminant

def isWellFormed : Bool := policyIdType policyId ≤ PolicyType.intersect.discriminant

def isBuiltin : Bool := policyId == alwaysAllowId || policyId == alwaysBlockId

section Ids

variable (policyId : PolicyId)

theorem policyIdType_eq : policyIdType policyId = policyId.toNat / 2 ^ 56 := by
  unfold policyIdType
  rw [toNat_ushiftRight, Nat.shiftRight_eq_div_pow]

theorem base_toNat : (basePolicyId policyId).toNat = policyId.toNat % 2 ^ 63 := by
  have hmask : (~~~invertedPolicyBit).toNat = 2 ^ 63 - 1 := by decide
  unfold basePolicyId
  rw [toNat_and, hmask, Nat.and_two_pow_sub_one_eq_mod]

theorem isInverted_eq : isInverted policyId = policyId.msb := by
  have hbit : policyId &&& invertedPolicyBit =
      if policyId.msb then invertedPolicyBit else 0#64 := by
    ext index hindex
    unfold invertedPolicyBit
    rw [← twoPow_eq]
    by_cases htop : index = 63
    · cases hmsb : policyId.msb <;> simp_all [msb_eq_getLsbD_last]
    · cases hmsb : policyId.msb <;> simp [htop]
  unfold isInverted
  rw [hbit]
  cases policyId.msb with
  | true | false => decide

theorem isInverted_iff : isInverted policyId = true ↔ 2 ^ 63 ≤ policyId.toNat := by
  rw [isInverted_eq, msb_eq_decide, decide_eq_true_iff]

theorem base_of_not_inverted (hplain : isInverted policyId = false) :
    basePolicyId policyId = policyId := by
  apply eq_of_toNat_eq
  rw [base_toNat]
  apply Nat.mod_eq_of_lt
  by_contra hbig
  have hflip := (isInverted_iff policyId).mpr (Nat.le_of_not_lt hbig)
  rw [hplain] at hflip
  cases hflip

theorem not_inverted_base : isInverted (basePolicyId policyId) = false := by
  rw [Bool.eq_false_iff, Ne, isInverted_iff, base_toNat, not_le]
  exact Nat.mod_lt _ (by decide)

@[simp] theorem base_base : basePolicyId (basePolicyId policyId) = basePolicyId policyId :=
  base_of_not_inverted _ (not_inverted_base policyId)

theorem inverted_base : basePolicyId (invertedPolicyId policyId) = basePolicyId policyId := by
  unfold basePolicyId invertedPolicyId
  ext index hindex
  simp only [getElem_and, getElem_xor, getElem_not]
  cases policyId[index] <;> cases invertedPolicyBit[index] <;> rfl

theorem isInverted_inverted : isInverted (invertedPolicyId policyId) = !isInverted policyId := by
  rw [isInverted_eq, isInverted_eq]
  unfold invertedPolicyId
  rw [msb_xor]
  have htop : invertedPolicyBit.msb = true := by decide
  rw [htop, Bool.xor_true]

end Ids

section Made

variable {policyType counter : Nat}

section

variable (htype : policyType ≤ 3) (hcounter : counter < 2 ^ 56)
include htype hcounter

theorem makeId_toNat : (makeId policyType counter).toNat = policyType * 2 ^ 56 + counter := by
  have hsmall : policyType < 2 ^ 64 := by omega
  have hwide : counter < 2 ^ 64 := by omega
  have hshifted : policyType * 2 ^ 56 < 2 ^ 64 := by omega
  unfold makeId counterMask
  rw [toNat_or, toNat_shiftLeft, toNat_and, toNat_ofNat, toNat_ofNat, toNat_ofNat,
    Nat.mod_eq_of_lt hsmall, Nat.mod_eq_of_lt hwide, Nat.shiftLeft_eq,
    Nat.mod_eq_of_lt hshifted, Nat.mod_eq_of_lt (by decide),
    Nat.and_two_pow_sub_one_eq_mod, Nat.mod_eq_of_lt hcounter,
    ← Nat.shiftLeft_eq, ← Nat.shiftLeft_add_eq_or_of_lt hcounter]

theorem policyIdType_makeId : policyIdType (makeId policyType counter) = policyType := by
  rw [policyIdType_eq, makeId_toNat htype hcounter]
  omega

theorem not_inverted_makeId : isInverted (makeId policyType counter) = false := by
  rw [Bool.eq_false_iff, Ne, isInverted_iff, makeId_toNat htype hcounter]
  omega

theorem makeId_counter : (makeId policyType counter).toNat % 2 ^ 56 = counter := by
  rw [makeId_toNat htype hcounter]
  omega

end

end Made

/-- A policy word: bit 255 says that the policy exists, the low 160 bits are its
admin. -/
def existsBit : Nat := 2 ^ 255

def adminMask : Nat := 2 ^ 160 - 1

structure PackedPolicy where
  word : Nat
deriving DecidableEq

namespace PackedPolicy

def new (admin : Address) : PackedPolicy := ⟨beNat admin.val ||| existsBit⟩

def withAdmin (_ : PackedPolicy) (newAdmin : Address) : PackedPolicy := new newAdmin

def admin (packed : PackedPolicy) : Address :=
  ⟨beBytes 20 (packed.word &&& adminMask), beBytes_length 20 _⟩

def isPresent (packed : PackedPolicy) : Bool := packed.word &&& existsBit != 0

/-- The word of a policy that was never written. -/
def absent : PackedPolicy := ⟨0⟩

@[simp] theorem isPresent_new (admin : Address) : (new admin).isPresent = true := by
  unfold isPresent new existsBit
  rw [Nat.and_two_pow, Nat.testBit_or, Nat.testBit_two_pow_self, Bool.or_true]
  decide

@[simp] theorem isPresent_absent : absent.isPresent = false := by decide

@[simp] theorem admin_new (admin : Address) : (new admin).admin = admin := by
  have hbound : beNat admin.val < 2 ^ 160 := by
    have hlt := beNat_lt admin.val
    rw [admin.length_val] at hlt
    exact hlt.trans_eq (by decide)
  -- the flag lies above the bits of the admin
  have hlow : (beNat admin.val ||| existsBit) &&& adminMask = beNat admin.val := by
    unfold adminMask existsBit
    rw [Nat.and_two_pow_sub_one_eq_mod, Nat.or_mod_two_pow, Nat.mod_eq_of_lt hbound]
    have hflag : 2 ^ 255 % 2 ^ 160 = 0 := by decide
    rw [hflag, Nat.or_zero]
  apply FixedBytes.ext
  change beBytes 20 ((beNat admin.val ||| existsBit) &&& adminMask) = admin.val
  rw [hlow]
  exact beBytes_beNat_of_length admin.length_val

end PackedPolicy

end Policy

end BaseChain
