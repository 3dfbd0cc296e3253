/-
The policy registry of the Denim version: lists of accounts with an admin, and unions
and intersections of such lists.  Event logs, gas and the bytecode marker of the
first write are not part of the model.
-/
import BaseChain.CheckedArith
import BaseChain.PolicyId

namespace BaseChain

open Checked Function Policy.PolicyType

namespace Policy

inductive PolicyError where
  | policyNotFound
  | batchSizeTooLarge (maxBatchSize : Nat)
  | unauthorized
  | childPoliciesOutsideOfRange
  | invalidChildPolicy (childPolicyId : PolicyId)
  | zeroAddress
  | incompatiblePolicyType
  | noPendingAdmin
  | underOverflow
  | enumConversionError
deriving DecidableEq

/-- The storage of the registry.  A slot that was never written is zero. -/
structure Registry where
  policies : PolicyId → PackedPolicy
  members : PolicyId → Address → Bool
  pendingAdmins : PolicyId → Address
  nextCounter : Nat
  children : PolicyId → List PolicyId

def Registry.empty : Registry where
  policies _ := .absent
  members _ _ := false
  pendingAdmins _ := default
  nextCounter := 0
  children _ := []

variable (storage : Registry)

namespace Registry

variable (policyId : PolicyId)

def writePolicyWord (word : PackedPolicy) : Registry :=
  { storage with policies := update storage.policies policyId word }

def setMember (member : Bool) (account : Address) : Registry :=
  { storage with
    members := update storage.members policyId (update (storage.members policyId) account member) }

def setMembers (member : Bool) (accounts : List Address) : Registry :=
  accounts.foldl (fun storage account => storage.setMember policyId member account) storage

def writePendingAdmin (admin : Address) : Registry :=
  { storage with
    pendingAdmins := update storage.pendingAdmins policyId admin }

def writeChildren (childPolicyIds : List PolicyId) : Registry :=
  { storage with
    children := update storage.children policyId childPolicyIds }

end Registry

def builtinPolicyCount : Nat := 2

def maxAccountsPerBatch : Nat := 64

def minChildPolicies : Nat := 2

def maxChildPolicies : Nat := 4

section Checks

def requireExistingPolicy (policyId : PolicyId) : Except PolicyError PackedPolicy :=
  if (storage.policies policyId).isPresent then .ok (storage.policies policyId)
  else .error .policyNotFound

def requireAccountBatchSize (accounts : List Address) : Except PolicyError Unit :=
  ensure (accounts.length ≤ maxAccountsPerBatch) (.batchSizeTooLarge maxAccountsPerBatch)

def requireAdmin (caller : Address) (policyId : PolicyId) : Except PolicyError PackedPolicy := do
  let packed ← requireExistingPolicy storage policyId
  ensure (packed.admin = caller) .unauthorized
  return packed

variable (childPolicyIds : List PolicyId)

def requireChildPolicyInRange : Except PolicyError Unit :=
  ensure (minChildPolicies ≤ childPolicyIds.length ∧ childPolicyIds.length ≤ maxChildPolicies)
    .childPoliciesOutsideOfRange

def requireExistingChildren : List PolicyId → Except PolicyError Unit
  | [] => .ok ()
  | child :: rest => do
      let _ ← requireExistingPolicy storage (basePolicyId child)
      requireExistingChildren rest

def requireSimpleChildren : List PolicyId → Except PolicyError Unit
  | [] => .ok ()
  | child :: rest => do
      ensure (¬ (isBuiltin (basePolicyId child) ∨ isComposite (basePolicyId child)))
        (.invalidChildPolicy child)
      requireSimpleChildren rest

/-- A missing child is reported before a child of the wrong kind, over all of them. -/
def validateCompositeChildPolicies : Except PolicyError Unit := do
  requireExistingChildren storage childPolicyIds
  requireSimpleChildren childPolicyIds

def validateCreatePolicyInputs (admin : Address) (policyType : PolicyType) :
    Except PolicyError Nat := do
  ensure (admin ≠ default) .zeroAddress
  ensure (policyType = .blocklist ∨ policyType = .allowlist) .incompatiblePolicyType
  return policyType.discriminant

end Checks

section Operations

variable (caller : Address)

/-- The first policy that is made also writes the two built-in ones. -/
def ensureInitializedAndGetCounter : Nat × Registry :=
  if builtinPolicyCount ≤ storage.nextCounter then (storage.nextCounter, storage)
  else
    let builtin := PackedPolicy.new default
    (builtinPolicyCount,
      { (storage.writePolicyWord alwaysAllowId builtin).writePolicyWord
          alwaysBlockId builtin with nextCounter := builtinPolicyCount })

variable (admin : Address)

def createPolicyInner (policyType : Nat) : Except PolicyError (PolicyId × Registry) := do
  let (counter, storage) := ensureInitializedAndGetCounter storage
  ensure (¬ counterMask ≤ counter) .underOverflow
  let policyId := makeId policyType counter
  return (policyId, { storage with nextCounter := counter + 1 }.writePolicyWord
    policyId (.new admin))

variable (policyType : PolicyType)

def createPolicy : Except PolicyError (PolicyId × Registry) := do
  let discriminant ← validateCreatePolicyInputs admin policyType
  createPolicyInner storage admin discriminant

def createPolicyWithAccounts
    (accounts : List Address) : Except PolicyError (PolicyId × Registry) := do
  let discriminant ← validateCreatePolicyInputs admin policyType
  requireAccountBatchSize accounts
  let (policyId, created) ← createPolicyInner storage admin discriminant
  let filled := created.setMembers policyId true accounts
  match policyType with
  | .allowlist | .blocklist => return (policyId, filled)
  | _ => .error .enumConversionError

def createCompositePolicy (childPolicyIds : List PolicyId) :
    Except PolicyError (PolicyId × Registry) := do
  ensure (admin ≠ default) .zeroAddress
  ensure (policyType = .union ∨ policyType = .intersect) .incompatiblePolicyType
  requireChildPolicyInRange childPolicyIds
  validateCompositeChildPolicies storage childPolicyIds
  let (policyId, created) ← createPolicyInner storage admin policyType.discriminant
  return (policyId, created.writeChildren policyId childPolicyIds)

variable (policyId : PolicyId)

def updateComposite (childPolicyIds : List PolicyId) : Except PolicyError Registry := do
  let packed ← requireExistingPolicy storage policyId
  ensure (isComposite policyId = true) .incompatiblePolicyType
  ensure (packed.admin = caller) .unauthorized
  requireChildPolicyInRange childPolicyIds
  validateCompositeChildPolicies storage childPolicyIds
  return storage.writeChildren policyId childPolicyIds

/-- Staging the zero address takes the staged admin back. -/
def stageUpdateAdmin (newAdmin : Address) : Except PolicyError Registry := do
  let _ ← requireAdmin storage caller policyId
  return storage.writePendingAdmin policyId newAdmin

def finalizeUpdateAdmin : Except PolicyError Registry := do
  let packed ← requireExistingPolicy storage policyId
  let pending := storage.pendingAdmins policyId
  ensure (pending ≠ default) .noPendingAdmin
  ensure (pending = caller) .unauthorized
  return (storage.writePolicyWord policyId
    (packed.withAdmin caller)).writePendingAdmin policyId default

def renounceAdmin : Except PolicyError Registry := do
  let packed ← requireAdmin storage caller policyId
  return (storage.writePolicyWord policyId
    (packed.withAdmin default)).writePendingAdmin policyId default

/-- The order of the checks is existence, type, admin, size of the batch. -/
def updateMembership (expectedType : PolicyType) (add : Bool)
    (accounts : List Address) : Except PolicyError Registry := do
  let packed ← requireExistingPolicy storage policyId
  ensure (policyIdType policyId = expectedType.discriminant) .incompatiblePolicyType
  ensure (packed.admin = caller) .unauthorized
  requireAccountBatchSize accounts
  return storage.setMembers policyId add accounts

def updateAllowlist (allowed : Bool) (accounts : List Address) : Except PolicyError Registry :=
  updateMembership storage caller policyId .allowlist allowed accounts

def updateBlocklist (blocked : Bool) (accounts : List Address) : Except PolicyError Registry :=
  updateMembership storage caller policyId .blocklist blocked accounts

end Operations

section Reads

def policyExists (policyId : PolicyId) : Bool :=
  let policyId := basePolicyId policyId
  if policyId = alwaysAllowId ∨ policyId = alwaysBlockId then true
  else if isWellFormed policyId = false then false
  else (storage.policies policyId).isPresent

def getPolicyAdmin (policyId : PolicyId) : Address :=
  let policyId := basePolicyId policyId
  if isWellFormed policyId = false then default
  else if (storage.policies policyId).isPresent then
    (storage.policies policyId).admin
  else default

/-- How an evaluation can fail to give an answer: it recurses too deep, or it gets to
the arm that the source marks as unreachable. -/
inductive EvaluationFault where
  | outOfFuel
  | unreachableArm
deriving DecidableEq

def anyAuthorized (evaluate : PolicyId → Except EvaluationFault Bool) :
    List PolicyId → Except EvaluationFault Bool
  | [] => .ok false
  | child :: rest => do
      let authorized ← evaluate child
      if authorized then .ok true else anyAuthorized evaluate rest

def allAuthorized (evaluate : PolicyId → Except EvaluationFault Bool) :
    List PolicyId → Except EvaluationFault Bool
  | [] => .ok true
  | child :: rest => do
      let authorized ← evaluate child
      if authorized then allAuthorized evaluate rest else .ok false

/-- The recursion of the source, cut off at a depth. -/
def isAuthorized : Nat → PolicyId → Address → Except EvaluationFault Bool
  | 0, _, _ => .error .outOfFuel
  | fuel + 1, policyId, account =>
    if policyId = alwaysAllowId then .ok true
    else if policyId = alwaysBlockId then .ok false
    else if isInverted policyId = true then
      let base := basePolicyId policyId
      if policyExists storage base = false then .ok false
      else do
        let authorized ← isAuthorized fuel base account
        return !authorized
    -- malformed ids are unauthorized
    else if isWellFormed policyId = false then .ok false
    else if policyIdType policyId = union.discriminant then
      anyAuthorized (fun child => isAuthorized fuel child account) (storage.children policyId)
    else if policyIdType policyId = intersect.discriminant then
      allAuthorized (fun child => isAuthorized fuel child account) (storage.children policyId)
    else if policyIdType policyId = allowlist.discriminant then
      .ok (storage.members policyId account)
    else if policyIdType policyId = blocklist.discriminant then
      .ok (!storage.members policyId account)
    else .error .unreachableArm

end Reads

inductive RegistryOperation where
  | createPolicy (admin : Address) (policyType : PolicyType)
  | createPolicyWithAccounts (admin : Address) (policyType : PolicyType)
      (accounts : List Address)
  | createCompositePolicy (admin : Address) (policyType : PolicyType)
      (childPolicyIds : List PolicyId)
  | updateComposite (policyId : PolicyId) (childPolicyIds : List PolicyId)
  | stageUpdateAdmin (policyId : PolicyId) (newAdmin : Address)
  | finalizeUpdateAdmin (policyId : PolicyId)
  | renounceAdmin (policyId : PolicyId)
  | updateAllowlist (policyId : PolicyId) (allowed : Bool) (accounts : List Address)
  | updateBlocklist (policyId : PolicyId) (blocked : Bool) (accounts : List Address)

/-- An operation of a caller, with the id of the policy if it makes one. -/
def RegistryOperation.perform (storage : Registry) (caller : Address) :
    RegistryOperation → Except PolicyError (Option PolicyId × Registry)
  | .createPolicy admin policyType => do
      let (policyId, after) ← Policy.createPolicy storage admin policyType
      return (some policyId, after)
  | .createPolicyWithAccounts admin policyType accounts => do
      let (policyId, after) ← Policy.createPolicyWithAccounts storage admin policyType accounts
      return (some policyId, after)
  | .createCompositePolicy admin policyType childPolicyIds => do
      let (policyId, after) ← Policy.createCompositePolicy storage admin policyType childPolicyIds
      return (some policyId, after)
  | .updateComposite policyId childPolicyIds => do
      let after ← Policy.updateComposite storage caller policyId childPolicyIds
      return (none, after)
  | .stageUpdateAdmin policyId newAdmin => do
      let after ← Policy.stageUpdateAdmin storage caller policyId newAdmin
      return (none, after)
  | .finalizeUpdateAdmin policyId => do
      let after ← Policy.finalizeUpdateAdmin storage caller policyId
      return (none, after)
  | .renounceAdmin policyId => do
      let after ← Policy.renounceAdmin storage caller policyId
      return (none, after)
  | .updateAllowlist policyId allowed accounts => do
      let after ← Policy.updateAllowlist storage caller policyId allowed accounts
      return (none, after)
  | .updateBlocklist policyId blocked accounts => do
      let after ← Policy.updateBlocklist storage caller policyId blocked accounts
      return (none, after)

structure RegistryRequest where
  caller : Address
  operation : RegistryOperation

/-- The requests to the registry one after the other. -/
def Registry.run : Registry → List RegistryRequest → Registry := Checked.run fun storage request =>
    (request.operation.perform storage request.caller).map Prod.snd

end Policy

end BaseChain
