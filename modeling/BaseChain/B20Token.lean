/-
The B-20 token logic of the Denim version, as far as the asset and the stablecoin
token share it: storage, guards and operations.  Quantities of 256 bits are natural
numbers.  Event logs and gas are not part of the model.
-/
import BaseChain.CheckedArith
import Mathlib.Logic.Function.Basic

namespace BaseChain

open Checked Function

def u256Max : Nat := 2 ^ 256 - 1

/-- The 32 bytes of a number. -/
def B256.ofNat (value : Nat) : B256 := ⟨beBytes 32 value, beBytes_length 32 value⟩

namespace B20

inductive PausableFeature where
  | transfer
  | mint
  | burn
  | seize
deriving DecidableEq

/-- The storage bit of a feature. -/
def PausableFeature.mask : PausableFeature → Nat
  | .transfer => 1
  | .mint => 2
  | .burn => 4
  | .seize => 8

inductive TokenRole where
  | defaultAdmin
  | mint
  | burn
  | burnBlocked
  | seize
  | pause
  | unpause
  | metadata
deriving DecidableEq

def TokenRole.id : TokenRole → B256
  | .defaultAdmin => default
  | .mint => .ofNat
      0x154c00819833dac601ee5ddded6fda79d9d8b506b911b3dbd54cdb95fe6c3686
  | .burn => .ofNat
      0xe97b137254058bd94f28d2f3eb79e2d34074ffb488d042e3bc958e0a57d2fa22
  | .burnBlocked => .ofNat
      0x7408fdc0d31c7bcb349eab611f5d1168acd4303574993f8cdc98b1cd18c41cae
  | .seize => .ofNat
      0x3469b8b0d89e9604f8510ed143f74a8336d22955d4f83e23bf53d9414e27f432
  | .pause => .ofNat
      0x139c2898040ef16910dc9f44dc697df79363da767d8bc92f2e310312b816e46d
  | .unpause => .ofNat
      0x265b220c5a8891efdd9e1b1b7fa72f257bd5169f8d87e319cf3dad6ff52b94ae
  | .metadata => .ofNat
      0x6bd6b5318a46e5fff572d5e4258a20774aab40cc35ac7680654b9081fcc82f80

inductive PolicyType where
  | transferSender
  | transferReceiver
  | transferExecutor
  | mintReceiver
  | seizeExempt
  | seizeReceiver
deriving DecidableEq

def PolicyType.id : PolicyType → B256
  | .transferSender => .ofNat
      0xb81736c875ab819dd97f59f2a6542cfb731ad52b4ae15a6f24df2fb02b0327f5
  | .transferReceiver => .ofNat
      0x8a4b3fa2d8b921852bc0089c6ef0958aa6961897be36fd731330fe2cd23f8363
  | .transferExecutor => .ofNat
      0x10be5173aff2a44e748bd9acd8b19fe34689581398a9db7ba2fb671e786ff7d8
  | .mintReceiver => .ofNat
      0xa0d5ae037e66a09119acf080a1d807abb9b6d03b6b9130eb19f7c1e6bdb8ffc8
  | .seizeExempt => .ofNat
      0xedb5da348cfb67af08746d3afd1be81034b50d5c8576f31aff688f39dfd540ed
  | .seizeReceiver => .ofNat
      0xbf15b19caf5c77422c038bc25f26b8b815c3a14f6d04c6616076b81bcfe07b3d

def PolicyType.fromId (id : B256) : Option PolicyType :=
  [.transferSender, .transferReceiver, .transferExecutor, .mintReceiver,
    .seizeExempt, .seizeReceiver].find? fun policyType : PolicyType =>
      id = policyType.id

inductive TokenError where
  | contractPaused (feature : PausableFeature)
  | accessControlUnauthorizedAccount (account : Address) (neededRole : B256)
  | policyForbids (policyScope : B256) (policyId : Nat)
  | accountNotBlocked (account : Address)
  | accountNotSeizable (account : Address)
  | insufficientBalance (sender : Address) (balance needed : Nat)
  | insufficientAllowance (spender : Address) (allowance needed : Nat)
  | invalidReceiver (receiver : Address)
  | invalidSender (sender : Address)
  | invalidApprover (approver : Address)
  | invalidSpender (spender : Address)
  | supplyCapExceeded (cap attempted : Nat)
  | invalidSupplyCap (currentSupply proposedCap : Nat)
  | emptyFeatureSet
  | enumConversionError
  | lastAdminCannotRenounce
  | notSoleAdmin
  | accessControlBadConfirmation
  | unsupportedPolicyType (policyScope : B256)
  | policyNotFound (policyId : Nat)
  | expiredSignature (deadline : Nat)
  | invalidSigner (signer owner : Address)
  | underOverflow
  | invalidMultiplier
  | invalidMetadataKey
  | lengthMismatch (leftLen rightLen : Nat)
  | emptyBatch
  | announcementIdAlreadyUsed (id : Bytes)
  | effectiveAtInPast (effectiveAt : Nat)
  | effectiveAtTooFar (effectiveAt : Nat)
  | uiMultiplierUpdateExists (effectiveAt : Nat)
  | uiMultiplierUpdateDoesNotExist
  | internalCallMalformed (call : Bytes)
  | announcementInProgress
  | internalCallFailed (call : Bytes)
  | unknownFunctionSelector
deriving DecidableEq

/-- Panics are passed on as they are, never wrapped into another revert. -/
def TokenError.isSystemError : TokenError → Bool
  | .underOverflow | .enumConversionError => true
  | _ => false

variable (left right : Nat)

def checkedAdd : Except TokenError Nat :=
  if u256Max < left + right then .error .underOverflow else .ok (left + right)

def checkedSub : Except TokenError Nat :=
  if left < right then .error .underOverflow else .ok (left - right)

def checkedMul : Except TokenError Nat :=
  if u256Max < left * right then .error .underOverflow else .ok (left * right)

/-- The storage that every token variant has. -/
structure CoreStorage where
  name : Bytes
  symbol : Bytes
  contractUri : Bytes
  totalSupply : Nat
  balances : Address → Nat
  allowances : Address → Address → Nat
  roles : B256 → Address → Bool
  roleAdmins : B256 → B256
  adminCount : Nat
  policyIds : PolicyType → Nat
  paused : Nat
  supplyCap : Nat
  nonces : Address → Nat

/-- What an operation sees besides the token's storage: where and when it runs, the
answers of the policy registry, the hash function and signature recovery, which is
given the hash, `r`, `s` and the parity. -/
structure Context where
  tokenAddress : Address
  chainId : Nat
  timestamp : Nat
  isAuthorized : Nat → Address → Bool
  policyExists : Nat → Bool
  keccak256 : Bytes → B256
  recoverAddress : B256 → B256 → B256 → Bool → Option Address

namespace CoreStorage

variable (token : CoreStorage)

def setBalance (account : Address) (balance : Nat) :
    CoreStorage :=
  { token with balances := update token.balances account balance }

def setAllowance (owner spender : Address) (amount : Nat) :
    CoreStorage :=
  { token with
    allowances := update token.allowances owner (update (token.allowances owner) spender amount) }

variable (role : B256)

def setRole (account : Address) (enabled : Bool) : CoreStorage :=
  { token with
    roles := update token.roles role (update (token.roles role) account enabled) }

/-- Members are counted for the default admin role only. -/
def roleMemberCount : Nat := if role = TokenRole.defaultAdmin.id then token.adminCount else 0

def setRoleMemberCount (count : Nat) :
    CoreStorage :=
  if role = TokenRole.defaultAdmin.id then { token with adminCount := count }
  else token

def incrementNonce (owner : Address) : Except TokenError CoreStorage := do
  let next ← checkedAdd (token.nonces owner) 1
  return { token with nonces := update token.nonces owner next }

end CoreStorage

variable (context : Context)

section Guards

variable (token : CoreStorage)

def ensureRole (caller : Address) (role : B256) : Except TokenError Unit :=
  ensure (token.roles role caller = true) (.accessControlUnauthorizedAccount caller role)

def ensureTokenRole (caller : Address) (role : TokenRole) : Except TokenError Unit :=
  ensureRole token caller role.id

/-- The role check of an operation that the factory may do without it. -/
def ensureTokenRoleUnless (privileged : Bool) (caller : Address)
    (role : TokenRole) : Except TokenError Unit :=
  if privileged then .ok () else ensureTokenRole token caller role

def ensureNotPaused (feature : PausableFeature) : Except TokenError Unit :=
  ensure (token.paused &&& feature.mask = 0) (.contractPaused feature)

variable (policyType : PolicyType)

def ensureAuthorizedById (policyId : Nat) (account : Address) : Except TokenError Unit :=
  ensure (context.isAuthorized policyId account = true) (.policyForbids policyType.id policyId)

variable (account : Address)

def ensurePolicyType : Except TokenError Unit :=
  ensureAuthorizedById context policyType (token.policyIds policyType) account

/-- An account is blocked when the transfer-sender policy does not authorize
it. -/
def ensureBlocked : Except TokenError Unit := ensure
    (context.isAuthorized (token.policyIds .transferSender) account = false)
    (.accountNotBlocked account)

def ensureSeizable : Except TokenError Unit := ensure
    (context.isAuthorized (token.policyIds .seizeExempt) account = false)
    (.accountNotSeizable account)

end Guards

/-- An address other than zero. -/
abbrev NonZeroAddress := { address : Address // address ≠ default }

def NonZeroAddress.new (address : Address) : Option NonZeroAddress :=
  if h : address = default then none else some ⟨address, h⟩

/-- An address that a token may credit: neither zero nor the token itself. -/
abbrev CreditRecipient (tokenAddress : Address) :=
  { address : Address // address ≠ default ∧ address ≠ tokenAddress }

def CreditRecipient.recipient (tokenAddress address : Address) :
    Option (CreditRecipient tokenAddress) :=
  if h : address ≠ default ∧ address ≠ tokenAddress then some ⟨address, h⟩
  else none

structure TransferPolicyIds where
  sender : Nat
  receiver : Nat
  executor : Nat

/-- One movement of tokens; without policies it is that of the factory. -/
structure TokenTransfer (tokenAddress : Address) where
  caller : Address
  source : NonZeroAddress
  target : CreditRecipient tokenAddress
  amount : Nat
  policies : Option TransferPolicyIds

variable (token : CoreStorage)

def transferPolicyIds : TransferPolicyIds where
  sender := token.policyIds .transferSender
  receiver := token.policyIds .transferReceiver
  executor := token.policyIds .transferExecutor

def moveBalance (source target : Address) (amount : Nat) : Except TokenError CoreStorage := do
  let sourceBalance := token.balances source
  ensure (amount ≤ sourceBalance) (.insufficientBalance source sourceBalance amount)
  let newSourceBalance ← checkedSub sourceBalance amount
  let debited := token.setBalance source newSourceBalance
  let newTargetBalance ← checkedAdd (debited.balances target) amount
  return debited.setBalance target newTargetBalance

/-- The policies of a transfer.  The sender policy is skipped when the executor
policy has just answered for the same account and id. -/
def checkTransferPolicies (caller source target : Address)
    (policies : TransferPolicyIds) : Except TokenError Unit := do
  ensureAuthorizedById context .transferExecutor policies.executor caller
  if caller ≠ source ∨ policies.executor ≠ policies.sender then
    ensureAuthorizedById context .transferSender policies.sender source
  ensureAuthorizedById context .transferReceiver policies.receiver target

def transferInner (token : CoreStorage) (transfer : TokenTransfer context.tokenAddress) :
    Except TokenError CoreStorage := do
  match transfer.policies with
  | none => pure ()
  | some policies =>
    checkTransferPolicies context transfer.caller transfer.source transfer.target policies
  moveBalance token transfer.source transfer.target transfer.amount

def burnInner (source : Address) (amount : Nat) : Except TokenError CoreStorage := do
  let balance := token.balances source
  ensure (amount ≤ balance) (.insufficientBalance source balance amount)
  let debited := token.setBalance source (balance - amount)
  let newSupply ← checkedSub debited.totalSupply amount
  return { debited with totalSupply := newSupply }

section Operations

variable (token : CoreStorage) (caller : Address) (privileged : Bool)

/-- The recipient of a credit, or the error that there can be none. -/
def creditRecipient (target : Address) : Except TokenError (CreditRecipient context.tokenAddress) :=
  Checked.get (.invalidReceiver target) (CreditRecipient.recipient context.tokenAddress target)

def transferSource (source : Address) : Except TokenError NonZeroAddress :=
  Checked.get (.invalidSender source) (NonZeroAddress.new source)

def transferPolicies : Option TransferPolicyIds :=
  if privileged then none else some (transferPolicyIds token)

def transfer (target : Address) (amount : Nat) : Except TokenError CoreStorage := do
  ensureNotPaused token .transfer
  let target ← creditRecipient context target
  let source ← transferSource caller
  transferInner context token ⟨caller, source, target, amount, transferPolicies token privileged⟩

variable (source target : Address)

def transferFrom (amount : Nat) : Except TokenError CoreStorage := do
  ensureNotPaused token .transfer
  let target ← creditRecipient context target
  let source ← transferSource source
  let allowance := token.allowances source caller
  let isInfinite := allowance = u256Max
  ensure (isInfinite ∨ amount ≤ allowance) (.insufficientAllowance caller allowance amount)
  let moved ← transferInner context token
    ⟨caller, source, target, amount, transferPolicies token privileged⟩
  if isInfinite then return moved
  else return moved.setAllowance source caller (allowance - amount)

def approve (spender : Address) (amount : Nat) : Except TokenError CoreStorage := do
  ensure (caller ≠ default) (.invalidApprover caller)
  ensure (spender ≠ default) (.invalidSpender spender)
  return token.setAllowance caller spender amount

def mint (target : Address) (amount : Nat) : Except TokenError CoreStorage := do
  ensureNotPaused token .mint
  ensureTokenRoleUnless token privileged caller .mint
  let _ ← creditRecipient context target
  ensurePolicyType context token .mintReceiver target
  let newSupply ← checkedAdd token.totalSupply amount
  ensure (newSupply ≤ token.supplyCap) (.supplyCapExceeded token.supplyCap newSupply)
  let minted := { token with totalSupply := newSupply }
  let newBalance ← checkedAdd (minted.balances target) amount
  return minted.setBalance target newBalance

def burn (amount : Nat) : Except TokenError CoreStorage := do
  ensureNotPaused token .burn
  ensureTokenRole token caller .burn
  burnInner token caller amount

def burnBlocked (source : Address) (amount : Nat) : Except TokenError CoreStorage := do
  ensureNotPaused token .burn
  ensureTokenRoleUnless token privileged caller .burnBlocked
  ensureBlocked context token source
  burnInner token source amount

def seizeWithMemo (amount : Nat) : Except TokenError CoreStorage := do
  ensureNotPaused token .seize
  ensureTokenRole token caller .seize
  let _ ← creditRecipient context target
  ensure (source ≠ default) (.invalidSender source)
  ensure (source ≠ target) (.invalidReceiver target)
  ensureSeizable context token source
  ensurePolicyType context token .seizeReceiver target
  moveBalance token source target amount

/-- The features that may be paused; each must be known to the version. -/
def ensureFeatures (allowed features : List PausableFeature) : Except TokenError Unit :=
  ensure (∀ feature ∈ features, feature ∈ allowed) .enumConversionError

def pausableFeatures : List PausableFeature := [.transfer, .mint, .burn, .seize]

def pause (allowed features : List PausableFeature) : Except TokenError CoreStorage := do
  ensureFeatures allowed features
  ensureTokenRoleUnless token privileged caller .pause
  ensure (features ≠ []) .emptyFeatureSet
  return { token with
    paused := features.foldl (fun next feature => next ||| feature.mask) token.paused }

def unpause (allowed features : List PausableFeature) : Except TokenError CoreStorage := do
  ensureFeatures allowed features
  ensureTokenRoleUnless token privileged caller .unpause
  ensure (features ≠ []) .emptyFeatureSet
  return { token with
    paused := features.foldl (fun next feature => next &&& (u256Max - feature.mask)) token.paused }

def maxSupplyCap : Nat := 2 ^ 128 - 1

def updateSupplyCap (newCap : Nat) : Except TokenError CoreStorage := do
  ensureTokenRoleUnless token privileged caller .defaultAdmin
  ensure (token.totalSupply ≤ newCap ∧ newCap ≤ maxSupplyCap)
    (.invalidSupplyCap token.totalSupply newCap)
  return { token with supplyCap := newCap }

def updateName (name : Bytes) : Except TokenError CoreStorage := do
  ensureTokenRoleUnless token privileged caller .metadata
  return { token with name }

def updateSymbol (symbol : Bytes) : Except TokenError CoreStorage := do
  ensureTokenRoleUnless token privileged caller .metadata
  return { token with symbol }

def updateContractUri (contractUri : Bytes) : Except TokenError CoreStorage := do
  ensureTokenRoleUnless token privileged caller .metadata
  return { token with contractUri }

/-- Role admins can be changed as long as there is a default admin. -/
def ensureRoleAdminMutationsAvailable : Except TokenError Unit :=
  ensure (token.roleMemberCount TokenRole.defaultAdmin.id ≠ 0)
    (.accessControlUnauthorizedAccount caller TokenRole.defaultAdmin.id)

variable (role : B256) (account : Address)

def grantRoleUnchecked : Except TokenError CoreStorage := do
  if token.roles role account then return token
  let granted := token.setRole role account true
  if role = TokenRole.defaultAdmin.id then
    let next ← checkedAdd (granted.roleMemberCount role) 1
    return granted.setRoleMemberCount role next
  else return granted

def revokeRoleUnchecked : Except TokenError CoreStorage := do
  if !token.roles role account then return token
  let revoked := token.setRole role account false
  if role = TokenRole.defaultAdmin.id then
    let next ← checkedSub (revoked.roleMemberCount role) 1
    return revoked.setRoleMemberCount role next
  else return revoked

def grantRole : Except TokenError CoreStorage := do
  if role = TokenRole.defaultAdmin.id ∨ privileged = false then
    ensureRoleAdminMutationsAvailable token caller
  if privileged = false then
    ensureRole token caller (token.roleAdmins role)
  grantRoleUnchecked token role account

/-- The last default admin is not removed. -/
def ensureNotLastAdmin : Except TokenError Unit := ensure
    (¬ (role = TokenRole.defaultAdmin.id ∧ token.roles role account = true ∧
      token.roleMemberCount role = 1))
    .lastAdminCannotRenounce

def revokeRole : Except TokenError CoreStorage := do
  if privileged = false then
    ensureRoleAdminMutationsAvailable token caller
    ensureRole token caller (token.roleAdmins role)
  ensureNotLastAdmin token role account
  revokeRoleUnchecked token role account

def renounceRole (confirmation : Address) : Except TokenError CoreStorage := do
  ensure (confirmation = caller) .accessControlBadConfirmation
  ensureNotLastAdmin token role caller
  revokeRoleUnchecked token role caller

def renounceLastAdmin : Except TokenError CoreStorage := do
  ensureRole token caller TokenRole.defaultAdmin.id
  ensure (token.roleMemberCount TokenRole.defaultAdmin.id = 1) .notSoleAdmin
  revokeRoleUnchecked token TokenRole.defaultAdmin.id caller

def setRoleAdmin (role newAdminRole : B256) : Except TokenError CoreStorage := do
  if privileged = false then
    ensureRoleAdminMutationsAvailable token caller
    ensureRole token caller (token.roleAdmins role)
  return { token with
    roleAdmins := update token.roleAdmins role newAdminRole }

variable (supported : List PolicyType)

/-- The policy slot of a scope, if the version has it. -/
def supportedPolicyType (policyScope : B256) : Except TokenError PolicyType :=
  Checked.get (.unsupportedPolicyType policyScope)
    ((PolicyType.fromId policyScope).filter fun policyType =>
      policyType ∈ supported)

def policyTypes : List PolicyType :=
  [.transferSender, .transferReceiver, .transferExecutor, .mintReceiver,
    .seizeExempt, .seizeReceiver]

def updatePolicy (policyScope : B256) (newPolicyId : Nat) : Except TokenError CoreStorage := do
  ensureTokenRoleUnless token privileged caller .defaultAdmin
  let policyType ← supportedPolicyType supported policyScope
  ensure (context.policyExists newPolicyId = true) (.policyNotFound newPolicyId)
  return { token with
    policyIds := update token.policyIds policyType newPolicyId }

end Operations

structure PermitArgs where
  owner : Address
  spender : Address
  value : Nat
  deadline : Nat
  v : Nat
  r : B256
  s : B256

namespace PermitArgs

def typehash : B256 := .ofNat 0x6e71edae12b1b97f4d1f60370fef10105fa2faae0126114a169c64845d6126c9

/-- An address as a 32-byte word. -/
def addressWord (address : Address) : Bytes := List.replicate 12 0 ++ address.val

variable (args : PermitArgs)

def structHash (context : Context) (nonce : Nat) : B256 :=
  context.keccak256 (typehash.val ++ addressWord args.owner ++
    addressWord args.spender ++ beBytes 32 args.value ++ beBytes 32 nonce ++
    beBytes 32 args.deadline)

def signingHash (context : Context) (domainSeparator : B256) (nonce : Nat) : B256 :=
  context.keccak256 ([0x19, 0x01] ++ domainSeparator.val ++ (args.structHash context nonce).val)

/-- The signer of a hash; `v` is the parity plus 27. -/
def recoverSigner (context : Context) (signingHash : B256) : Except TokenError Address := do
  ensure (args.v = 27 ∨ args.v = 28) (.invalidSigner default args.owner)
  Checked.get (.invalidSigner default args.owner)
    (context.recoverAddress signingHash args.r args.s (args.v = 28))

end PermitArgs

def domainTypehash : B256 :=
  .ofNat 0x8b73c3c69bb8fe3d512ecc4cf759cc79239f7b179b0ffacaa9a75d522b39400f

def domainSeparator (token : CoreStorage) : B256 :=
  context.keccak256 (domainTypehash.val ++ (context.keccak256 token.name).val ++
    (context.keccak256 [0x31]).val ++ beBytes 32 context.chainId ++
    PermitArgs.addressWord context.tokenAddress)

def permit (token : CoreStorage) (args : PermitArgs) : Except TokenError CoreStorage := do
  ensure (context.timestamp ≤ args.deadline) (.expiredSignature args.deadline)
  let signingHash := args.signingHash context (domainSeparator context token)
    (token.nonces args.owner)
  let recovered ← args.recoverSigner context signingHash
  ensure (recovered ≠ default ∧ recovered = args.owner) (.invalidSigner recovered args.owner)
  let token ← token.incrementNonce args.owner
  approve token args.owner args.spender args.value

/-- The operations that change a token. -/
inductive Operation where
  | transfer (target : Address) (amount : Nat)
  | transferFrom (source target : Address) (amount : Nat)
  | approve (spender : Address) (amount : Nat)
  | mint (target : Address) (amount : Nat)
  | burn (amount : Nat)
  | burnBlocked (source : Address) (amount : Nat)
  | seizeWithMemo (source target : Address) (amount : Nat)
  | pause (features : List PausableFeature)
  | unpause (features : List PausableFeature)
  | updateSupplyCap (newCap : Nat)
  | updateName (name : Bytes)
  | updateSymbol (symbol : Bytes)
  | updateContractUri (contractUri : Bytes)
  | grantRole (role : B256) (account : Address)
  | revokeRole (role : B256) (account : Address)
  | renounceRole (role : B256) (confirmation : Address)
  | renounceLastAdmin
  | setRoleAdmin (role newAdminRole : B256)
  | updatePolicy (policyScope : B256) (newPolicyId : Nat)
  | permit (args : PermitArgs)

/-- An operation as a caller makes it; the factory makes privileged ones. -/
def Operation.perform (token : CoreStorage) (caller : Address)
    (privileged : Bool) : Operation → Except TokenError CoreStorage
  | .transfer target amount =>
    B20.transfer context token caller privileged target amount
  | .transferFrom source target amount =>
    B20.transferFrom context token caller privileged source target amount
  | .approve spender amount => B20.approve token caller spender amount
  | .mint target amount => B20.mint context token caller privileged target amount
  | .burn amount => B20.burn token caller amount
  | .burnBlocked source amount =>
    B20.burnBlocked context token caller privileged source amount
  | .seizeWithMemo source target amount =>
    B20.seizeWithMemo context token caller source target amount
  | .pause features => B20.pause token caller privileged pausableFeatures features
  | .unpause features =>
    B20.unpause token caller privileged pausableFeatures features
  | .updateSupplyCap newCap => B20.updateSupplyCap token caller privileged newCap
  | .updateName name => B20.updateName token caller privileged name
  | .updateSymbol symbol => B20.updateSymbol token caller privileged symbol
  | .updateContractUri contractUri =>
    B20.updateContractUri token caller privileged contractUri
  | .grantRole role account => B20.grantRole token caller privileged role account
  | .revokeRole role account => B20.revokeRole token caller privileged role account
  | .renounceRole role confirmation => B20.renounceRole token caller role confirmation
  | .renounceLastAdmin => B20.renounceLastAdmin token caller
  | .setRoleAdmin role newAdminRole =>
    B20.setRoleAdmin token caller privileged role newAdminRole
  | .updatePolicy policyScope newPolicyId =>
    B20.updatePolicy context token caller privileged policyTypes policyScope newPolicyId
  | .permit args => B20.permit context token args

end B20

end BaseChain
