/-
Pending execution beside block execution.  The block executor and the builder
of the pending flashblock state are written separately: each applies the
irregular changes that come before the transactions of a block, then runs them.
The EVM, its system calls and the size estimate are parameters both sides call.
-/
import BaseChain.CheckedArith
import BaseChain.SpanTransactionEnvelope

namespace BaseChain

open Checked Function List

namespace PendingExecution

structure AccountInfo where
  balance : Nat := 0
  nonce : Nat := 0
  code : Bytes := []
deriving DecidableEq

/-- A touched account: its new information and the slots that change. -/
structure Account where
  info : AccountInfo
  storage : List (Nat × Nat) := []
  selfdestructed : Bool := false
deriving DecidableEq

abbrev EvmState := List (Address × Account)

structure World where
  basic : Address → Option AccountInfo
  storage : Address → Nat → Nat

variable (world : World)

def World.commitAccount (change : Address × Account) : World := if change.2.selfdestructed then
    { basic := update world.basic change.1 none
      storage := update world.storage change.1 fun _ => 0 }
  else
    { basic := update world.basic change.1 (some change.2.info)
      storage := update world.storage change.1
        (change.2.storage.foldl (fun slots slot => update slots slot.1 slot.2)
          (world.storage change.1)) }

def World.commit (state : EvmState) : World := state.foldl World.commitAccount world

structure Transaction where
  txHash : B256
  txType : OpTxType
  signer : Address
  gasLimit : Nat
  encoded : Bytes

def Transaction.isDeposit (tx : Transaction) : Bool := tx.txType = .deposit

structure ExecutionResult where
  success : Bool
  gasUsed : Nat
  logs : List Bytes
  output : Bytes
deriving DecidableEq

/-- The block environment, the chain's upgrades and the code both sides call. -/
structure BlockEnv where
  isActive : BaseUpgrade → Nat → Bool
  timestamp : Nat
  gasLimit : Nat
  applyBlockhashesContractCall : World → Option World
  applyBeaconRootContractCall : World → Option World
  transact : World → Transaction → Option (ExecutionResult × EvmState)
  maxPayerAuthCost : Transaction → Option Nat
  estimateTxCompressedSize : Bytes → Nat
  create2DeployerBytecode : Bytes
  implementationBytecode : Bytes

variable (env : BlockEnv)

def BlockEnv.active (upgrade : BaseUpgrade) : Bool := env.isActive upgrade env.timestamp

def address (value : Nat) : Address := ⟨beBytes 20 value, beBytes_address value⟩

def l1BlockInfo : Address := address 0x4200000000000000000000000000000000000015

def proxyAdmin : Nat := 0x4200000000000000000000000000000000000018

def baseTime : Address := address 0x4200000000000000000000000000000000000030

def create2DeployerAddr : Address := address 0x13b0D85CcB8bf860b6b79AF3029fCA081AE9beF2

def nonceManager : Address := address 0x813000000000000000000000000000000000aa01

def implementationAddress : Nat := 0xc0D3C0d3C0d3C0D3c0d3C0d3c0D3C0d3c0d30030

def implementationSlot : Nat := 0x360894a13ba1a3210667c828492db98dca3e2076cc3735a920a3ca505d382bbc

def adminSlot : Nat := 0xb53127684a568b3173ae13b9f8a6016e243e63b6e8ee1178d6a717850b5d6103

/-- An account with new code, as it is committed before the transactions. -/
def World.withCode (account : Address) (code : Bytes) : Address × Account :=
  (account, { info := { (world.basic account).getD {} with code := code } })

def ensureCreate2Deployer (world : World) : World :=
  if env.active .canyon && !env.isActive .canyon (env.timestamp - 2) then
    world.commit [world.withCode create2DeployerAddr env.create2DeployerBytecode]
  else world

inductive BaseTimeTransitionError where
  | missingProxy
  | codelessProxy
  | unexpectedProxyAdmin (actual : Nat)
deriving DecidableEq

/-- The implementation installed and the proxy linked to it. -/
def World.linkBaseTime (world : World) (proxyInfo : AccountInfo) : World :=
  world.commit [world.withCode (address implementationAddress) env.implementationBytecode,
    (baseTime, { info := proxyInfo, storage := [(implementationSlot, implementationAddress)] })]

def ensurePredeploy (world : World) : Except BaseTimeTransitionError World :=
  if ¬ env.active .denim then .ok world
  else if world.storage baseTime implementationSlot ≠ 0 then .ok world
  else match world.basic baseTime with
    | none => .error .missingProxy
    | some proxyInfo =>
      if proxyInfo.code = [] then .error .codelessProxy
      else if world.storage baseTime adminSlot ≠ proxyAdmin then
        .error (.unexpectedProxyAdmin (world.storage baseTime adminSlot))
      else .ok (world.linkBaseTime env proxyInfo)

def ensureEip8130SystemAccounts (world : World) : World :=
  if env.active .everest && ((world.basic nonceManager).getD {}).code = [] then
    world.commit [world.withCode nonceManager [0xEF]]
  else world

/-- The two system calls, in the order both sides make them. -/
def systemCalls (world : World) : Option World :=
  (env.applyBlockhashesContractCall world).bind env.applyBeaconRootContractCall

/-- A `u16` at byte 18 of the eighth slot. -/
def fetchDaFootprintGasScalar : Nat := world.storage l1BlockInfo 8 / 2 ^ 96 % 2 ^ 16

def jovianDaFootprintEstimation (world : World) (tx : Transaction) : Nat :=
  saturatingMul (env.estimateTxCompressedSize tx.encoded / 1000000)
    (fetchDaFootprintGasScalar world)

def txDaFootprint (world : World) (tx : Transaction) : Nat :=
  if env.active .jovian && !tx.isDeposit then jovianDaFootprintEstimation env world tx else 0

structure Receipt where
  txType : OpTxType
  status : Bool
  cumulativeGasUsed : Nat
  logs : List Bytes
  depositNonce : Option Nat
  depositReceiptVersion : Option Nat
deriving DecidableEq

/-- What is known of a transaction once it has run. -/
structure ExecutedTransaction where
  result : ExecutionResult
  state : EvmState
  receipt : Receipt
  gasUsed : Nat
  blobGasUsed : Nat

/-- Transactions in order; the first error ends the run. -/
def runTransactions {σ ε : Type} (execute : σ → Transaction → Except ε (σ × ExecutedTransaction)) :
    σ → List Transaction → Except ε (σ × List ExecutedTransaction)
  | state, [] => .ok (state, [])
  | state, tx :: rest => do
      let next ← execute state tx
      let last ← runTransactions execute next.1 rest
      return (last.1, next.2 :: last.2)

theorem runTransactions_cons_eq_ok {σ ε : Type} {state : σ} {tx : Transaction}
    {execute : σ → Transaction → Except ε (σ × ExecutedTransaction)} {rest : List Transaction}
    {last : σ} {executed : List ExecutedTransaction} :
    runTransactions execute state (tx :: rest) = .ok (last, executed) ↔
      ∃ next first later, execute state tx = .ok (next, first) ∧
        runTransactions execute next rest = .ok (last, later) ∧ executed = first :: later := by
  simp only [runTransactions, bind_eq_ok, pure, Except.pure, Except.ok.injEq,
    Prod.mk.injEq, Prod.exists]
  constructor
  · rintro ⟨next, first, hfirst, end', later, hlater, rfl, rfl⟩
    exact ⟨next, first, later, hfirst, hlater, rfl⟩
  · rintro ⟨next, first, later, hfirst, hlater, rfl⟩
    exact ⟨next, first, hfirst, last, later, hlater, rfl, rfl⟩

inductive BlockExecutionError where
  | systemCall
  | baseTime (error : BaseTimeTransitionError)
  | payerAuth
  | transactionGasLimitMoreThanAvailableBlockGas (transactionGasLimit blockAvailableGas : Nat)
  | transactionDaFootprintAboveGasLimit (transactionDaFootprint availableBlockDaFootprint : Nat)
  | evm
deriving DecidableEq

structure BlockExecutor where
  world : World
  receipts : List Receipt := []
  gasUsed : Nat := 0
  daFootprintUsed : Nat := 0

structure BaseTxResult where
  result : ExecutionResult
  state : EvmState
  blobGasUsed : Nat
  txType : OpTxType
  isDeposit : Bool
  depositor : Option AccountInfo

namespace BlockExecutor

variable (executor : BlockExecutor)

def applyPreExecutionChanges : Except BlockExecutionError BlockExecutor := do
  let world ← Checked.get .systemCall (systemCalls env executor.world)
  let world ← (ensurePredeploy env (ensureCreate2Deployer env world)).mapError .baseTime
  return { executor with world := ensureEip8130SystemAccounts env world }

variable (tx : Transaction)

def reservedBlockGas : Except BlockExecutionError Nat := if tx.txType = .eip8130 then
    (Checked.get .payerAuth (env.maxPayerAuthCost tx)).map (saturatingAdd tx.gasLimit)
  else .ok tx.gasLimit

/-- The depositor's account is read before the changes are committed. -/
def txResult (world : World) (tx : Transaction)
    (output : ExecutionResult × EvmState) : BaseTxResult :=
  { result := output.1
    state := output.2
    blobGasUsed := txDaFootprint env world tx
    txType := tx.txType
    isDeposit := tx.isDeposit
    depositor := if env.active .regolith && tx.isDeposit then
      some ((world.basic tx.signer).getD {}) else none }

def executeTransactionWithoutCommit : Except BlockExecutionError BaseTxResult := do
  let reservedGas ← reservedBlockGas env tx
  let blockAvailableGas := env.gasLimit - executor.gasUsed
  Checked.ensure (reservedGas ≤ blockAvailableGas ∨ ¬ env.active .regolith ∧ tx.isDeposit)
    (.transactionGasLimitMoreThanAvailableBlockGas reservedGas blockAvailableGas)
  let daFootprint := txDaFootprint env executor.world tx
  let available := env.gasLimit - executor.daFootprintUsed
  Checked.ensure (daFootprint ≤ available)
    (.transactionDaFootprintAboveGasLimit daFootprint available)
  let output ← Checked.get .evm (env.transact executor.world tx)
  return txResult env executor.world tx output

variable (output : BaseTxResult)

def buildReceipt (cumulativeGasUsed : Nat) : Receipt :=
  { txType := output.txType
    status := output.result.success
    cumulativeGasUsed := cumulativeGasUsed
    logs := output.result.logs
    depositNonce := output.depositor.map (·.nonce)
    depositReceiptVersion := if output.isDeposit && env.active .canyon then some 1 else none }

/-- The gas counter is a `u64` that wraps. -/
def commitTransaction : BlockExecutor × ExecutedTransaction :=
  let gasUsed := (executor.gasUsed + output.result.gasUsed) % 2 ^ 64
  let receipt := buildReceipt env output gasUsed
  ({ world := executor.world.commit output.state
     receipts := executor.receipts ++ [receipt]
     gasUsed := gasUsed
     daFootprintUsed := if env.active .jovian && !output.isDeposit then
       saturatingAdd executor.daFootprintUsed output.blobGasUsed else executor.daFootprintUsed },
    { result := output.result, state := output.state, receipt := receipt,
      gasUsed := output.result.gasUsed, blobGasUsed := output.blobGasUsed })

def executeTransaction : Except BlockExecutionError (BlockExecutor × ExecutedTransaction) := do
  let output ← executor.executeTransactionWithoutCommit env tx
  return executor.commitTransaction env output

end BlockExecutor

/-- A block executed on a parent state. -/
def canonicalExecution (parent : World) (txs : List Transaction) :
    Except BlockExecutionError (BlockExecutor × List ExecutedTransaction) := do
  let executor ← ({ world := parent } : BlockExecutor).applyPreExecutionChanges env
  runTransactions (BlockExecutor.executeTransaction env) executor txs

inductive StateProcessorError where
  | evmEnv
  | transactionFailed
  | gasOverflow
  | depositReceiptMismatch
deriving DecidableEq

structure PendingStateBuilder where
  world : World
  cumulativeGasUsed : Nat := 0
  nextLogIndex : Nat := 0

/-- Executions of earlier pending blocks, by transaction hash. -/
abbrev PendingBlocks := B256 → Option ExecutedTransaction

variable (prevPendingBlocks : PendingBlocks)

namespace PendingStateBuilder

variable (builder : PendingStateBuilder)

def applyPreExecutionChanges : Except StateProcessorError PendingStateBuilder := do
  let world ← Checked.get .evmEnv (systemCalls env builder.world)
  return { builder with
    world := ensureEip8130SystemAccounts env (ensureCreate2Deployer env world) }

def executeWithCachedData (tx : Transaction) (cached : ExecutedTransaction) :
    Except StateProcessorError (PendingStateBuilder × ExecutedTransaction) := do
  Checked.ensure (tx.isDeposit → cached.receipt.txType = .deposit) .depositReceiptMismatch
  let gas ← Checked.add .gasOverflow builder.cumulativeGasUsed cached.gasUsed
  return ({ world := builder.world.commit cached.state
            cumulativeGasUsed := gas
            nextLogIndex := builder.nextLogIndex + cached.receipt.logs.length }, cached)

def buildReceipt (world : World) (tx : Transaction) (result : ExecutionResult)
    (cumulativeGasUsed : Nat) : Receipt :=
  { txType := tx.txType
    status := result.success
    cumulativeGasUsed := cumulativeGasUsed
    logs := result.logs
    depositNonce := if tx.isDeposit && env.active .regolith then
      some (((world.basic tx.signer).map (·.nonce)).getD 0) else none
    depositReceiptVersion := if tx.isDeposit && env.active .canyon then some 1 else none }

def executeWithEvm (tx : Transaction) :
    Except StateProcessorError (PendingStateBuilder × ExecutedTransaction) := do
  let output ← Checked.get .transactionFailed (env.transact builder.world tx)
  let gas ← Checked.add .gasOverflow builder.cumulativeGasUsed output.1.gasUsed
  let receipt := buildReceipt env builder.world tx output.1 gas
  return ({ world := builder.world.commit output.2
            cumulativeGasUsed := gas
            nextLogIndex := builder.nextLogIndex + receipt.logs.length },
    { result := output.1, state := output.2, receipt := receipt,
      gasUsed := output.1.gasUsed, blobGasUsed := txDaFootprint env builder.world tx })

def executeTransaction (builder : PendingStateBuilder) (tx : Transaction) :
    Except StateProcessorError (PendingStateBuilder × ExecutedTransaction) :=
  match prevPendingBlocks tx.txHash with
  | some cached => builder.executeWithCachedData tx cached
  | none => builder.executeWithEvm env tx

end PendingStateBuilder

def pendingExecution (parent : World) (txs : List Transaction) :
    Except StateProcessorError (PendingStateBuilder × List ExecutedTransaction) := do
  let builder ← ({ world := parent } : PendingStateBuilder).applyPreExecutionChanges env
  runTransactions (PendingStateBuilder.executeTransaction env prevPendingBlocks) builder txs

/-- Block execution links the `BaseTime` proxy: it is due and the proxy is canonical. -/
def LinksBaseTime (world : World) : Prop :=
  env.active .denim ∧ world.storage baseTime implementationSlot = 0 ∧
    world.storage baseTime adminSlot = proxyAdmin ∧
      ∃ proxyInfo, world.basic baseTime = some proxyInfo ∧ proxyInfo.code ≠ []

variable {env : BlockEnv} {world : World}

theorem ensurePredeploy_of_links (hlinks : LinksBaseTime env world) :
    ∃ proxyInfo, ensurePredeploy env world = .ok (world.linkBaseTime env proxyInfo) := by
  obtain ⟨hdenim, hslot, hadmin, proxyInfo, hproxy, hcode⟩ := hlinks
  refine ⟨proxyInfo, ?_⟩
  unfold ensurePredeploy
  rw [if_neg (not_not.mpr hdenim), if_neg (not_not.mpr hslot), hproxy]
  dsimp only
  rw [if_neg hcode, if_neg (not_not.mpr hadmin)]

theorem ensurePredeploy_of_not_links {after : World} (hlinks : ¬ LinksBaseTime env world)
    (hafter : ensurePredeploy env world = .ok after) :
    after = world := by
  unfold ensurePredeploy at hafter
  split at hafter
  · exact (Except.ok.inj hafter).symm
  rename_i hdenim
  split at hafter
  · exact (Except.ok.inj hafter).symm
  rename_i hslot
  split at hafter
  · cases hafter
  rename_i proxyInfo hproxy
  split at hafter
  · cases hafter
  rename_i hcode
  split at hafter
  · cases hafter
  rename_i hadmin
  exact absurd ⟨not_not.mp hdenim, not_not.mp hslot, not_not.mp hadmin, proxyInfo, hproxy, hcode⟩
    hlinks

theorem ensureEip8130SystemAccounts_storage (env : BlockEnv) (world : World) :
    (ensureEip8130SystemAccounts env world).storage = world.storage := by
  unfold ensureEip8130SystemAccounts
  split
  · exact update_eq_self nonceManager world.storage
  · rfl

variable {parent : World}

theorem applyPreExecutionChanges_of_links (hworld : systemCalls env parent = some world)
    (hlinks : LinksBaseTime env (ensureCreate2Deployer env world)) :
    ∃ start, ({ world := parent } : BlockExecutor).applyPreExecutionChanges env = .ok start ∧
      start.world.storage baseTime implementationSlot = implementationAddress := by
  obtain ⟨proxyInfo, hpredeploy⟩ := ensurePredeploy_of_links hlinks
  refine ⟨⟨ensureEip8130SystemAccounts env ((ensureCreate2Deployer env world).linkBaseTime env
    proxyInfo), [], 0, 0⟩, ?_, ?_⟩
  · exact (bind_ok (get_eq_ok.mpr hworld)).trans (bind_ok (mapError_eq_ok.mpr hpredeploy))
  · rw [ensureEip8130SystemAccounts_storage]
    simp [World.linkBaseTime, World.commit, World.commitAccount]

theorem pendingChanges_eq (hworld : systemCalls env parent = some world) :
    ({ world := parent } : PendingStateBuilder).applyPreExecutionChanges env =
      .ok { world := ensureEip8130SystemAccounts env (ensureCreate2Deployer env world) } :=
  bind_ok (get_eq_ok.mpr hworld)

/-- What the two sides share after the same transactions. -/
structure Agrees (executor : BlockExecutor) (builder : PendingStateBuilder) : Prop where
  world : builder.world = executor.world
  gasUsed : builder.cumulativeGasUsed = executor.gasUsed
  logs : builder.nextLogIndex = (executor.receipts.map (·.logs.length)).sum

section Runs

variable {prevPendingBlocks : PendingBlocks} {executor executor' : BlockExecutor}
  {builder builder' : PendingStateBuilder} {tx : Transaction} {txs : List Transaction}
  {first : ExecutedTransaction} {executed : List ExecutedTransaction}

/-- An accepted transaction is the EVM's output, committed. -/
theorem BlockExecutor.executeTransaction_eq_ok
    (hfirst : executor.executeTransaction env tx = .ok (executor', first)) :
    ∃ output, env.transact executor.world tx = some output ∧
      executor.commitTransaction env (txResult env executor.world tx output) =
        (executor', first) := by
  obtain ⟨result, hresult, hcommit⟩ := bind_eq_ok.mp hfirst
  obtain ⟨reservedGas, -, hresult⟩ := bind_eq_ok.mp hresult
  obtain ⟨-, hresult⟩ := ensure_bind_eq_ok.mp hresult
  obtain ⟨-, hresult⟩ := ensure_bind_eq_ok.mp hresult
  obtain ⟨output, houtput, hresult⟩ := bind_eq_ok.mp hresult
  cases hresult
  exact ⟨output, get_eq_ok.mp houtput, Except.ok.inj hcommit⟩

theorem buildReceipt_eq (env : BlockEnv) (world : World) (tx : Transaction)
    (output : ExecutionResult × EvmState) (gas : Nat) :
    BlockExecutor.buildReceipt env (BlockExecutor.txResult env world tx output) gas =
      PendingStateBuilder.buildReceipt env world tx output.1 gas := by
  unfold BlockExecutor.buildReceipt PendingStateBuilder.buildReceipt BlockExecutor.txResult
  rw [Bool.and_comm (env.active .regolith)]
  cases tx.isDeposit && env.active .regolith with
  | false => rfl
  | true => cases world.basic tx.signer <;> rfl

/-- The EVM branch gives what block execution gives, while the gas fits. -/
theorem PendingStateBuilder.executeWithEvm_of_executor (hagrees : Agrees executor builder)
    (hroom : executor.gasUsed + first.gasUsed ≤ u64Max)
    (hfirst : executor.executeTransaction env tx = .ok (executor', first)) :
    ∃ next, builder.executeWithEvm env tx = .ok (next, first) ∧ Agrees executor' next := by
  obtain ⟨output, houtput, hcommit⟩ := BlockExecutor.executeTransaction_eq_ok hfirst
  cases hcommit
  obtain ⟨hworld, hgas, hlogs⟩ := hagrees
  have hroom : executor.gasUsed + output.1.gasUsed ≤ u64Max := hroom
  have hwrap : (executor.gasUsed + output.1.gasUsed) % 2 ^ 64 =
      executor.gasUsed + output.1.gasUsed := Nat.mod_eq_of_lt (lt_of_le_of_lt hroom (by decide))
  unfold executeWithEvm
  rw [hworld, hgas, houtput, get_some, bind_ok rfl, bind_ok (add_eq_ok hroom)]
  refine ⟨_, congrArg Except.ok (Prod.ext rfl ?_), rfl, hwrap.symm, ?_⟩
  · simp only [BlockExecutor.txResult, hwrap, ← buildReceipt_eq]
  · simp [hlogs, BlockExecutor.buildReceipt, buildReceipt, BlockExecutor.txResult]

namespace PendingStateBuilder

/-- A cached execution that the EVM would repeat leads to the same builder. -/
theorem executeWithCachedData_of_evm
    (hevm : builder.executeWithEvm env tx = .ok (builder', first)) :
    builder.executeWithCachedData tx first = .ok (builder', first) := by
  obtain ⟨output, -, hevm⟩ := bind_eq_ok.mp hevm
  obtain ⟨hroom, hevm⟩ := add_bind_eq_ok.mp hevm
  cases hevm
  refine ensure_bind_eq_ok.mpr ⟨fun hdeposit => of_decide_eq_true hdeposit, ?_⟩
  exact add_bind_eq_ok.mpr ⟨hroom, rfl⟩

theorem executeTransaction_of_executor (hagrees : Agrees executor builder)
    (hroom : executor.gasUsed + first.gasUsed ≤ u64Max)
    (hcached : ∀ cached, prevPendingBlocks tx.txHash = some cached → cached = first)
    (hfirst : executor.executeTransaction env tx = .ok (executor', first)) :
    ∃ next, builder.executeTransaction env prevPendingBlocks tx = .ok (next, first) ∧
      Agrees executor' next := by
  obtain ⟨next, hevm, hnext⟩ := executeWithEvm_of_executor hagrees hroom hfirst
  refine ⟨next, ?_, hnext⟩
  unfold executeTransaction
  cases hprev : prevPendingBlocks tx.txHash with
  | none => exact hevm
  | some cached =>
    rw [hcached cached hprev]
    exact executeWithCachedData_of_evm hevm

theorem executeTransaction_gas
    (hfirst : builder.executeTransaction env prevPendingBlocks tx = .ok (builder', first)) :
    builder'.cumulativeGasUsed = builder.cumulativeGasUsed + first.gasUsed ∧
      builder'.cumulativeGasUsed ≤ u64Max := by
  unfold executeTransaction at hfirst
  split at hfirst
  · obtain ⟨-, hfirst⟩ := ensure_bind_eq_ok.mp hfirst
    obtain ⟨hroom, hfirst⟩ := add_bind_eq_ok.mp hfirst
    cases hfirst
    exact ⟨rfl, hroom⟩
  · obtain ⟨output, -, hfirst⟩ := bind_eq_ok.mp hfirst
    obtain ⟨hroom, hfirst⟩ := add_bind_eq_ok.mp hfirst
    cases hfirst
    exact ⟨rfl, hroom⟩

/-- The gas of a whole pending run was added without overflow. -/
theorem runTransactions_gas (hstart : builder.cumulativeGasUsed ≤ u64Max)
    (hrun : runTransactions (executeTransaction env prevPendingBlocks) builder txs =
      .ok (builder', executed)) :
    builder.cumulativeGasUsed + (executed.map (·.gasUsed)).sum ≤ u64Max := by
  induction txs generalizing builder executed with
  | nil =>
    cases hrun
    exact hstart
  | cons tx rest ih =>
    obtain ⟨next, first, later, hfirst, hlater, rfl⟩ := runTransactions_cons_eq_ok.mp hrun
    obtain ⟨hgas, hroom⟩ := executeTransaction_gas hfirst
    have htotal := ih hroom hlater
    rw [hgas, add_assoc] at htotal
    exact htotal

end PendingStateBuilder

/-- What is cached of a transaction is what block execution gives at its place. -/
def CacheFaithful (env : BlockEnv) (prevPendingBlocks : PendingBlocks)
    (executor : BlockExecutor) : Prop :=
  ∀ txs reached executed tx next first cached,
    runTransactions (BlockExecutor.executeTransaction env) executor txs = .ok (reached, executed) →
      reached.executeTransaction env tx = .ok (next, first) →
        prevPendingBlocks tx.txHash = some cached → cached = first

theorem CacheFaithful.next (hcache : CacheFaithful env prevPendingBlocks executor)
    (hfirst : executor.executeTransaction env tx = .ok (executor', first)) :
    CacheFaithful env prevPendingBlocks executor' := by
  intro txs reached executed later next outcome cached hrun
  exact hcache (tx :: txs) reached (first :: executed) later next outcome cached
    (runTransactions_cons_eq_ok.mpr ⟨executor', first, executed, hfirst, hrun, rfl⟩)

/-- Over a whole list, from two sides that agree. -/
theorem runTransactions_of_executor (hcache : CacheFaithful env prevPendingBlocks executor)
    (hagrees : Agrees executor builder)
    (hroom : executor.gasUsed + (executed.map (·.gasUsed)).sum ≤ u64Max)
    (hrun : runTransactions (BlockExecutor.executeTransaction env) executor txs =
      .ok (executor', executed)) :
    ∃ last, runTransactions (PendingStateBuilder.executeTransaction env prevPendingBlocks) builder
      txs = .ok (last, executed) ∧ Agrees executor' last := by
  induction txs generalizing executor builder executed with
  | nil =>
    cases hrun
    exact ⟨builder, rfl, hagrees⟩
  | cons tx rest ih =>
    obtain ⟨reached, first, later, hfirst, hlater, rfl⟩ := runTransactions_cons_eq_ok.mp hrun
    rw [map_cons, sum_cons, ← add_assoc] at hroom
    have hfits := Nat.le_of_add_right_le hroom
    have hcached := fun cached => hcache [] executor [] tx reached first cached rfl hfirst
    obtain ⟨next, hnext, hagree⟩ := PendingStateBuilder.executeTransaction_of_executor hagrees
      hfits hcached hfirst
    have hgas : next.cumulativeGasUsed = builder.cumulativeGasUsed + first.gasUsed :=
      (PendingStateBuilder.executeTransaction_gas hnext).1
    rw [← hagrees.gasUsed, ← hgas, hagree.gasUsed] at hroom
    obtain ⟨last, hlast, hend⟩ := ih (hcache.next hfirst) hagree hroom hlater
    exact ⟨last, runTransactions_cons_eq_ok.mpr ⟨next, first, later, hnext, hlast, rfl⟩, hend⟩

end Runs

/-- For every block that execution accepts, pending execution has the same
outcomes and ends in the same state. -/
def PendingEqualsCanonical (env : BlockEnv) (prevPendingBlocks : PendingBlocks)
    (parent : World) : Prop :=
  ∀ {txs executor executed}, canonicalExecution env parent txs = .ok (executor, executed) →
    ∃ builder, pendingExecution env prevPendingBlocks parent txs = .ok (builder, executed) ∧
      Agrees executor builder

/-- Pending execution equals block execution exactly where block execution does
not link the `BaseTime` proxy, which the pending builder never does, and the gas
of a block, which the builder adds checked and the executor wrapping, fits. -/
theorem pendingEqualsCanonical_iff (env : BlockEnv) (prevPendingBlocks : PendingBlocks)
    (parent : World)
    (hcache : ∀ executor, ({ world := parent } : BlockExecutor).applyPreExecutionChanges env =
      .ok executor → CacheFaithful env prevPendingBlocks executor) :
    PendingEqualsCanonical env prevPendingBlocks parent ↔
      (∀ world, systemCalls env parent = some world →
        ¬ LinksBaseTime env (ensureCreate2Deployer env world)) ∧
      ∀ txs executor executed, canonicalExecution env parent txs = .ok (executor, executed) →
        (executed.map (·.gasUsed)).sum ≤ u64Max := by
  constructor
  · intro hequal
    constructor
    · intro world hworld hlinks
      obtain ⟨start, hstart, hslot⟩ := applyPreExecutionChanges_of_links hworld hlinks
      have hblock : canonicalExecution env parent [] = .ok (start, []) := Checked.bind_ok hstart
      obtain ⟨builder, hpending, hagrees⟩ := hequal hblock
      have hpending' := hpending.symm.trans (Checked.bind_ok (pendingChanges_eq hworld))
      cases hpending'
      have hstorage := congrFun (congrFun (congrArg World.storage hagrees.world) baseTime)
        implementationSlot
      rw [hslot, ensureEip8130SystemAccounts_storage, hlinks.2.1] at hstorage
      exact absurd hstorage (by decide)
    · intro txs executor executed hblock
      obtain ⟨builder, hpending, -⟩ := hequal hblock
      obtain ⟨start, hstart, hrun⟩ := Checked.bind_eq_ok.mp hpending
      obtain ⟨world, -, hstart⟩ := Checked.bind_eq_ok.mp hstart
      cases hstart
      have htotal := PendingStateBuilder.runTransactions_gas (Nat.zero_le u64Max) hrun
      rwa [Nat.zero_add] at htotal
  · rintro ⟨hlinks, hgas⟩ txs executor executed hblock
    obtain ⟨start, hstart, hrun⟩ := Checked.bind_eq_ok.mp hblock
    have hfaithful := hcache start hstart
    obtain ⟨world, hworld, hstart⟩ := Checked.bind_eq_ok.mp hstart
    obtain ⟨after, hafter, hstart⟩ := Checked.bind_eq_ok.mp hstart
    have hworld := Checked.get_eq_ok.mp hworld
    have hsame := ensurePredeploy_of_not_links (hlinks world hworld)
      (Checked.mapError_eq_ok.mp hafter)
    cases hstart
    cases hsame
    have hfits := hgas txs executor executed hblock
    have hfresh : Agrees
        { world := ensureEip8130SystemAccounts env (ensureCreate2Deployer env world) }
      { world := ensureEip8130SystemAccounts env (ensureCreate2Deployer env world) } :=
      ⟨rfl, rfl, rfl⟩
    obtain ⟨builder, hpending, hagrees⟩ := runTransactions_of_executor hfaithful hfresh
      ((Nat.zero_add _).trans_le hfits) hrun
    exact ⟨builder, (Checked.bind_ok (pendingChanges_eq hworld)).trans hpending, hagrees⟩

/-- The first Denim block; a call succeeds once the proxy is linked. -/
def denimEnv : BlockEnv where
  isActive _ _ := true
  timestamp := 0
  gasLimit := 30000000
  applyBlockhashesContractCall := some
  applyBeaconRootContractCall := some
  transact world _ := some (⟨world.storage baseTime implementationSlot ≠ 0, 21000, [], []⟩, [])
  maxPayerAuthCost _ := none
  estimateTxCompressedSize _ := 0
  create2DeployerBytecode := []
  implementationBytecode := []

def denimParent : World where
  basic account := if account = baseTime then some { code := [0x60] } else none
  storage _ slot := if slot = adminSlot then proxyAdmin else 0

/-- The metadata deposit succeeds in the block and fails in the pending state. -/
theorem pendingExecution_misses_baseTime :
    let txs := [{ txHash := default, txType := .deposit, signer := default, gasLimit := 21000,
                  encoded := [] }]
    ((canonicalExecution denimEnv denimParent txs).toOption.map fun run =>
      run.2.map (·.result.success)) = some [true] ∧
    ((pendingExecution denimEnv (fun _ => none) denimParent txs).toOption.map fun run =>
      run.2.map (·.result.success)) = some [false] := by
  decide +kernel

theorem pendingEqualsCanonical_iff_denim :
    ¬ PendingEqualsCanonical denimEnv (fun _ => none) denimParent := fun hequal =>
  ((pendingEqualsCanonical_iff denimEnv (fun _ => none) denimParent
    fun _ _ _ _ _ _ _ _ _ _ _ => nofun).mp hequal).1 denimParent rfl
    ⟨rfl, by decide, by decide, { code := [0x60] }, rfl, cons_ne_nil _ _⟩

end PendingExecution

end BaseChain
