/-
Who may lower a balance of an asset token, who may be credited, and how an allowance
grows: from a change that is seen back to the operation that made it.
-/
import BaseChain.B20Supply

namespace BaseChain

open Checked Function

namespace B20

variable {amount : Nat}

section Moves

variable {balances : Address → Nat} {source target account : Address}

theorem movedBalances_other (hsource : account ≠ source) (htarget : account ≠ target) :
    movedBalances balances source target amount account = balances account := by
  unfold movedBalances
  rw [update_of_ne htarget, update_of_ne hsource]

theorem movedBalances_source (hne : source ≠ target) :
    movedBalances balances source target amount source = balances source - amount := by
  unfold movedBalances
  rw [update_of_ne hne, update_self]

variable {lost : Nat}

/-- Only the source of a move is lowered, and by what was moved. -/
theorem lowered_of_moved (henough : amount ≤ balances source) (hlost : 0 < lost)
    (hlowered : movedBalances balances source target amount account + lost = balances account) :
    source = account ∧ amount = lost := by
  by_cases hself : source = target
  · subst hself
    rw [movedBalances_self henough] at hlowered
    omega
  · by_cases hsource : account = source
    · subst hsource
      rw [movedBalances_source hself] at hlowered
      exact ⟨rfl, by omega⟩
    · by_cases htarget : account = target
      · subst htarget
        rw [movedBalances, update_self, update_of_ne hsource] at hlowered
        omega
      · rw [movedBalances_other hsource htarget] at hlowered
        omega

theorem raised_of_moved (henough : amount ≤ balances source) (hraised : balances account <
      movedBalances balances source target amount account) :
    target = account := by
  by_contra hne
  by_cases hsource : account = source
  · subst hsource
    rw [movedBalances_source (Ne.symm hne)] at hraised
    omega
  · rw [movedBalances_other hsource (Ne.symm hne)] at hraised
    exact lt_irrefl _ hraised

/-- Only the account that is written can be raised by one write. -/
theorem raised_of_update {balance : Nat}
    (hraised : balances account < update balances target balance account) :
    target = account := by
  by_contra hne
  rw [update_of_ne (Ne.symm hne)] at hraised
  exact lt_irrefl _ hraised

theorem lowered_of_debit (henough : amount ≤ balances source) (hlost : 0 < lost)
    (hlowered : update balances source (balances source - amount) account +
      lost = balances account) :
    source = account ∧ amount = lost := by
  by_cases hsource : account = source
  · subst hsource
    rw [update_self] at hlowered
    exact ⟨rfl, by omega⟩
  · rw [update_of_ne hsource] at hlowered
    omega

theorem not_raised_of_debit : ¬ balances account <
      update balances source (balances source - amount) account := by
  intro hraised
  obtain rfl := raised_of_update hraised
  rw [update_self] at hraised
  omega

theorem le_credited : balances account ≤
      update balances target (balances target + amount) account := by
  by_cases haccount : account = target
  · subst haccount
    rw [update_self]
    exact Nat.le_add_right _ _
  · rw [update_of_ne haccount]

end Moves

variable (context : Context) (token after : CoreStorage)

/-- What lets a caller's operation lower an account by an amount; no other operation
lowers a balance. -/
def DebitAllowed (caller account : Address) (lost : Nat) : AssetOperation → Prop
  | .common (.transfer _ amount) =>
    token.paused &&& PausableFeature.transfer.mask = 0 ∧ account = caller ∧ amount = lost ∧
      context.isAuthorized (token.policyIds .transferExecutor) caller = true ∧
      context.isAuthorized (token.policyIds .transferSender) caller = true
  | .common (.transferFrom source _ amount) =>
    token.paused &&& PausableFeature.transfer.mask = 0 ∧ source = account ∧
      amount = lost ∧ lost ≤ token.allowances account caller ∧
      after.allowances account caller = (if token.allowances account caller = u256Max then u256Max
        else token.allowances account caller - lost) ∧
      context.isAuthorized (token.policyIds .transferExecutor) caller = true ∧
      context.isAuthorized (token.policyIds .transferSender) account = true
  | .common (.burn amount) =>
    token.paused &&& PausableFeature.burn.mask = 0 ∧ account = caller ∧
      amount = lost ∧ token.roles TokenRole.burn.id caller = true
  | .common (.burnBlocked source amount) =>
    token.paused &&& PausableFeature.burn.mask = 0 ∧ source = account ∧
      amount = lost ∧ token.roles TokenRole.burnBlocked.id caller = true ∧
      context.isAuthorized (token.policyIds .transferSender) account = false
  | .common (.seizeWithMemo source _ amount) =>
    token.paused &&& PausableFeature.seize.mask = 0 ∧ source = account ∧
      amount = lost ∧ token.roles TokenRole.seize.id caller = true ∧
      context.isAuthorized (token.policyIds .seizeExempt) account = false
  | _ => False

/-- The receiver policy of an operation that credits accounts. -/
def AssetOperation.receiverPolicy : AssetOperation → Option PolicyType
  | .common (.transfer _ _) | .common (.transferFrom _ _ _) =>
    some .transferReceiver
  | .common (.seizeWithMemo _ _ _) => some .seizeReceiver
  | .common (.mint _ _) | .batchMint _ _ => some .mintReceiver
  | _ => none

/-- What lets an operation credit an account. -/
def CreditAllowed (token : CoreStorage) (account : Address) (operation : AssetOperation) : Prop :=
  (account ≠ default ∧ account ≠ context.tokenAddress) ∧
    ∃ policyType, operation.receiverPolicy = some policyType ∧
      context.isAuthorized (token.policyIds policyType) account = true

/-- How an allowance grows: the owner approves, or signed a permit with the nonce
that is current, which is then used up. -/
def AllowanceGranted (caller owner spender : Address) : AssetOperation → Prop
  | .common (.approve approved _) => owner = caller ∧ approved = spender
  | .common (.permit args) =>
    args.owner = owner ∧ args.spender = spender ∧
      args.recoverSigner context (args.signingHash context
        (domainSeparator context token) (token.nonces owner)) = .ok owner ∧
      after.nonces owner = token.nonces owner + 1
  | _ => False

/-- Every change of a balance or an allowance has its authorization. -/
structure AuthorizedChange (context : Context) (caller : Address)
    (operation : AssetOperation) (token after : CoreStorage) : Prop where
  debit (account : Address) (lost : Nat) : 0 < lost →
    after.balances account + lost = token.balances account →
    DebitAllowed context token after caller account lost operation
  credit (account : Address) : token.balances account < after.balances account →
    CreditAllowed context token account operation
  allowance (owner spender : Address) :
    token.allowances owner spender < after.allowances owner spender →
    AllowanceGranted context token after caller owner spender operation

variable {context : Context} {token after : CoreStorage} {caller : Address}
  {operation : AssetOperation}

section Authorized

theorem AuthorizedChange.of_quiet (hbalances : after.balances = token.balances)
    (hallowance : ∀ owner spender, token.allowances owner spender < after.allowances owner spender →
      AllowanceGranted context token after caller owner spender operation) :
    AuthorizedChange context caller operation token after where
  debit account lost hlost hlowered := by
    rw [hbalances] at hlowered
    omega
  credit account hraised := by
    rw [hbalances] at hraised
    exact absurd hraised (lt_irrefl _)
  allowance := hallowance

theorem AuthorizedChange.of_same (hbalances : after.balances = token.balances)
    (hallowances : after.allowances = token.allowances) :
    AuthorizedChange context caller operation token after :=
  .of_quiet hbalances fun owner spender hraised =>
    absurd hraised (by rw [hallowances]; exact lt_irrefl _)

/-- A write to one allowance raises no other. -/
theorem raised_of_setAllowance {owner spender granter grantee : Address} {amount : Nat}
    (hraised : token.allowances owner spender < update token.allowances granter
        (update (token.allowances granter) grantee amount) owner
        spender) :
    granter = owner ∧ grantee = spender := by
  by_cases howner : owner = granter
  · subst howner
    rw [update_self] at hraised
    exact ⟨rfl, raised_of_update hraised⟩
  · rw [update_of_ne howner] at hraised
    exact absurd hraised (lt_irrefl _)

end Authorized

section Operations

variable {target : Address}

theorem transfer_authorized
    (htransfer : transfer context token caller false target amount = .ok after) :
    AuthorizedChange context caller (.common (.transfer target amount)) token
      after := by
  obtain ⟨hpaused, hcredit, hpolicies, hmove⟩ := transfer_eq_ok htransfer
  obtain ⟨henough, -, rfl⟩ := moveBalance_eq_ok.mp hmove
  have hauthorized := hpolicies rfl
  refine ⟨?_, ?_, fun _ _ hraised => absurd hraised (lt_irrefl _)⟩
  · intro account lost hlost hlowered
    obtain ⟨rfl, rfl⟩ := lowered_of_moved henough hlost hlowered
    exact ⟨hpaused, rfl, rfl, hauthorized.executor, hauthorized.sender⟩
  · intro account hraised
    obtain rfl := raised_of_moved henough hraised
    exact ⟨hcredit, _, rfl, hauthorized.receiver⟩

variable {source : Address}

theorem transferFrom_authorized
    (htransfer : transferFrom context token caller false source target amount = .ok after) :
    AuthorizedChange context caller (.common (.transferFrom source target amount)) token after := by
  obtain ⟨hpaused, hcredit, hallowed, hpolicies, moved, hmove, rfl⟩ := transferFrom_eq_ok htransfer
  obtain ⟨henough, hroom, rfl⟩ := moveBalance_eq_ok.mp hmove
  have hauthorized := hpolicies rfl
  refine ⟨?_, ?_, ?_⟩
  · intro account lost hlost hlowered
    obtain ⟨rfl, rfl⟩ := lowered_of_moved henough hlost hlowered
    refine ⟨hpaused, rfl, rfl, ?_, ?_, hauthorized.executor, hauthorized.sender⟩
    · rcases hallowed with hinfinite | hallowed
      · omega
      · exact hallowed
    · simp only [CoreStorage.setAllowance, update_self, spentAllowance]
      split
      · assumption
      · rfl
  · intro account hraised
    obtain rfl := raised_of_moved henough hraised
    exact ⟨hcredit, _, rfl, hauthorized.receiver⟩
  · intro owner spender hraised
    obtain ⟨rfl, rfl⟩ := raised_of_setAllowance hraised
    -- spending never raises the allowance that it uses
    simp only [CoreStorage.setAllowance, update_self, spentAllowance] at hraised
    split at hraised
    · omega
    · omega

theorem burn_authorized (hburn : burn token caller amount = .ok after) :
    AuthorizedChange context caller (.common (.burn amount)) token after := by
  obtain ⟨hpaused, hrole, hinner⟩ := burn_eq_ok hburn
  obtain ⟨henough, -, rfl⟩ := burnInner_eq_ok hinner
  refine ⟨?_, ?_, fun _ _ hraised => absurd hraised (lt_irrefl _)⟩
  · intro account lost hlost hlowered
    obtain ⟨rfl, rfl⟩ := lowered_of_debit henough hlost hlowered
    exact ⟨hpaused, rfl, rfl, hrole⟩
  · intro account hraised
    exact absurd hraised not_raised_of_debit

theorem burnBlocked_authorized
    (hburn : burnBlocked context token caller false source amount = .ok after) :
    AuthorizedChange context caller (.common (.burnBlocked source amount)) token
      after := by
  obtain ⟨hpaused, hrole, hblocked, hinner⟩ := burnBlocked_eq_ok hburn
  obtain ⟨henough, -, rfl⟩ := burnInner_eq_ok hinner
  refine ⟨?_, ?_, fun _ _ hraised => absurd hraised (lt_irrefl _)⟩
  · intro account lost hlost hlowered
    obtain ⟨rfl, rfl⟩ := lowered_of_debit henough hlost hlowered
    exact ⟨hpaused, rfl, rfl, hrole rfl, hblocked⟩
  · intro account hraised
    exact absurd hraised not_raised_of_debit

theorem seizeWithMemo_authorized (hseize : seizeWithMemo context token caller source target amount =
      .ok after) :
    AuthorizedChange context caller
      (.common (.seizeWithMemo source target amount)) token after := by
  obtain ⟨hpaused, hrole, hcredit, -, hexempt, hreceiver, hmove⟩ := seizeWithMemo_eq_ok hseize
  obtain ⟨henough, -, rfl⟩ := moveBalance_eq_ok.mp hmove
  refine ⟨?_, ?_, fun _ _ hraised => absurd hraised (lt_irrefl _)⟩
  · intro account lost hlost hlowered
    obtain ⟨rfl, rfl⟩ := lowered_of_moved henough hlost hlowered
    exact ⟨hpaused, rfl, rfl, hrole, hexempt⟩
  · intro account hraised
    obtain rfl := raised_of_moved henough hraised
    exact ⟨hcredit, _, rfl, hreceiver⟩

theorem mint_authorized {privileged : Bool}
    (hmint : mint context token caller privileged target amount = .ok after)
    (hpolicy : operation.receiverPolicy = some .mintReceiver) :
    AuthorizedChange context caller operation token after := by
  obtain ⟨-, -, hcredit, hreceiver, -, rfl⟩ := mint_eq_ok hmint
  refine ⟨?_, ?_, fun _ _ hraised => absurd hraised (lt_irrefl _)⟩
  · intro account lost hlost hlowered
    have hgrown : token.balances account ≤ update token.balances target
        (token.balances target + amount) account := le_credited
    dsimp only at hlowered
    omega
  · intro account hraised
    obtain rfl := raised_of_update hraised
    exact ⟨hcredit, _, hpolicy, hreceiver⟩

/-- The mints of a batch, each one authorized. -/
theorem mintAll_authorized {mints : List (Address × Nat)}
    (hpolicy : operation.receiverPolicy = some .mintReceiver)
    (hmints : mintAll context caller token mints = .ok after) :
    after.policyIds = token.policyIds ∧ after.allowances = token.allowances ∧
      (∀ account, token.balances account ≤ after.balances account) ∧
      ∀ account, token.balances account < after.balances account →
        CreditAllowed context token account operation := by
  induction mints generalizing token with
  | nil =>
    cases hmints
    exact ⟨rfl, rfl, fun _ => le_rfl, fun _ hraised => absurd hraised (lt_irrefl _)⟩
  | cons mint _ ih =>
    obtain ⟨minted, hmint, hrest⟩ := bind_eq_ok.mp hmints
    have hone := mint_authorized hmint hpolicy
    obtain ⟨-, -, -, -, -, rfl⟩ := mint_eq_ok hmint
    obtain ⟨hids, hallowances, hgrown, hcredits⟩ := ih hrest
    refine ⟨hids, hallowances, ?_, ?_⟩
    · intro account
      exact le_trans le_credited (hgrown account)
    · intro account hraised
      by_cases hfirst : token.balances account < update token.balances mint.1
            (token.balances mint.1 + mint.2) account
      · exact hone.credit account hfirst
      · exact hcredits account (lt_of_le_of_lt (Nat.le_of_not_lt hfirst) hraised)

end Operations

section Calls

theorem Operation.authorized {token after : CoreStorage} {operation : Operation}
    (hperf : operation.perform context token caller false = .ok after) :
    AuthorizedChange context caller (.common operation) token after := by
  cases operation with
  | transfer => exact transfer_authorized hperf
  | transferFrom => exact transferFrom_authorized hperf
  | approve =>
    obtain ⟨-, -, rfl⟩ := approve_eq_ok hperf
    refine .of_quiet rfl fun owner grantee hraised => ?_
    obtain ⟨rfl, rfl⟩ := raised_of_setAllowance hraised
    exact ⟨rfl, rfl⟩
  | mint => exact mint_authorized hperf rfl
  | burn => exact burn_authorized hperf
  | burnBlocked => exact burnBlocked_authorized hperf
  | seizeWithMemo => exact seizeWithMemo_authorized hperf
  | permit =>
    obtain ⟨hrecovered, rfl⟩ := permit_eq_ok hperf
    refine .of_quiet rfl fun owner grantee hraised => ?_
    obtain ⟨rfl, rfl⟩ := raised_of_setAllowance hraised
    exact ⟨rfl, rfl, hrecovered, update_self _ _ _⟩
  | _ =>
    have hsame := Operation.sameLedger hperf trivial
    exact .of_same hsame.balances hsame.allowances

theorem AssetOperation.authorized {token after : AssetStorage} {operation : AssetOperation}
    (hperf : operation.perform context token caller false = .ok after) :
    AuthorizedChange context caller operation token.core after.core := by
  cases operation.coreEffect hperf with
  | common operation hcommon => exact operation.authorized hcommon
  | batchMint recipients amounts _ _ hmints =>
    have hpolicy : (AssetOperation.batchMint recipients amounts).receiverPolicy =
        some .mintReceiver := rfl
    obtain ⟨-, hallowances, hgrown, hcredits⟩ := mintAll_authorized hpolicy hmints
    refine ⟨?_, hcredits, ?_⟩
    · intro account lost hlost hlowered
      have hnotLowered := hgrown account
      omega
    · intro owner spender hraised
      rw [hallowances] at hraised
      exact absurd hraised (lt_irrefl _)
  | own _ _ hcore => exact .of_same (by rw [hcore]) (by rw [hcore])

/-- Every successful unprivileged call changes balances and allowances with the
authorization that its operation asks for; an announcement does so in each of the
operations that it runs. -/
theorem debits_authorized {token after : AssetStorage} {call : AssetCall}
    (hperform : call.perform context token caller false = .ok after) :
    (∀ operation, call = .operation operation →
      AuthorizedChange context caller operation token.core after.core) ∧
    Relation.ReflTransGen (fun before next => next.core = before.core ∨
      ∃ operation : AssetOperation,
        operation.perform context before caller false = .ok next ∧
          AuthorizedChange context caller operation before.core next.core)
      token after := by
  constructor
  · rintro operation rfl
    exact operation.authorized hperform
  · refine Relation.ReflTransGen.mono ?_ _ _ (AssetCall.perform_steps hperform)
    intro before next hstep
    cases hstep with
    | operation operation hoperation =>
      exact Or.inr ⟨operation, hoperation, operation.authorized hoperation⟩
    | announced => exact Or.inl rfl

end Calls

section Sample

def holder : Address := ⟨beBytes 20 1, beBytes_address_one⟩

def receiver : Address := ⟨beBytes 20 2, beBytes_length 20 2⟩

/-- One account holds seven units. -/
def heldSample : AssetStorage where
  core := { emptyCore with
    balances := update (fun _ => 0) holder 7, totalSupply := 7 }
  multiplierSlot := 0
  pendingMultiplier := 0
  pendingEffectiveAt := 0
  usedAnnouncementIds _ := false
  extraMetadata _ := []

def sentThree : AssetStorage :=
  { heldSample with core := { heldSample.core with
    balances := movedBalances heldSample.core.balances holder receiver 3 } }

theorem debits_authorized_sample :
    sentThree.core.balances holder = 4 ∧
      AuthorizedChange mintFive.context holder
        (.common (.transfer receiver 3)) heldSample.core sentThree.core :=
  ⟨by decide +kernel, (@debits_authorized _ _ _ _ (.operation (.common (.transfer receiver 3)))
      (by rfl)).1 _ rfl⟩

end Sample

end B20

end BaseChain
