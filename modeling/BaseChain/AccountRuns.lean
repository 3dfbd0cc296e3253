/-
Runs of accepted transactions, taken apart into the account changes that they apply one
after the other.
-/
import BaseChain.AccountEffects

namespace BaseChain

open Checked List

namespace Eip8130

/-- One account change of an accepted transaction. -/
inductive EntryStep (primitives : Primitives) (localChainId now : Nat)
    (account : Address) (storage : AccountConfiguration) :
    AccountChange → AccountConfiguration → Prop
  | create {after : AccountConfiguration} (entry : CreateEntry)
      (hcreation : Creation primitives entry account storage after) :
      EntryStep primitives localChainId now account storage (.create entry) after
  | config {advanced next : AccountState} {after : AccountConfiguration}
      {discount : Nat} (batch : SignedAccountChanges) (resolved : ResolvedActor)
      (hauthenticate : authenticateActorWithAccountState primitives storage account
        (changesDigest primitives account localChainId batch) batch.signature now
        (some (storage.getAccountState account)) = .ok resolved)
      (hadmin : resolved.scope = 0)
      (happlied : applyConfigChangeWithAccountState primitives storage account batch
        (storage.getAccountState account) now = .ok (discount, after, next))
      (hchanges : batch.changes ≠ [])
      (hadmitted : Admitted batch (storage.getAccountState account) advanced)
      (hsteps : Relation.ReflTransGen (BatchStep ⟨account, batch.channel = .localChain ∧
          batch.sequence.toNat % 2 ^ 32 = unsequenced, advanced.isLocked now, now⟩)
        (storage, advanced) (after, next)) :
      EntryStep primitives localChainId now account storage (.configChange batch)
        (after.setAccountState account next)
  | delegation (target : Address) :
      EntryStep primitives localChainId now account storage (.delegation target) storage

/-- The account changes of one transaction. -/
inductive Entries (primitives : Primitives) (localChainId now : Nat) (account : Address) :
    AccountConfiguration → List AccountChange → AccountConfiguration → Prop
  | nil (storage : AccountConfiguration) :
      Entries primitives localChainId now account storage [] storage
  | cons {storage middle after : AccountConfiguration} {change : AccountChange}
      {rest : List AccountChange}
      (hstep : EntryStep primitives localChainId now account storage change middle)
      (hrest : Entries primitives localChainId now account middle rest after) :
      Entries primitives localChainId now account storage (change :: rest) after

variable {primitives : Primitives} {account : Address} {localChainId now : Nat}

variable {changes : List AccountChange} {result : AppliedTransaction} {change : AccountChange}

section Inversion

variable {storage after : AccountConfiguration} {progress final : Progress}

theorem authorizeWithAccountState_eq_ok {batch : SignedAccountChanges}
    {state : AccountState} {resolved : ResolvedActor}
    (hgrant : authorizeWithAccountState primitives storage account localChainId
      batch now state = .ok resolved) :
    checkChannelSequence batch state = .ok () ∧
      authenticateActorWithAccountState primitives storage account
        (changesDigest primitives account localChainId batch) batch.signature now
        (some state) = .ok resolved ∧ resolved.scope = 0 := by
  obtain ⟨⟨⟩, hcheck, hgrant⟩ := bind_eq_ok.mp hgrant
  obtain ⟨actor, hactor, hgrant⟩ := bind_eq_ok.mp hgrant
  obtain ⟨hscope, hgrant⟩ := ensure_bind_eq_ok.mp hgrant
  cases hgrant
  exact ⟨hcheck, mapError_eq_ok.mp hactor, of_decide_eq_true hscope⟩

/-- What the walk has recorded of a delegation is one for the sender. -/
def Progress.DelegatesOnly (progress : Progress) (account : Address) : Prop :=
  ∀ effect, progress.applied.delegation = some effect → effect.account = account

variable {index : Nat}

theorem applyAccountChange_eq_ok
    (happly : applyAccountChange primitives localChainId now account index progress
      change = .ok final) :
    EntryStep primitives localChainId now account progress.storage change final.storage ∧
      (progress.DelegatesOnly account → final.DelegatesOnly account) := by
  cases change with
  | create entry =>
    obtain ⟨-, happly⟩ := ensure_bind_eq_ok.mp happly
    obtain ⟨-, happly⟩ := ensure_bind_eq_ok.mp happly
    obtain ⟨⟨created, written⟩, hcreate, happly⟩ := bind_eq_ok.mp happly
    obtain ⟨haddr, happly⟩ := ensure_bind_eq_ok.mp happly
    cases happly
    have hmade := applyCreate_eq_ok (mapError_eq_ok.mp hcreate)
    cases haddr
    exact ⟨.create entry hmade, fun hprogress => hprogress⟩
  | configChange batch =>
    obtain ⟨resolved, hgrant, happly⟩ := bind_eq_ok.mp happly
    obtain ⟨⟨discount, written, next⟩, hbatch, happly⟩ := bind_eq_ok.mp happly
    cases happly
    obtain ⟨hcheck, hproof, hadmin⟩ := authorizeWithAccountState_eq_ok hgrant
    have happlied := mapError_eq_ok.mp hbatch
    obtain ⟨hchanges, hbatch⟩ := ensure_bind_eq_ok.mp happlied
    obtain ⟨advanced, hadvance, hbatch⟩ := bind_eq_ok.mp hbatch
    refine ⟨.config batch resolved hproof hadmin happlied hchanges
      (admitted_of_check hcheck hadvance) (applySignedChanges_eq_ok hbatch), ?_⟩
    exact fun hprogress => hprogress
  | delegation target =>
    obtain ⟨-, happly⟩ := ensure_bind_eq_ok.mp happly
    obtain ⟨-, happly⟩ := ensure_bind_eq_ok.mp happly
    cases happly
    refine ⟨.delegation target, fun _ effect heffect => ?_⟩
    cases heffect
    rfl

theorem applyAccountChanges_eq_ok
    (happly : applyAccountChanges primitives localChainId now account changes index
      progress = .ok final) :
    Entries primitives localChainId now account progress.storage changes final.storage ∧
      (progress.DelegatesOnly account → final.DelegatesOnly account) := by
  induction changes generalizing index progress with
  | nil =>
    cases happly
    exact ⟨.nil _, fun hprogress => hprogress⟩
  | cons _ _ ih =>
    obtain ⟨middle, hchange, hrest⟩ := bind_eq_ok.mp happly
    obtain ⟨hstep, hfirst⟩ := applyAccountChange_eq_ok hchange
    obtain ⟨hsteps, hlater⟩ := ih hrest
    exact ⟨.cons hstep hsteps, fun hprogress => hlater (hfirst hprogress)⟩

variable {signed : Eip8130Signed}

theorem verifySender_account {sender : AuthorizedActor}
    (haccount : senderAccount primitives signed = .ok account)
    (hverify : verifySender primitives storage signed now account = .ok sender) :
    sender.account = account := by
  unfold senderAccount at haccount
  unfold verifySender at hverify
  cases hsender : signed.tx.sender with
  | some =>
    rw [hsender] at haccount hverify
    cases haccount
    obtain ⟨resolved, -, hverify⟩ := bind_eq_ok.mp hverify
    obtain ⟨-, hverify⟩ := ensure_bind_eq_ok.mp hverify
    cases hverify
    rfl
  | none =>
    rw [hsender] at hverify
    obtain ⟨resolved, -, hverify⟩ := bind_eq_ok.mp hverify
    obtain ⟨-, hverify⟩ := ensure_bind_eq_ok.mp hverify
    obtain ⟨-, hverify⟩ := ensure_bind_eq_ok.mp hverify
    cases hverify
    rfl

/-- Everything that an accepted transaction has passed. -/
structure AcceptedTx (primitives : Primitives) (signed : Eip8130Signed)
    (storage : AccountConfiguration) (localChainId now : Nat)
    (result : AppliedTransaction) (after : AccountConfiguration) (account : Address) :
    Prop where
  sender : senderAccount primitives signed = .ok account
  entries : Entries primitives localChainId now account storage signed.tx.accountChanges after
  verified : verifySender primitives after signed now account = .ok result.actors.sender
  delegation : ∀ effect, result.applied.delegation = some effect →
    effect.account = account ∧ result.actors.sender.resolved.scope = 0
  unlocked : result.applied.delegation.isSome = true → after.isLocked account now = false

theorem authorizeAndApply_eq_ok
    (hgrant : authorizeAndApply primitives signed storage localChainId now =
      .ok (result, after)) :
    ∃ account, AcceptedTx primitives signed storage localChainId now result after
      account := by
  obtain ⟨account, haccount, hgrant⟩ := bind_eq_ok.mp hgrant
  obtain ⟨progress, hprogress, hgrant⟩ := bind_eq_ok.mp hgrant
  obtain ⟨actors, hactors, hgrant⟩ := bind_eq_ok.mp hgrant
  obtain ⟨⟨⟩, hdelegation, hgrant⟩ := bind_eq_ok.mp hgrant
  cases hgrant
  obtain ⟨sender, hsender, hactors⟩ := bind_eq_ok.mp hactors
  obtain ⟨payer, -, hactors⟩ := bind_eq_ok.mp hactors
  cases hactors
  obtain ⟨hentries, hdelegates⟩ := applyAccountChanges_eq_ok hprogress
  have hdelegator : progress.applied.delegation.isSome = true →
      progress.storage.isLocked account now = false ∧ sender.resolved.scope = 0 := by
    intro hsome
    unfold checkDelegation at hdelegation
    rw [hsome] at hdelegation
    obtain ⟨hunlocked, hdelegation⟩ := ensure_bind_eq_ok.mp hdelegation
    rw [verifySender_account haccount hsender] at hunlocked
    exact ⟨hunlocked, of_decide_eq_true (ensure_eq_ok.mp hdelegation)⟩
  refine ⟨account, haccount, hentries, hsender, fun effect heffect => ?_,
    fun hsome => (hdelegator hsome).1⟩
  exact ⟨hdelegates (fun _ hnone => nomatch hnone) effect heffect, (hdelegator (heffect ▸ rfl)).2⟩

end Inversion

structure TxRequest where
  signed : Eip8130Signed
  localChainId : Nat
  now : Nat

/-- Transactions that are accepted one after the other. -/
inductive Accepted (primitives : Primitives) :
    AccountConfiguration → List TxRequest → AccountConfiguration → Prop
  | nil (storage : AccountConfiguration) : Accepted primitives storage [] storage
  | cons {storage middle after : AccountConfiguration} {rest : List TxRequest}
      {result : AppliedTransaction} (request : TxRequest)
      (hauthorize : authorizeAndApply primitives request.signed storage
        request.localChainId request.now = .ok (result, middle))
      (hrest : Accepted primitives middle rest after) :
      Accepted primitives storage (request :: rest) after

/-- One account change that was applied, with the storage before and after it. -/
structure AppliedEntry where
  localChainId : Nat
  now : Nat
  account : Address
  change : AccountChange
  before : AccountConfiguration
  after : AccountConfiguration

/-- The changes that the walk over one transaction applies. -/
def appliedEntries (primitives : Primitives) (localChainId now : Nat)
    (account : Address) : List AccountChange → Nat → Progress → List AppliedEntry
  | [], _, _ => []
  | change :: rest, index, progress =>
    match applyAccountChange primitives localChainId now account index progress
      change with
    | .error _ => []
    | .ok next =>
      ⟨localChainId, now, account, change, progress.storage, next.storage⟩ ::
        appliedEntries primitives localChainId now account rest (index + 1) next

def TxRequest.entries (primitives : Primitives) (request : TxRequest)
    (storage : AccountConfiguration) : List AppliedEntry :=
  match senderAccount primitives request.signed with
  | .error _ => []
  | .ok account =>
    appliedEntries primitives request.localChainId request.now account
      request.signed.tx.accountChanges 0 (.start storage)

/-- Everything that accepted transactions apply; a rejected one leaves no trace. -/
def history (primitives : Primitives) : List TxRequest → AccountConfiguration → List AppliedEntry
  | [], _ => []
  | request :: rest, storage =>
    match authorizeAndApply primitives request.signed storage request.localChainId
      request.now with
    | .error _ => history primitives rest storage
    | .ok (_, after) => request.entries primitives storage ++
        history primitives rest after

/-- Account changes that are applied one after the other. -/
inductive Run (primitives : Primitives) :
    AccountConfiguration → List AppliedEntry → AccountConfiguration → Prop
  | nil (storage : AccountConfiguration) : Run primitives storage [] storage
  | cons {entry : AppliedEntry} {after : AccountConfiguration}
      {rest : List AppliedEntry}
      (hstep : EntryStep primitives entry.localChainId entry.now entry.account
        entry.before entry.change entry.after)
      (hrest : Run primitives entry.after rest after) :
      Run primitives entry.before (entry :: rest) after

variable {requests : List TxRequest}

section Runs

variable {storage middle after : AccountConfiguration} {entries : List AppliedEntry}

theorem Run.append {first second : List AppliedEntry} (hfirst : Run primitives storage first middle)
    (hsecond : Run primitives middle second after) :
    Run primitives storage (first ++ second) after := by
  induction hfirst with
  | nil => exact hsecond
  | cons hstep _ ih => exact .cons hstep (ih hsecond)

theorem appliedEntries_run {index : Nat} {progress final : Progress}
    (happly : applyAccountChanges primitives localChainId now account changes index
      progress = .ok final) :
    Run primitives progress.storage
      (appliedEntries primitives localChainId now account changes index progress)
      final.storage := by
  induction changes generalizing index progress with
  | nil =>
    cases happly
    exact .nil _
  | cons change _ ih =>
    obtain ⟨next, hchange, hrest⟩ := bind_eq_ok.mp happly
    unfold appliedEntries
    rw [hchange]
    exact @Run.cons _ ⟨localChainId, now, account, change, progress.storage,
      next.storage⟩ _ _ (applyAccountChange_eq_ok hchange).1 (ih hrest)

theorem TxRequest.entries_run {request : TxRequest}
    (hgrant : authorizeAndApply primitives request.signed storage
      request.localChainId request.now = .ok (result, after)) :
    Run primitives storage (request.entries primitives storage) after := by
  obtain ⟨account, haccount, hgrant⟩ := bind_eq_ok.mp hgrant
  obtain ⟨progress, hprogress, hgrant⟩ := bind_eq_ok.mp hgrant
  obtain ⟨actors, -, hgrant⟩ := bind_eq_ok.mp hgrant
  obtain ⟨⟨⟩, -, hgrant⟩ := bind_eq_ok.mp hgrant
  cases hgrant
  unfold TxRequest.entries
  rw [haccount]
  exact appliedEntries_run hprogress

theorem Accepted.run (hacc : Accepted primitives storage requests after) :
    Run primitives storage (history primitives requests storage) after := by
  induction hacc with
  | nil storage => exact .nil storage
  | cons _ hgrant _ ih =>
    unfold history
    rw [hgrant]
    exact (TxRequest.entries_run hgrant).append ih

/-- An account change is about one account. -/
theorem EntryStep.sameAccount {other : Address}
    (hstep : EntryStep primitives localChainId now account storage change after)
    (hne : other ≠ account) : SameAccount storage after other := by
  cases hstep with
  | create _ hmade =>
    exact (SameAccount.refl.setAccountState hne _).trans (initial_sameAccount hmade.steps hne)
  | config _ _ _ _ _ _ _ hsteps =>
    exact (batch_sameAccount hsteps hne).setAccountState hne _
  | delegation => exact .refl

variable {motive : AccountConfiguration → Prop}

variable (hstep : ∀ {localChainId now account storage change after}, EntryStep primitives
  localChainId now account storage change after → motive storage → motive after)
  (hrun : Run primitives storage entries after)
include hrun

include hstep in
/-- What every account change keeps holds along a run. -/
theorem Run.invariant (hstart : motive storage) : motive after := by
  induction hrun with
  | nil => exact hstart
  | cons hentry _ ih => exact ih (hstep hentry hstart)

include hstep in
/-- What holds at the start and is kept by every account change holds before each of
them. -/
theorem Run.before (hstart : motive storage) : ∀ entry ∈ entries, motive entry.before := by
  induction hrun with
  | nil => exact fun _ hmem => nomatch hmem
  | cons hentry _ ih =>
    intro entry hmem
    rcases mem_cons.mp hmem with rfl | hmem
    · exact hstart
    · exact ih (hstep hentry hstart) entry hmem

theorem Run.step : ∀ entry ∈ entries,
    EntryStep primitives entry.localChainId entry.now entry.account entry.before entry.change entry.after := by
  induction hrun with
  | nil => exact fun _ hmem => nomatch hmem
  | cons hentry _ ih =>
    intro entry hmem
    rcases mem_cons.mp hmem with rfl | hmem
    · exact hentry
    · exact ih entry hmem

end Runs

/-- Whether each of the transactions is accepted. -/
def accepts (primitives : Primitives) : List TxRequest → AccountConfiguration → Bool
  | [], _ => true
  | request :: rest, storage =>
    match authorizeAndApply primitives request.signed storage request.localChainId
      request.now with
    | .error _ => false
    | .ok (_, after) => accepts primitives rest after

/-- The storage in the end; a rejected transaction leaves it as it was. -/
def finalStorage (primitives : Primitives) :
    List TxRequest → AccountConfiguration → AccountConfiguration
  | [], storage => storage
  | request :: rest, storage =>
    match authorizeAndApply primitives request.signed storage request.localChainId
      request.now with
    | .error _ => finalStorage primitives rest storage
    | .ok (_, after) => finalStorage primitives rest after

theorem accepted_of_accepts {primitives : Primitives} {storage : AccountConfiguration}
    (haccepts : accepts primitives requests storage = true) :
    Accepted primitives storage requests (finalStorage primitives requests storage) := by
  induction requests generalizing storage with
  | nil => exact .nil storage
  | cons request _ ih =>
    unfold accepts at haccepts
    split at haccepts
    · cases haccepts
    rename_i hgrant
    unfold finalStorage
    rw [hgrant]
    exact .cons request hgrant (ih haccepts)

/-- The first bytes of a text, filled up with zeros. -/
def padded (width : Nat) (data : Bytes) : FixedBytes width :=
  ⟨(data ++ List.replicate width 0).take width, by simp⟩

/-- Primitives that are small enough to evaluate: a signature starts with the address
that made it, every point that is not empty is a key, and nothing is hashed. -/
def transparentPrimitives : Primitives where
  keccak256 data := ⟨1 :: (padded 31 data).val, by simp [padded]⟩
  sha256 data := padded 32 data
  base64Url data := data
  recoverSigner raw _ := some (padded 20 raw)
  p256Verify _ _ _ _ _ := .ok ()
  decodeWebauthn _ := none
  encodeWebauthn _ := []
  decodeAuthorizeParams payload := some (padded 32 payload,
      ⟨padded 20 (payload.drop 32), .ofNat 48 (beNat (slice payload 52 58)),
        .ofNat 16 (beNat (slice payload 58 60))⟩, payload.drop 60)
  decodeRevokeParams payload := some (padded 32 payload)
  senderSignatureHash _ := default
  payerSignatureHash _ _ := default

section Transparent

variable (account : Address)

def transparentSignature : Bytes := account.val ++ List.replicate 44 0 ++ [27]

/-- A batch that the account itself signs with its own key. -/
def ownBatch (channel : AccountChangeChannel) (sequence : BitVec 64)
    (changes : List SignedChange) : AccountChange :=
  .configChange ⟨channel, sequence, changes, k1Authenticator.val ++ transparentSignature account⟩

/-- A transaction that the account itself sends and pays for. -/
def ownRequest (changes : List AccountChange) : TxRequest :=
  ⟨⟨⟨none, 0, changes, none⟩, transparentSignature account, []⟩, 8453, 100⟩

end Transparent

def authorizeChange (actorId : B256) (config : ActorConfig) : SignedChange :=
  ⟨.authorizeActor, actorId.val ++ config.authenticator.val ++ beBytes 6 config.expiry ++
    beBytes 2 config.scope.toNat⟩

end Eip8130

end BaseChain
