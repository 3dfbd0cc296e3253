/-
What the derivation actor expects of its mailbox, and that it reacts to an expected message
without an invalid transition, deriving only on a head that the engine has held.
-/
import BaseChain.DerivationMailbox
import BaseChain.QueueWalk

namespace BaseChain

open List ConsensusNode.ActorEffect ConsensusNode.DerivationState

namespace ConsensusNode

/-- The states of the actor, as far as the next message depends on them. -/
inductive Awaiting where
  | sync
  | l1Data
  | confirmation
  | update
deriving DecidableEq

def Awaiting.signalled : Awaiting → Awaiting
  | .sync => .sync
  | _ => .update

def DerivationState.awaits : DerivationState → Awaiting
  | .awaitingElSyncCompletion => .sync
  | .awaitingSafeHeadConfirmation => .confirmation
  | .awaitingUpdateAfterSignal => .update
  | _ => .l1Data

/-- What the actor awaits, the number of signals that it has handled by then and the head
that it has confirmed by then. -/
structure Expectation where
  awaits : Awaiting
  count : Nat
  head : L2BlockInfo

/-- The messages that may come next.  Those that make the actor derive do so on a head that
was held. -/
inductive Expects (held : Nat → L2BlockInfo → Prop) :
    Expectation → DerivationActorRequest → Expectation → Prop
  | finalized (expectation : Expectation) (block : BlockInfo) :
      Expects held expectation (.processFinalizedL1Block block) expectation
  | signal (awaits : Awaiting) (count : Nat) (head : L2BlockInfo) (signal : Signal) :
      Expects held ⟨awaits, count, head⟩ (.processEngineSignal signal)
        ⟨awaits.signalled, count + 1, head⟩
  | l1Head {awaits : Awaiting} (count : Nat) (head : L2BlockInfo) (block : BlockInfo)
      (hawaits : awaits = .sync ∨ awaits = .confirmation) :
      Expects held ⟨awaits, count, head⟩ (.processL1HeadUpdate block) ⟨awaits, count, head⟩
  | l1HeadDerives {awaits : Awaiting} {count : Nat} {head : L2BlockInfo}
      (block : BlockInfo) (hawaits : awaits = .l1Data ∨ awaits = .update)
      (hheld : held count head) :
      Expects held ⟨awaits, count, head⟩ (.processL1HeadUpdate block) ⟨.l1Data, count, head⟩
  | safeHead (count : Nat) (head safeHead : L2BlockInfo) :
      Expects held ⟨.sync, count, head⟩ (.processEngineSafeHeadUpdate safeHead)
        ⟨.sync, count, safeHead⟩
  | safeHeadDerives {awaits : Awaiting} {count : Nat} (head : L2BlockInfo)
      {safeHead : L2BlockInfo} (hawaits : awaits = .confirmation ∨ awaits = .update)
      (hheld : held count safeHead) :
      Expects held ⟨awaits, count, head⟩ (.processEngineSafeHeadUpdate safeHead)
        ⟨.l1Data, count, safeHead⟩
  | syncCompleted {count : Nat} (head : L2BlockInfo) {safeHead : L2BlockInfo}
      (hheld : held count safeHead) :
      Expects held ⟨.sync, count, head⟩ (.processEngineSyncCompletion safeHead)
        ⟨.l1Data, count, safeHead⟩

variable {held : Nat → L2BlockInfo → Prop} {request : DerivationActorRequest}

section Expects

variable {before after : Expectation}

theorem Expects.mono {other : Nat → L2BlockInfo → Prop}
    (hother : ∀ {count head}, held count head → other count head)
    (hexpects : Expects held before request after) :
    Expects other before request after := by
  cases hexpects with
  | finalized _ block => exact .finalized _ block
  | signal awaits count head signal => exact .signal awaits count head signal
  | l1Head count head block hawaits => exact .l1Head count head block hawaits
  | l1HeadDerives block hawaits hheld => exact .l1HeadDerives block hawaits (hother hheld)
  | safeHead count head safeHead => exact .safeHead count head safeHead
  | safeHeadDerives head hawaits hheld => exact .safeHeadDerives head hawaits (hother hheld)
  | syncCompleted head hheld => exact .syncCompleted head (hother hheld)

variable (hexpects : Expects held before request after)

include hexpects in
theorem Expects.count_eq : after.count = before.count + request.signals := by
  cases hexpects <;> rfl

include hexpects in
theorem Expects.count_le : before.count ≤ after.count :=
  (Nat.le_add_right _ _).trans_eq hexpects.count_eq.symm

/-- The same expectation, or that of an actor which has sent attributes instead of waiting
for L1 data. -/
inductive Covers : Expectation → Expectation → Prop
  | refl (expectation : Expectation) : Covers expectation expectation
  | confirmation (count : Nat) (head : L2BlockInfo) :
      Covers ⟨.l1Data, count, head⟩ ⟨.confirmation, count, head⟩

variable {other : Expectation}

theorem Covers.expects (hcovers : Covers before other)
    (hexpects : Expects held before request after) :
    ∃ next, Expects held other request next ∧ Covers after next := by
  cases hcovers with
  | refl => exact ⟨after, hexpects, .refl after⟩
  | confirmation count head =>
    cases hexpects with
    | finalized _ block => exact ⟨_, .finalized _ block, .confirmation count head⟩
    | signal _ _ _ signal => exact ⟨_, .signal _ count head signal, .refl _⟩
    | l1Head _ _ block => exact ⟨_, .l1Head count head block (.inr rfl), .confirmation _ _⟩
    | l1HeadDerives block =>
      exact ⟨_, .l1Head count head block (.inr rfl), .confirmation count head⟩
    | safeHeadDerives _ hawaits => rcases hawaits with h | h <;> cases h

/-- A message that an actor which awaits a confirmation passes over. -/
def DerivationActorRequest.isQuiet : DerivationActorRequest → Bool
  | .processFinalizedL1Block _ => true
  | .processL1HeadUpdate _ => true
  | _ => false

variable {queue : List DerivationActorRequest}

/-- As long as no signal comes, an actor that waits for L1 data expects quiet messages. -/
theorem quiet_of_walk (hwalk : QueueWalk (Expects held) before queue after)
    (hbefore : before.awaits = .l1Data) (hcount : after.count ≤ before.count) :
    ∀ request ∈ queue, request.isQuiet = true := by
  induction hwalk with
  | nil => exact fun _ hmem => absurd hmem not_mem_nil
  | @cons _ next last _ _ hstep hwalk ih =>
    have hle : next.count ≤ last.count := hwalk.keeps (motive := (next.count ≤ ·.count))
        (fun hstep hle => hle.trans hstep.count_le) (le_refl _)
    cases hstep with
    | finalized => exact forall_mem_cons.mpr ⟨rfl, ih hbefore hcount⟩
    | signal => exact absurd (hle.trans hcount) (Nat.not_succ_le_self _)
    | l1Head => exact forall_mem_cons.mpr ⟨rfl, ih hbefore hcount⟩
    | l1HeadDerives => exact forall_mem_cons.mpr ⟨rfl, ih rfl hcount⟩
    | safeHead => cases hbefore
    | safeHeadDerives _ hawaits => subst hbefore; rcases hawaits with h | h <;> cases h
    | syncCompleted => cases hbefore

include hexpects in
theorem Expects.quiet (hbefore : before.awaits = .confirmation) (hquiet : request.isQuiet = true) :
    after = before := by
  cases hexpects with
  | finalized | l1Head => rfl
  | l1HeadDerives _ hawaits => subst hbefore; rcases hawaits with h | h <;> cases h
  | signal | safeHead | safeHeadDerives | syncCompleted => cases hquiet

/-- An actor that awaits a confirmation still does so after quiet messages. -/
theorem confirmation_of_quiet (hwalk : QueueWalk (Expects held) before queue after)
    (hbefore : before.awaits = .confirmation)
    (hquiet : ∀ request ∈ queue, request.isQuiet = true) :
    after.awaits = .confirmation := by
  induction hwalk with
  | nil => exact hbefore
  | cons hstep _ ih =>
    obtain ⟨hfirst, hrest⟩ := forall_mem_cons.mp hquiet
    exact ih ((congrArg _ (hstep.quiet hbefore hfirst)).trans hbefore) hrest

theorem Covers.confirmation_of (hcovers : Covers before other)
    (hbefore : before.awaits = .confirmation) : other.awaits = .confirmation := by
  cases hcovers with
  | refl => exact hbefore
  | confirmation => rfl

theorem DerivationState.awaits_confirmation {state : DerivationState}
    (hstate : state.awaits = .confirmation) : state = .awaitingSafeHeadConfirmation := by
  cases state <;> first | rfl | cases hstate

end Expects

variable (confirmed : L2BlockInfo)

/-- Attributes are built on the confirmed head and say where they come from. -/
def Production.BuiltOn : Production → Prop
  | .attributes made => ∃ derivedFrom isLastInSpan,
      made = ⟨confirmed, some derivedFrom, isLastInSpan⟩
  | _ => True

theorem PipelineAnswer.round_builtOn {answer : PipelineAnswer} {confirmed : L2BlockInfo}
    {production : Production} (hround : answer.round confirmed = some production) :
    production.BuiltOn confirmed := by
  cases production with
  | attributes attributes =>
    have htake : answer.takeNext confirmed = some (.attributes attributes) := by
      unfold round handleError at hround
      repeat' split at hround
      all_goals first | exact hround | cases hround
    obtain ⟨⟨origin, isLastInSpan⟩, -, hattributes⟩ := Option.map_eq_some_iff.mp htake
    cases hattributes
    exact ⟨origin, isLastInSpan, rfl⟩
  | _ => trivial

variable (answers : List PipelineAnswer)

theorem produceNextAttributes_builtOn :
    (produceNextAttributes confirmed answers).2.BuiltOn confirmed := by
  induction answers with
  | nil => trivial
  | cons answer rest ih =>
    unfold produceNextAttributes
    cases hround : answer.round confirmed with
    | some => exact PipelineAnswer.round_builtOn hround
    | none => exact ih

section Reacts

variable {actor : DerivationActor} {next : Expectation} {handling : Handling}

/-- The head that the actor builds on when it steps the pipeline or sends attributes. -/
def ActorEffect.parent : ActorEffect → Option L2BlockInfo
  | .stepped parent => some parent
  | .safeL2Signal attributes => some attributes.parent
  | _ => none

def ActorEffect.isAttributes : ActorEffect → Bool
  | .safeL2Signal _ => true
  | _ => false

/-- How the actor goes on if it meets the next expectation. -/
structure Reacts (held : Nat → L2BlockInfo → Prop) (next : Expectation)
    (handling : Handling) : Prop where
  parents : ∀ effect ∈ handling.2.1, ∀ parent, effect.parent = some parent → held next.count parent
  valid : ∀ error, handling.2.2 ≠ .failed (.stateTransition error)
  resting : handling.2.2 = .done → handling.1.machine.state ≠ .activelyDeriving
  waiting : handling.2.2 = .awaitingReset → handling.1.machine.state = .activelyDeriving
  covers : handling.2.2 = .done ∨ handling.2.2 = .awaitingReset →
    Covers next ⟨handling.1.machine.state.awaits, next.count, handling.1.machine.confirmedSafeHead⟩
  attributes : handling.2.1.countP isAttributes = 0 ∨
    handling.2.1.countP isAttributes = 1 ∧ handling.2.2 = .done ∧
      handling.1.machine.state = .awaitingSafeHeadConfirmation ∧ next.awaits = .l1Data

variable {confirmed : L2BlockInfo} {state : DerivationState} {finalizer : L2Finalizer}
  {safeHeads : SafeDb} {pending : Option BlockInfo}

/-- The actor is done without sending anything. -/
theorem reacts_done (hresting : state ≠ .activelyDeriving)
    (hcovers : Covers next ⟨state.awaits, next.count, confirmed⟩) :
    Reacts held next (⟨⟨confirmed, state⟩, finalizer, safeHeads, pending⟩, [], .done) :=
  ⟨nofun, nofun, fun _ => hresting, nofun, fun _ => hcovers, .inl rfl⟩

theorem Reacts.emitting {effects : List ActorEffect}
    (heffects : ∀ effect ∈ effects, effect.isAttributes = false ∧
      ∀ parent, effect.parent = some parent → held next.count parent)
    (hreacts : Reacts held next handling) :
    Reacts held next (DerivationActor.emitting effects handling) where
  parents := forall_mem_append.mpr ⟨fun effect hmem => (heffects effect hmem).2, hreacts.parents⟩
  valid := hreacts.valid
  resting := hreacts.resting
  waiting := hreacts.waiting
  covers := hreacts.covers
  attributes := by
    have hnone : effects.countP isAttributes = 0 :=
      countP_eq_zero.mpr fun effect hmem => by simp [heffects effect hmem]
    have hcount : (effects ++ handling.2.1).countP isAttributes =
        handling.2.1.countP isAttributes := by
      rw [countP_append, hnone, zero_add]
    dsimp only [DerivationActor.emitting]
    rw [hcount]
    exact hreacts.attributes

theorem finalizing_effects (number : Option Nat) :
    ∀ effect ∈ DerivationActor.finalizing number, effect.isAttributes = false ∧
      ∀ parent, effect.parent = some parent → held next.count parent := by
  cases number with
  | none => nofun
  | some => simp [DerivationActor.finalizing, parent, isAttributes]

variable {count : Nat}

theorem attemptDerivation_reacts (hheld : held count confirmed) (answers : List PipelineAnswer) :
    Reacts held ⟨.l1Data, count, confirmed⟩ (DerivationActor.attemptDerivation answers
      ⟨⟨confirmed, .activelyDeriving⟩, finalizer, safeHeads, pending⟩) := by
  have hbuilt := produceNextAttributes_builtOn confirmed answers
  unfold DerivationActor.attemptDerivation
  dsimp only
  generalize produceNextAttributes confirmed answers = result at hbuilt
  obtain ⟨steps, production⟩ := result
  refine .emitting ?_ ?_
  · intro effect hmem
    cases eq_of_mem_replicate hmem
    exact ⟨rfl, fun parent hparent => by cases hparent; exact hheld⟩
  · cases production with
    | attributes =>
      obtain ⟨derivedFrom, isLastInSpan, rfl⟩ := hbuilt
      refine ⟨?_, nofun, nofun, nofun, fun _ => .confirmation _ _, .inr ⟨rfl, rfl, rfl, rfl⟩⟩
      intro effect hmem parent hparent
      obtain rfl := mem_singleton.mp hmem
      exact Option.some.inj hparent ▸ hheld
    | yielded => exact reacts_done nofun (.refl _)
    | resetRequested =>
      exact ⟨by simp [parent], nofun, nofun, fun _ => rfl, fun _ => .refl _, .inl rfl⟩
    | failed error | stepping => exact ⟨nofun, nofun, nofun, nofun, nofun, .inl rfl⟩

/-- An expected message makes no invalid transition, and the actor derives on a head that
was held. -/
theorem Expects.reacts (hresting : actor.machine.state ≠ .activelyDeriving) (hexpects : Expects held
      ⟨actor.machine.state.awaits, count, actor.machine.confirmedSafeHead⟩ request next) :
    Reacts held next (actor.handleDerivationActorRequest answers request) := by
  obtain ⟨⟨confirmed, state⟩, finalizer, safeHeads, pending⟩ := actor
  generalize hawaits : state.awaits = awaits at hexpects
  cases hexpects with
  | finalized _ block =>
    subst hawaits
    have hreacts : Reacts held ⟨state.awaits, count, confirmed⟩ _ :=
      Reacts.emitting (finalizing_effects (finalizer.processFinalizedL1Block block).1)
        (@reacts_done held _ confirmed state (finalizer.processFinalizedL1Block block).2
          safeHeads pending hresting (.refl _))
    rw [DerivationActor.emitting, append_nil] at hreacts
    exact hreacts
  | signal _ _ _ signal =>
    subst hawaits
    cases state <;> cases signal <;>
      first | exact reacts_done nofun (.refl _) | exact absurd rfl hresting
  | l1Head _ _ block hpasses =>
    subst hawaits
    cases state with
    | awaitingElSyncCompletion | awaitingSafeHeadConfirmation => exact reacts_done nofun (.refl _)
    | _ => simp [awaits] at hpasses
  | l1HeadDerives block hderives hheld =>
    subst hawaits
    cases state with
    | awaitingL1Data | awaitingUpdateAfterSignal => exact attemptDerivation_reacts hheld answers
    | awaitingSignal => exact reacts_done nofun (.refl _)
    | activelyDeriving => exact absurd rfl hresting
    | _ => simp [awaits] at hderives
  | safeHead _ _ safeHead =>
    cases state with
    | awaitingElSyncCompletion =>
      exact .emitting (finalizing_effects _) (@reacts_done held _ safeHead
        .awaitingElSyncCompletion _ _ _ nofun (.refl _))
    | _ => cases hawaits
  | safeHeadDerives _ hderives hheld =>
    subst hawaits
    cases state with
    | awaitingSafeHeadConfirmation | awaitingUpdateAfterSignal =>
      exact .emitting (finalizing_effects _) (attemptDerivation_reacts hheld answers)
    | _ => simp [awaits] at hderives
  | syncCompleted _ hheld =>
    cases state with
    | awaitingElSyncCompletion => exact attemptDerivation_reacts hheld answers
    | _ => cases hawaits

end Reacts

end ConsensusNode

end BaseChain
