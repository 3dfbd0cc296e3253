/-
The sequencer actor in regular mode with a conductor.  A payload is built,
fetched, committed to the conductor, gossiped and inserted; the engine may
publish another unsafe head between any two steps.
-/
import Mathlib.Data.List.Basic

namespace BaseChain

namespace SealPipeline

/-- A block as the hashes from it back to genesis, its own first.  Their count
stands for its number, and a descendant has it as a suffix. -/
abbrev Block := List Nat

inductive SealState where
  | sealed | committed | gossiped

structure PayloadSealer where
  envelope : Block
  state : SealState

/-- The actor, with the head the engine publishes and the payloads the conductor
has accepted.  A build is kept as its parent. -/
structure Sequencer where
  unsafeHead : Block
  isActive : Bool
  pendingBuildParent : Option Block := none
  nextPayloadToSeal : Option Block := none
  fetching : Option Block := none
  sealer : Option PayloadSealer := none
  accepted : List Block := []

inductive Action where
  -- an external payload, an insertion or an engine reset, one asked for by a query included
  | publish (head : Block)
  | startSequencer (leader prepared : Bool)
  | stopSequencer
  | buildTick (ready : Bool)
  | sealPayload (hash : Option Nat) (ready : Bool)
  -- `none`: the step failed or a query interrupted it; the head is that of an insertion
  | step (answer : Option Block)

namespace Sequencer

variable (sys : Sequencer) (parent : Block) (ready : Bool)

def build : Sequencer := { sys with nextPayloadToSeal := if ready then some parent else none }

/-- The unsafe head is past the parent of a build or another block at its height. -/
def staleBuild : Bool := parent.length < sys.unsafeHead.length ||
    sys.unsafeHead.length == parent.length && sys.unsafeHead.head? != parent.head?

def handleBuildTick : Sequencer := match sys.pendingBuildParent, sys.nextPayloadToSeal with
  | some parent, _ => { sys with pendingBuildParent := none }.build parent ready
  | none, some parent =>
    if sys.staleBuild parent then sys.build sys.unsafeHead ready
    else { sys with nextPayloadToSeal := none, fetching := some parent }
  | none, none => sys.build sys.unsafeHead ready

/-- The answer of the engine to a fetch; after an error the build starts again. -/
def sealPayload : Option Nat → Sequencer
  | some hash => { sys with fetching := none, sealer := some ⟨hash :: parent, .sealed⟩ }
  | none => { sys with fetching := none }.build sys.unsafeHead ready

/-- A step of the pipeline that succeeded. -/
def advance (sealer : PayloadSealer) (head : Block) : Sequencer := match sealer.state with
  | .sealed => { sys with
    sealer := some ⟨sealer.envelope, .committed⟩, accepted := sealer.envelope :: sys.accepted }
  | .committed => { sys with sealer := some ⟨sealer.envelope, .gossiped⟩ }
  | .gossiped => { sys with
    sealer := none
    pendingBuildParent := if sys.isActive then some head else sys.pendingBuildParent }

/-- During a fetch the actor does nothing else. -/
def perform (action : Action) : Option Sequencer := match action, sys.fetching with
  | .publish head, _ => some { sys with unsafeHead := head }
  | .sealPayload hash ready, some parent => some (sys.sealPayload parent ready hash)
  | .startSequencer leader prepared, none => some <|
    if sys.isActive || !(leader && prepared) then sys
    else { sys with isActive := true, pendingBuildParent := none }
  | .stopSequencer, none => some { sys with
    isActive := false, nextPayloadToSeal := none
    pendingBuildParent := if sys.isActive then none else sys.pendingBuildParent }
  | .buildTick ready, none =>
    if sys.sealer.isSome || !sys.isActive then none else some (sys.handleBuildTick ready)
  | .step answer, none =>
    sys.sealer.map fun sealer => (answer.map (sys.advance sealer)).getD sys
  | _, _ => none

/-- The head is below the payload, or it is the payload or a descendant. -/
def Behind (head payload : Block) : Prop := head.length < payload.length ∨ payload <:+ head

/-- The payload is in the pipeline and not gossiped yet. -/
def Pending (envelope : Block) : Prop :=
  sys.sealer = some ⟨envelope, .sealed⟩ ∨ sys.sealer = some ⟨envelope, .committed⟩

/-- From the check of a build to the gossip of its payload no head is published
that passes the payload by. -/
def Undisturbed : Action → Prop
  | .publish head => (∀ parent, sys.fetching = some parent → head.length ≤ parent.length) ∧
    ∀ envelope, sys.Pending envelope → Behind head envelope
  | _ => True

/-- The states of all runs; the first argument says that no action so far
disturbed a payload. -/
inductive Reachable : Prop → Sequencer → Prop where
  | start (head : Block) (isActive : Bool) :
    Reachable True { unsafeHead := head, isActive := isActive }
  | step {calm : Prop} {sys next : Sequencer} {action : Action} (hbefore : Reachable calm sys)
    (hstep : sys.perform action = some next) : Reachable (calm ∧ sys.Undisturbed action) next

structure Safe (calm : Prop) (sys : Sequencer) : Prop where
  fetching : calm → ∀ {parent}, sys.fetching = some parent → sys.unsafeHead.length ≤ parent.length
  accepted : ∀ {envelope}, sys.sealer = some ⟨envelope, .committed⟩ → envelope ∈ sys.accepted
  behind : calm → ∀ {envelope}, sys.Pending envelope → Behind sys.unsafeHead envelope

variable {calm : Prop} {sys : Sequencer}

theorem Safe.of_calm {still : Prop} (hsafe : sys.Safe calm) (hcalm : still → calm) :
    sys.Safe still :=
  ⟨fun hstill => hsafe.fetching (hcalm hstill), hsafe.accepted,
    fun hstill => hsafe.behind (hcalm hstill)⟩

variable (hsafe : sys.Safe calm)
include hsafe

/-- A build that is not stale has a parent the unsafe head is not past. -/
theorem Safe.handleBuildTick {ready : Bool} : (sys.handleBuildTick ready).Safe calm := by
  unfold Sequencer.handleBuildTick
  split
  · exact ⟨hsafe.fetching, hsafe.accepted, hsafe.behind⟩
  · split
    · exact ⟨hsafe.fetching, hsafe.accepted, hsafe.behind⟩
    · rename_i hfresh
      refine ⟨?_, hsafe.accepted, hsafe.behind⟩
      rintro - _ ⟨⟩
      simp only [staleBuild, Bool.or_eq_true, decide_eq_true_eq, not_or, Nat.not_lt] at hfresh
      exact hfresh.1
  · exact ⟨hsafe.fetching, hsafe.accepted, hsafe.behind⟩

theorem Safe.sealPayload {parent : Block} {ready : Bool} {hash : Option Nat}
    (hfetching : sys.fetching = some parent) : (sys.sealPayload parent ready hash).Safe calm := by
  cases hash with
  | none => exact ⟨nofun, hsafe.accepted, hsafe.behind⟩
  | some =>
    refine ⟨nofun, nofun, ?_⟩
    rintro hcalm envelope (hsealed | hcommitted)
    · cases hsealed
      exact Or.inl (Nat.lt_succ_of_le (hsafe.fetching hcalm hfetching))
    · cases hcommitted

theorem Safe.advance {sealer : PayloadSealer} {head : Block}
    (hsealer : sys.sealer = some sealer) : (sys.advance sealer head).Safe calm := by
  obtain ⟨envelope, state⟩ := sealer
  cases state with
  | sealed =>
    refine ⟨hsafe.fetching, ?_, ?_⟩
    · intro _ hcommitted
      cases hcommitted
      exact List.mem_cons_self
    · rintro hcalm _ (hsealed | hcommitted)
      · cases hsealed
      · cases hcommitted
        exact hsafe.behind hcalm (Or.inl hsealer)
  | committed | gossiped =>
    refine ⟨hsafe.fetching, nofun, ?_⟩
    rintro - _ (hsealed | hcommitted)
    · cases hsealed
    · cases hcommitted

theorem Safe.perform {next : Sequencer} {action : Action}
    (hstep : sys.perform action = some next) : next.Safe (calm ∧ sys.Undisturbed action) := by
  unfold Sequencer.perform at hstep
  split at hstep
  · cases hstep
    exact ⟨fun hcalm => hcalm.2.1 _, hsafe.accepted, fun hcalm => hcalm.2.2 _⟩
  · rename_i hfetching
    cases hstep
    exact (hsafe.sealPayload hfetching).of_calm And.left
  · cases hstep
    refine Safe.of_calm ?_ And.left
    split
    · exact hsafe
    · exact ⟨hsafe.fetching, hsafe.accepted, hsafe.behind⟩
  · cases hstep
    exact Safe.of_calm ⟨hsafe.fetching, hsafe.accepted, hsafe.behind⟩ And.left
  · split at hstep
    · cases hstep
    · cases hstep
      exact hsafe.handleBuildTick.of_calm And.left
  · rename_i answer _
    obtain ⟨sealer, hsealer, rfl⟩ := Option.map_eq_some_iff.mp hstep
    cases answer with
    | none => exact hsafe.of_calm And.left
    | some => exact (hsafe.advance hsealer).of_calm And.left
  · cases hstep

omit hsafe

theorem Reachable.safe (hreachable : Reachable calm sys) : sys.Safe calm := by
  induction hreachable with
  | start =>
    refine ⟨nofun, nofun, ?_⟩
    rintro - _ (hsealed | hcommitted)
    · cases hsealed
    · cases hcommitted
  | step hbefore hstep ih => exact ih.perform hstep

/-- In every run a payload about to be gossiped was accepted by the conductor;
and in an undisturbed one no commit or gossip begins for a payload that the
unsafe head has passed. -/
theorem seal_steps_behind (hreachable : Reachable calm sys) :
    (∀ envelope, sys.sealer = some ⟨envelope, .committed⟩ → envelope ∈ sys.accepted) ∧
      (calm → ∀ envelope, sys.Pending envelope → ¬ (envelope.length ≤ sys.unsafeHead.length ∧
        sys.unsafeHead ≠ envelope ∧ ¬ envelope <:+ sys.unsafeHead)) := by
  have hsafe := hreachable.safe
  refine ⟨fun envelope => hsafe.accepted, ?_⟩
  rintro hcalm envelope hpending ⟨hpassed, -, hother⟩
  rcases hsafe.behind hcalm hpending with hbelow | hdescends
  · exact Nat.not_lt.mpr hpassed hbelow
  · exact hother hdescends

theorem seal_steps_behind_sealed : ∃ sys, Reachable (((True ∧ True) ∧ True) ∧ True) sys ∧
    sys.Pending [2, 1] ∧ ¬ ([2, 1].length ≤ sys.unsafeHead.length ∧
      sys.unsafeHead ≠ [2, 1] ∧ ¬ [2, 1] <:+ sys.unsafeHead) :=
  have hbuilt := @Reachable.step _ _ _ (.buildTick true) (.start [1] true) rfl
  have hfetching := @Reachable.step _ _ _ (.buildTick true) hbuilt rfl
  have hsealed := @Reachable.step _ _ _ (.sealPayload (some 2) true) hfetching rfl
  ⟨_, hsealed, Or.inl rfl, (seal_steps_behind hsealed).2 (by trivial) [2, 1] (Or.inl rfl)⟩

/-- The commit of `[2, 1]` fails and `[3, 1]` arrives from outside; after a stop
and a start the payload is committed and up for gossip. -/
theorem passed_payload_committed :
    ∃ sys, List.foldlM perform ⟨[1], true, none, none, none, none, []⟩
      [.buildTick true, .buildTick true, .sealPayload (some 2) true, .step none, .publish [3, 1],
        .stopSequencer, .startSequencer true true, .step (some [])] = some sys ∧
    sys.sealer = some ⟨[2, 1], .committed⟩ ∧ sys.unsafeHead = [3, 1] :=
  ⟨_, rfl, rfl, rfl⟩

end Sequencer

end SealPipeline

end BaseChain
