/-
Runs of the derivation actor with the senders to its mailbox: as long as the messages come
in order, the actor makes no invalid transition and derives on the engine's safe head.
-/
import Mathlib.Data.List.Perm.Basic
import BaseChain.DerivationOrder

namespace BaseChain

open List ConsensusNode.ActorEffect ConsensusNode.DerivationActorRequest

namespace ConsensusNode

namespace DerivationSystem

variable {system after : DerivationSystem} {final : Expectation}
  {messages : List DerivationActorRequest}

/-- The actor goes on, if only after the answer to its request for a reset. -/
def Alive (system : DerivationSystem) : Prop :=
  system.status = .done ∨ system.status = .awaitingReset

def expectation (system : DerivationSystem) : Expectation :=
  ⟨system.actor.machine.state.awaits, system.signalsHandled, system.actor.machine.confirmedSafeHead⟩

/-- The number of attributes on their way that were sent after every signal so far. -/
def freshCount (system : DerivationSystem) : Nat := system.inbox.countP fun entry =>
    entry.1 = system.signalsSent ∧ entry.2.isAttributes = true

/-- What the actor expects after its mailbox, seen from the engine. -/
structure Settles (system : DerivationSystem) (final : Expectation) : Prop where
  count : final.count = system.signalsSent
  head : final.head = system.engine.lastSafeHeadSent
  synced : system.engine.elSyncComplete = false ↔ final.awaits = .sync
  signalled : system.pairOpen = true → final.awaits = .update ∨ final.awaits = .sync
  held : system.pairOpen = false → system.Held final.count final.head

structure Ordered (system : DerivationSystem) : Prop where
  valid : ∀ error, system.status ≠ .failed (.stateTransition error)
  resting : system.status = .done → system.actor.machine.state ≠ .activelyDeriving
  waiting : system.status = .awaitingReset → system.actor.machine.state = .activelyDeriving
  delivered : system.Alive → ∃ final, QueueWalk (Expects system.Held)
    system.expectation system.mailbox final ∧ system.Settles final
  sent : system.engine.signalling = false → system.engine.safeHead = system.engine.lastSafeHeadSent
  holds : (system.signalsSent, system.engine.safeHead) ∈ system.held
  handled : system.signalsHandled ≤ system.signalsSent
  tags : ∀ entry ∈ system.inbox, entry.1 ≤ system.signalsHandled
  fresh : system.Alive → system.freshCount = 0 ∨ system.freshCount = 1 ∧
    system.actor.machine.state = .awaitingSafeHeadConfirmation ∧
      ∀ request ∈ system.mailbox, request.isQuiet = true
  parents : ∀ entry ∈ system.emitted, ∀ parent, entry.2.parent = some parent →
    system.Held entry.1 parent

theorem ordered_start : start.Ordered where
  valid _ := nofun
  resting _ := nofun
  waiting := nofun
  delivered _ := ⟨_, .nil _, rfl, rfl, ⟨fun _ => rfl, fun _ => rfl⟩, nofun,
    fun _ => ⟨0, le_refl 0, mem_cons_self⟩⟩
  sent _ := rfl
  holds := mem_cons_self
  handled := le_refl 0
  tags := nofun
  fresh _ := .inl rfl
  parents := nofun

/-- A step of one of the senders. -/
structure Sends (system : DerivationSystem) (messages : List DerivationActorRequest)
    (after : DerivationSystem) : Prop where
  actor : after.actor = system.actor
  status : after.status = system.status
  signalsHandled : after.signalsHandled = system.signalsHandled
  emitted : after.emitted = system.emitted
  mailbox : after.mailbox = system.mailbox ++ messages
  signalsSent : system.signalsSent ≤ after.signalsSent
  held : ∀ entry ∈ system.held, entry ∈ after.held
  inbox : ∀ entry ∈ after.inbox, entry ∈ system.inbox

theorem Sends.held_mono (hsends : Sends system messages after) {count : Nat}
    {head : L2BlockInfo} (hheld : system.Held count head) : after.Held count head := by
  obtain ⟨later, hle, hmem⟩ := hheld
  exact ⟨later, hle, hsends.held _ hmem⟩

/-- What is left to show of a step of a sender. -/
theorem Ordered.sends (hordered : system.Ordered) (hsends : Sends system messages after)
    (hsettles : ∀ final, system.Settles final →
      system.freshCount = 0 ∨ system.freshCount = 1 ∧ final.awaits = .confirmation →
      ∃ last, QueueWalk (Expects after.Held) final messages last ∧ after.Settles last ∧
        (after.freshCount = 0 ∨ after.freshCount ≤ system.freshCount ∧
          ∀ message ∈ messages, message.isQuiet = true))
    (hsent : after.engine.signalling = false →
      after.engine.safeHead = after.engine.lastSafeHeadSent)
    (hholds : (after.signalsSent, after.engine.safeHead) ∈ after.held) :
    after.Ordered := by
  have hdelivered : system.Alive → ∃ final last, QueueWalk (Expects system.Held)
      system.expectation system.mailbox final ∧
        QueueWalk (Expects after.Held) final messages last ∧ after.Settles last ∧
        (after.freshCount = 0 ∨ after.freshCount ≤ system.freshCount ∧
          ∀ message ∈ messages, message.isQuiet = true) := by
    intro halive
    obtain ⟨final, hwalk, hdone⟩ := hordered.delivered halive
    have hfresh : system.freshCount = 0 ∨ system.freshCount = 1 ∧ final.awaits = .confirmation := by
      refine (hordered.fresh halive).imp_right fun ⟨hone, hstate, hquiet⟩ => ⟨hone, ?_⟩
      exact confirmation_of_quiet hwalk (by rw [expectation, hstate]; rfl) hquiet
    obtain ⟨last, hrest⟩ := hsettles final hdone hfresh
    exact ⟨final, last, hwalk, hrest⟩
  have halive : after.Alive → system.Alive := by
    rw [Alive, hsends.status]
    exact id
  refine ⟨?_, ?_, ?_, ?_, hsent, hholds, ?_, ?_, ?_, ?_⟩
  · rw [hsends.status]
    exact hordered.valid
  · rw [hsends.status, hsends.actor]
    exact hordered.resting
  · rw [hsends.status, hsends.actor]
    exact hordered.waiting
  · intro hafter
    obtain ⟨final, last, hwalk, hmessages, hdone, -⟩ := hdelivered (halive hafter)
    refine ⟨last, ?_, hdone⟩
    rw [expectation, hsends.actor, hsends.signalsHandled, hsends.mailbox]
    exact (hwalk.mono fun hstep => hstep.mono hsends.held_mono).append hmessages
  · rw [hsends.signalsHandled]
    exact hordered.handled.trans hsends.signalsSent
  · intro entry hmem
    rw [hsends.signalsHandled]
    exact hordered.tags entry (hsends.inbox entry hmem)
  · intro hafter
    obtain ⟨-, -, -, -, -, hzero | ⟨hle, hquiet⟩⟩ := hdelivered (halive hafter)
    · exact .inl hzero
    · rw [hsends.actor, hsends.mailbox]
      rcases hordered.fresh (halive hafter) with hzero | ⟨hone, hstate, hbefore⟩
      · exact .inl (Nat.le_zero.mp (hle.trans_eq hzero))
      · exact (Nat.le_one_iff_eq_zero_or_eq_one.mp (hle.trans_eq hone)).imp_right
          fun hone => ⟨hone, hstate, forall_mem_append.mpr ⟨hbefore, hquiet⟩⟩
  · intro entry hmem parent hparent
    rw [hsends.emitted] at hmem
    exact hsends.held_mono (hordered.parents entry hmem parent hparent)

theorem take_eq (takes : Option Nat) : ∃ inbox, inbox.Sublist system.inbox ∧
    system.take takes = { system with inbox } := by
  cases takes with
  | none => exact ⟨_, .refl _, rfl⟩
  | some index => exact ⟨_, eraseIdx_sublist system.inbox index, rfl⟩

theorem freshCount_take {takes : Option Nat} (hfresh : system.isFresh takes = true) :
    (system.take takes).freshCount + 1 = system.freshCount := by
  unfold isFresh at hfresh
  split at hfresh
  · rename_i count attributes hentry
    obtain ⟨index, rfl, hentry⟩ := Option.bind_eq_some_iff.mp hentry
    obtain ⟨hindex, hentry⟩ := List.getElem?_eq_some_iff.mp hentry
    have hperm := getElem_cons_eraseIdx_perm hindex
    unfold freshCount
    rw [← hperm.countP_eq, hentry, countP_cons_of_pos]
    · rfl
    · simpa [isAttributes] using hfresh
  · cases hfresh

section Senders

variable (hordered : system.Ordered)
include hordered

variable {held : List (Nat × L2BlockInfo)} {inbox : List (Nat × ActorEffect)}

/-- A step of the engine that sends nothing. -/
theorem Ordered.keeps {engine : EngineProcessor} (hinbox : inbox.Sublist system.inbox)
    (hheld : ∀ entry ∈ system.held, entry ∈ held)
    (hsafeHead : engine.safeHead = system.engine.safeHead)
    (hlast : engine.lastSafeHeadSent = system.engine.lastSafeHeadSent)
    (hfull : engine.elSyncComplete = system.engine.elSyncComplete)
    (hsignalling : engine.signalling = system.engine.signalling ∨
      engine.safeHead = engine.lastSafeHeadSent) :
    Ordered { system with engine, inbox, held } := by
  have hpair : pairOpen { system with engine, inbox, held } = system.pairOpen := by
    unfold pairOpen
    rcases hsignalling with hsame | hsame
    · simp [hsame, hsafeHead, hlast]
    · simp [hsame, ← hsafeHead, ← hlast]
  have hsends : Sends system [] { system with engine, inbox, held } :=
    ⟨rfl, rfl, rfl, rfl, (append_nil _).symm, le_refl _, hheld, fun _ => hinbox.mem⟩
  refine hordered.sends hsends ?_ ?_ (hheld _ (hsafeHead ▸ hordered.holds))
  · intro final hdone _
    refine ⟨final, .nil _, ⟨hdone.count, hdone.head.trans hlast.symm, ?_, ?_, ?_⟩,
      .inr ⟨hinbox.countP_le, nofun⟩⟩
    · exact hfull ▸ hdone.synced
    · exact fun hopen => hdone.signalled (hpair ▸ hopen)
    · exact fun hclosed => hsends.held_mono (hdone.held (hpair ▸ hclosed))
  · intro hidle
    rcases hsignalling with hsame | hsame
    · exact hsafeHead.trans ((hordered.sent (hsame.symm.trans hidle)).trans hlast.symm)
    · exact hsame

theorem Ordered.l1Finalized (block : BlockInfo) :
    (system.send (.processFinalizedL1Block block)).Ordered := by
  refine hordered.sends ⟨rfl, rfl, rfl, rfl, rfl, le_refl _, fun _ => id, fun _ => id⟩ ?_
    hordered.sent hordered.holds
  exact fun final hdone _ => ⟨final, .cons (.finalized _ block) (.nil _),
    ⟨hdone.count, hdone.head, hdone.synced, hdone.signalled, hdone.held⟩,
    .inr ⟨le_refl _, by simp [isQuiet]⟩⟩

theorem Ordered.l1Head {block : BlockInfo} (horderly : system.orderly (.l1Head block) = true) :
    (system.send (.processL1HeadUpdate block)).Ordered := by
  refine hordered.sends ⟨rfl, rfl, rfl, rfl, rfl, le_refl _, fun _ => id, fun _ => id⟩ ?_
    hordered.sent hordered.holds
  intro final hdone _
  have hquiet : ∀ message ∈ [processL1HeadUpdate block], message.isQuiet = true := by simp [isQuiet]
  by_cases hpasses : final.awaits = .sync ∨ final.awaits = .confirmation
  · exact ⟨final, .cons (.l1Head _ _ block hpasses) (.nil _),
      ⟨hdone.count, hdone.head, hdone.synced, hdone.signalled, hdone.held⟩,
      .inr ⟨le_refl _, hquiet⟩⟩
  · obtain ⟨hsync, hconfirmation⟩ := not_or.mp hpasses
    have hclosed : system.pairOpen = false :=
      (of_decide_eq_true horderly).resolve_left fun h => hsync (hdone.synced.mp h)
    have hderives : final.awaits = .l1Data ∨ final.awaits = .update := by
      cases hawaits : final.awaits <;> simp_all
    have hheld := hdone.held hclosed
    refine ⟨_, .cons (.l1HeadDerives block hderives hheld) (.nil _), ⟨hdone.count,
      hdone.head, ?_, fun hopen => ?_, fun _ => hheld⟩, .inr ⟨le_refl _, hquiet⟩⟩
    · exact ⟨fun h => absurd (hdone.synced.mp h) hsync, nofun⟩
    · exact nomatch hclosed.symm.trans hopen

/-- A signal, with the safe head that the engine holds then. -/
theorem Ordered.signals (signal : Signal) (safeHead : L2BlockInfo) :
    ((system.sendSignal signal).hold safeHead).Ordered := by
  have hheld : (system.signalsSent + 1, safeHead) ∈
      system.held ++ [(system.signalsSent + 1, safeHead)] := mem_append_right _ mem_cons_self
  refine hordered.sends ⟨rfl, rfl, rfl, rfl, rfl, Nat.le_succ _,
    fun _ => mem_append_left _, fun _ => id⟩ ?_ nofun hheld
  intro final hdone _
  refine ⟨_, .cons (.signal _ _ _ signal) (.nil _), ⟨?_, hdone.head, ?_, fun _ => ?_,
    fun hclosed => ?_⟩, .inl ?_⟩
  · exact congrArg Nat.succ hdone.count
  · refine Iff.trans hdone.synced ?_
    cases final.awaits <;> simp [Awaiting.signalled]
  · cases final.awaits <;> simp [Awaiting.signalled]
  · have hsame : safeHead = system.engine.lastSafeHeadSent := by
      simpa [pairOpen, hold, sendSignal] using hclosed
    rw [hdone.count, hdone.head, ← hsame]
    exact ⟨_, le_refl _, hheld⟩
  · refine countP_eq_zero.mpr fun entry hmem hfresh => ?_
    have hle := (hordered.tags entry hmem).trans hordered.handled
    exact absurd ((of_decide_eq_true hfresh).1.symm.trans_le hle) (Nat.not_succ_le_self _)

variable {safeHead : L2BlockInfo}

/-- The safe head goes out to an actor that awaits it. -/
theorem Ordered.publishes (hinbox : inbox.Sublist system.inbox)
    (hheld : ∀ entry ∈ system.held, entry ∈ held)
    (hholds : (system.signalsSent, safeHead) ∈ held)
    (hawaits : ∀ final, system.Settles final →
      system.freshCount = 0 ∨ system.freshCount = 1 ∧ final.awaits = .confirmation →
      final.awaits = .sync ∨ final.awaits = .update ∨ final.awaits = .confirmation ∧
        freshCount { system with inbox } = 0) :
    Ordered { system.send (.processEngineSafeHeadUpdate safeHead) with
      inbox, held,
      engine := { system.engine with
        safeHead, lastSafeHeadSent := safeHead, signalling := false } } := by
  refine hordered.sends ⟨rfl, rfl, rfl, rfl, rfl, le_refl _, hheld,
    fun _ => hinbox.mem⟩ ?_ (fun _ => rfl) hholds
  intro final hdone hfresh
  have hcount : final.count ≤ system.signalsSent := hdone.count.le
  have hzero : final.awaits ≠ .confirmation → freshCount { system with inbox } = 0 := by
    intro hother
    have hnone := hfresh.resolve_right fun h => hother h.2
    exact Nat.le_zero.mp (hinbox.countP_le.trans_eq hnone)
  rcases hawaits final hdone hfresh with hsync | hderives
  · obtain ⟨awaits, count, head⟩ := final
    cases hsync
    exact ⟨_, .cons (.safeHead count head safeHead) (.nil _), ⟨hdone.count, rfl,
      hdone.synced, nofun, fun _ => ⟨_, hcount, hholds⟩⟩, .inl (hzero nofun)⟩
  · have hnotSync : final.awaits ≠ .sync := by
      rcases hderives with h | ⟨h, -⟩ <;> simp [h]
    refine ⟨_, .cons (.safeHeadDerives _ (hderives.symm.imp_left And.left)
      ⟨_, hcount, hholds⟩) (.nil _), ⟨hdone.count, rfl, ?_, nofun,
      fun _ => ⟨_, hcount, hholds⟩⟩, .inl ?_⟩
    · exact ⟨fun h => absurd (hdone.synced.mp h) hnotSync, nofun⟩
    · rcases hderives with hupdate | ⟨-, hnone⟩
      · exact hzero (by simp [hupdate])
      · exact hnone

theorem Ordered.completes (hidle : system.engine.signalling = false)
    (hincomplete : system.engine.elSyncComplete = false) :
    Ordered { system.send (.processEngineSyncCompletion system.engine.safeHead) with
      engine := { system.engine with elSyncComplete := true } } := by
  refine hordered.sends ⟨rfl, rfl, rfl, rfl, rfl, le_refl _, fun _ => id, fun _ => id⟩ ?_
    hordered.sent hordered.holds
  rintro ⟨awaits, count, head⟩ hdone hfresh
  obtain rfl : awaits = .sync := hdone.synced.mp hincomplete
  have hheld : system.Held count system.engine.safeHead := ⟨_, hdone.count.le, hordered.holds⟩
  refine ⟨_, .cons (.syncCompleted head hheld) (.nil _), ⟨hdone.count,
    hordered.sent hidle, ⟨nofun, nofun⟩, fun hopen => ?_, fun _ => hheld⟩,
    .inl (hfresh.resolve_right nofun)⟩
  simp [pairOpen, hidle] at hopen

theorem Ordered.drains {takes : Option Nat} (hidle : system.engine.signalling = false)
    (horderly : system.orderly (.drain safeHead takes) = true) :
    ((system.take takes).hold safeHead).sendDerivationActorSafeHeadIfUpdated.Ordered := by
  obtain ⟨inbox, hinbox, htake⟩ := take_eq takes
  have hlast := hordered.sent hidle
  rw [htake]
  unfold sendDerivationActorSafeHeadIfUpdated
  split
  · rename_i hsame
    exact hordered.keeps hinbox (fun _ => mem_append_left _) (hsame.trans hlast.symm)
      rfl rfl (.inl rfl)
  · rename_i hchanged
    have hholds : (system.signalsSent, safeHead) ∈
        system.held ++ [(system.signalsSent, safeHead)] := mem_append_right _ mem_cons_self
    have hpublished := hordered.publishes hinbox (fun _ => mem_append_left _) hholds ?_
    · rw [← hidle] at hpublished
      exact hpublished
    · intro final hdone hfresh
      rcases of_decide_eq_true horderly with hsync | hsame | hattributes
      · exact .inl (hdone.synced.mp hsync)
      · exact absurd (hsame.trans hlast) hchanged
      · have hcount := freshCount_take hattributes
        rw [htake] at hcount
        obtain ⟨hone, hconfirmation⟩ := hfresh.resolve_left (by omega)
        exact .inr (.inr ⟨hconfirmation, by omega⟩)

theorem Ordered.ends (hpair : system.engine.signalling = true) :
    Ordered { system.sendDerivationActorSafeHeadIfUpdated with
      engine := { system.sendDerivationActorSafeHeadIfUpdated.engine with
        signalling := false } } := by
  unfold sendDerivationActorSafeHeadIfUpdated
  split
  · rename_i hsame
    exact hordered.keeps (.refl _) (fun _ => id) rfl rfl rfl (.inr hsame)
  · rename_i hchanged
    refine hordered.publishes (.refl _) (fun _ => id) hordered.holds ?_
    intro final hdone _
    have hopen : system.pairOpen = true := decide_eq_true ⟨hpair, hchanged⟩
    exact (hdone.signalled hopen).symm.imp_right .inl

variable {rest : List DerivationActorRequest}

/-- What is left to show of a step of the actor, whose mailbox now holds the rest. -/
theorem Ordered.acts {next : Expectation} {handling : Handling}
    (hle : system.signalsHandled ≤ next.count)
    (hwalk : QueueWalk (Expects system.Held) next rest final)
    (hdone : system.Settles final) (hreacts : Reacts system.Held next handling)
    (hfresh : system.freshCount = 0 ∨ system.freshCount = 1 ∧
      next.awaits = .confirmation ∧ ∀ request ∈ rest, request.isQuiet = true) :
    (record { system with mailbox := rest, signalsHandled := next.count } handling).Ordered := by
  obtain ⟨actor, effects, status⟩ := handling
  have hcount : next.count ≤ system.signalsSent := by
    rw [← hdone.count]
    exact hwalk.keeps (motive := (next.count ≤ ·.count))
      (fun hstep hle => hle.trans hstep.count_le) (le_refl _)
  have htagged : (tagged next.count (effects.filter isRequest)).countP
      (fun entry => entry.1 = system.signalsSent ∧ entry.2.isAttributes = true) ≤
        if next.count = system.signalsSent then effects.countP isAttributes
        else 0 := by
    unfold tagged
    rw [countP_map, countP_filter]
    split
    · exact countP_mono_left fun effect _ hfresh => by simp_all
    · exact (countP_eq_zero.mpr fun effect _ hfresh => by simp_all).le
  refine ⟨hreacts.valid, hreacts.resting, hreacts.waiting, ?_, hordered.sent,
    hordered.holds, hcount, ?_, ?_, ?_⟩
  · intro halive
    obtain ⟨last, hlast, hcovers⟩ :=
      hwalk.simulates (fun hcovers => hcovers.expects) (hreacts.covers halive)
    refine ⟨last, hlast, ?_⟩
    cases hcovers with
    | refl => exact ⟨hdone.count, hdone.head, hdone.synced, hdone.signalled, hdone.held⟩
    | confirmation =>
      refine ⟨hdone.count, hdone.head, ?_, fun hopen => ?_, hdone.held⟩
      · exact ⟨fun h => (nomatch hdone.synced.mp h), nofun⟩
      · rcases hdone.signalled hopen with h | h <;> cases h
  · refine forall_mem_append.mpr ⟨fun entry hmem => ?_, ?_⟩
    · exact (hordered.tags entry hmem).trans hle
    · simp only [tagged, mem_map]
      rintro _ ⟨effect, -, rfl⟩
      exact le_refl _
  · intro halive
    have hafter : (record { system with mailbox := rest, signalsHandled := next.count }
        (actor, effects, status)).freshCount ≤ system.freshCount +
          if next.count = system.signalsSent then effects.countP isAttributes
          else 0 := (countP_append ..).trans_le (Nat.add_le_add_left htagged _)
    rcases hreacts.attributes with hnone | ⟨hsingle, -, hstate, hl1Data⟩
    · rw [hnone, ite_self] at hafter
      rcases hfresh with hzero | ⟨hone, hconfirmation, hquiet⟩
      · exact .inl (Nat.le_zero.mp (hafter.trans_eq hzero))
      · refine (Nat.le_one_iff_eq_zero_or_eq_one.mp (hafter.trans_eq hone)).imp_right ?_
        exact fun hone => ⟨hone, DerivationState.awaits_confirmation
          ((hreacts.covers halive).confirmation_of hconfirmation), hquiet⟩
    · have hzero := hfresh.resolve_right fun h => nomatch h.2.1.symm.trans hl1Data
      rw [hzero, hsingle] at hafter
      split at hafter
      · rename_i hlatest
        refine (Nat.le_one_iff_eq_zero_or_eq_one.mp hafter).imp_right ?_
        exact fun hone => ⟨hone, hstate, quiet_of_walk hwalk hl1Data
          (hdone.count.trans hlatest.symm).le⟩
      · exact .inl (Nat.le_zero.mp hafter)
  · refine forall_mem_append.mpr ⟨hordered.parents, ?_⟩
    simp only [tagged, mem_map]
    rintro _ ⟨effect, hmem, rfl⟩
    exact hreacts.parents effect hmem

theorem Ordered.handles {request : DerivationActorRequest}
    (hdone : system.status = .done) (hmailbox : system.mailbox = request :: rest)
    (answers : List PipelineAnswer) :
    ((system.receive request rest).record
      (system.actor.handleDerivationActorRequest answers request)).Ordered := by
  obtain ⟨final, hwalk, hsettled⟩ := hordered.delivered (.inl hdone)
  rw [hmailbox] at hwalk
  cases hwalk with
  | @cons _ next _ _ _ hexpects hwalk =>
    have hreacts := hexpects.reacts answers (hordered.resting hdone)
    have hcount : next.count = system.signalsHandled + request.signals := hexpects.count_eq
    unfold receive
    rw [← hcount]
    refine hordered.acts hexpects.count_le hwalk hsettled hreacts ?_
    refine (hordered.fresh (.inl hdone)).imp_right fun ⟨hone, hstate, hquiet⟩ => ?_
    rw [hmailbox] at hquiet
    obtain ⟨hfirst, hrest⟩ := forall_mem_cons.mp hquiet
    have hbefore : system.expectation.awaits = .confirmation := by
      rw [expectation, hstate]
      rfl
    exact ⟨hone, (congrArg _ (hexpects.quiet hbefore hfirst)).trans hbefore, hrest⟩

theorem Ordered.answers (hreset : system.status = .awaitingReset) (answer : Except Unit Unit) :
    (system.record (system.actor.resumeAfterReset answer)).Ordered := by
  obtain ⟨final, hwalk, hdone⟩ := hordered.delivered (.inr hreset)
  have hderiving := hordered.waiting hreset
  refine hordered.acts (le_refl _) hwalk hdone ?_ ?_
  · cases answer with
    | error => exact ⟨nofun, nofun, nofun, nofun, nofun, .inl rfl⟩
    | ok =>
      unfold expectation
      generalize system.actor = actor at hderiving
      obtain ⟨⟨confirmed, state⟩, finalizer, safeHeads, pendingDerivedFrom⟩ := actor
      cases hderiving
      exact reacts_done nofun (.refl _)
  · refine .inl ((hordered.fresh (.inr hreset)).resolve_right fun h => ?_)
    exact nomatch hderiving.symm.trans h.2.1

theorem Ordered.performs {action : SystemAction} (horderly : system.orderly action = true)
    (hperf : system.perform action = some after) : after.Ordered := by
  cases action with
  | drain =>
    obtain ⟨hidle, hperf⟩ := Option.ite_none_left_eq_some.mp hperf
    cases hperf
    exact hordered.drains (Bool.eq_false_iff.mpr (not_or.mp hidle).1) horderly
  | reset signalHead safeHead takes =>
    obtain ⟨-, hperf⟩ := Option.ite_none_left_eq_some.mp hperf
    cases hperf
    obtain ⟨inbox, hinbox, htake⟩ := take_eq takes
    rw [htake]
    refine Ordered.signals ?_ _ safeHead
    exact hordered.keeps hinbox (fun _ => id) rfl rfl rfl (.inl rfl)
  | flush safeHead takes =>
    obtain ⟨-, hperf⟩ := Option.ite_none_left_eq_some.mp hperf
    cases hperf
    obtain ⟨inbox, hinbox, htake⟩ := take_eq takes
    rw [htake]
    exact (hordered.keeps hinbox (fun _ => id) rfl rfl rfl (.inl rfl)).signals _ safeHead
  | sendSafeHead =>
    obtain ⟨hpair, hperf⟩ := Option.ite_none_right_eq_some.mp hperf
    cases hperf
    exact hordered.ends hpair
  | refuseReset =>
    obtain ⟨-, hperf⟩ := Option.ite_none_right_eq_some.mp hperf
    cases hperf
    exact hordered.keeps (eraseIdx_sublist _ _) (fun _ => id) rfl rfl rfl (.inl rfl)
  | answerReset =>
    unfold perform at hperf
    dsimp only at hperf
    split at hperf
    · rename_i answer _ _ hreset
      cases hperf
      have hanswered : Ordered { system with
          engine := { system.engine with resetAnswer := none } } :=
        hordered.keeps (.refl _) (fun _ => id) rfl rfl rfl (.inl rfl)
      exact hanswered.answers hreset answer
    · cases hperf
  | completeSync =>
    obtain ⟨hidle, hperf⟩ := Option.ite_none_left_eq_some.mp hperf
    cases hperf
    obtain ⟨hsignalling, hfull⟩ := not_or.mp hidle
    exact hordered.completes (Bool.eq_false_iff.mpr hsignalling) (Bool.eq_false_iff.mpr hfull)
  | l1Head =>
    cases hperf
    exact hordered.l1Head horderly
  | l1Finalized block =>
    cases hperf
    exact hordered.l1Finalized block
  | handle answers =>
    unfold perform at hperf
    dsimp only at hperf
    split at hperf
    · rename_i request rest hdone hmailbox
      cases hperf
      exact hordered.handles hdone hmailbox answers
    · cases hperf

end Senders

theorem Ordered.runs {actions : List SystemAction} (hordered : system.Ordered)
    (horderly : system.orderlyRun actions = true) (hrun : system.run actions = some after) :
    after.Ordered := by
  induction actions generalizing system with
  | nil =>
    cases hrun
    exact hordered
  | cons action rest ih =>
    obtain ⟨next, hperf, hrest⟩ := Option.bind_eq_some_iff.mp hrun
    obtain ⟨hfirst, hlater⟩ := Bool.and_eq_true_iff.mp horderly
    rw [hperf] at hlater
    exact ih (hordered.performs hfirst hperf) hlater hrest

/-- As long as the messages come in order, the actor makes no invalid transition, and after
a signal it steps the pipeline and sends attributes on a safe head only that the engine held
when it sent this signal or later. -/
theorem derives_on_held_safe_head {actions : List SystemAction} {system : DerivationSystem}
    (hrun : start.run actions = some system) (horderly : start.orderlyRun actions = true) :
    (∀ error, system.status ≠ .failed (.stateTransition error)) ∧
      ∀ count effect parent, (count, effect) ∈ system.emitted →
        effect.parent = some parent → system.Held count parent := by
  have hordered := ordered_start.runs horderly hrun
  refine ⟨hordered.valid, fun count effect parent hmem hparent => ?_⟩
  exact hordered.parents (count, effect) hmem parent hparent

def numbered (number : Nat) : L2BlockInfo :=
  { (default : L2BlockInfo) with
    blockInfo := { (default : L2BlockInfo).blockInfo with number } }

/-- The source of data is exhausted at once. -/
def yielding : PipelineAnswer := ⟨.stepFailed (.temporary false), none, .ok (), none⟩

/-- The engine syncs to block 5 and is then reset to block 3. -/
def resetActions (between : List SystemAction) : List SystemAction :=
  [.drain (numbered 5) none, .completeSync, .handle [], .handle [yielding],
    .reset (numbered 3) (numbered 3) none] ++ between ++
    [.sendSafeHead, .handle [], .handle [yielding]]

theorem derives_on_reset_head : ∃ system,
    start.run (resetActions []) = some system ∧
      (∀ error, system.status ≠ .failed (.stateTransition error)) ∧
      ∀ count effect parent, (count, effect) ∈ system.emitted →
        effect.parent = some parent → system.Held count parent :=
  ⟨_, rfl, @derives_on_held_safe_head (resetActions []) _ rfl (by decide +kernel)⟩

/-- An L1 head between the signal and the safe head makes the actor derive on the head from
before the reset, and then the safe head ends it. -/
theorem l1Head_between_ends_actor : ∃ system,
    start.run (resetActions [.l1Head default] ++ [.handle []]) = some system ∧
      system.status = .failed (.stateTransition
        ⟨.awaitingL1Data, .newAttributesConfirmed (numbered 3)⟩) ∧
      (1, .stepped (numbered 5)) ∈ system.emitted ∧
      ¬ system.Held 1 (numbered 5) := by
  refine ⟨_, rfl, by decide +kernel, by decide +kernel, ?_⟩
  rintro ⟨later, hle, hmem⟩
  have hothers : ∀ entry ∈ [(0, default), (0, numbered 5), (1, numbered 3)],
      1 ≤ entry.1 → entry.2 ≠ numbered 5 := by decide +kernel
  exact hothers _ hmem hle rfl

end DerivationSystem

end ConsensusNode

end BaseChain
