/-
The lease ledger along whole runs of the encoder, with step errors included:
what every operation can do to the egress, and what follows for artifacts that
have landed and for submissions that are no longer live.
-/
import BaseChain.LeaseLedger

namespace BaseChain

open List DaEgress DaArtifacts DaEgress.Ledger List.Subset

/-- What the operations can do to the egress and to the counter of
submissions. -/
inductive LedgerMove : DaEgress × SubmissionId → DaEgress × SubmissionId → Prop
  | push (egress : DaEgress) (nextId : SubmissionId)
      (payload : DaArtifactPayload) (channelIds : List ChannelId) :
      LedgerMove (egress, nextId)
        ({ egress with
            artifacts := egress.artifacts.push payload channelIds }, nextId)
  | lease (egress : DaEgress) (nextId : SubmissionId) (maxBlobs : Nat)
      (submission : BatchSubmission) (artifactIds : List ArtifactId)
      (artifacts : DaArtifacts)
      (hlease : egress.artifacts.lease nextId maxBlobs =
        some ((submission, artifactIds), artifacts)) :
      LedgerMove (egress, nextId)
        ({ artifacts := artifacts
           pending := DaEgress.insertPending egress.pending nextId artifactIds },
          nextId + 1)
  | confirm (egress : DaEgress) (nextId id : SubmissionId) :
      LedgerMove (egress, nextId) ((egress.confirm id).2, nextId)
  | requeue (egress : DaEgress) (nextId id : SubmissionId) :
      LedgerMove (egress, nextId) (egress.requeue id, nextId)
  | prune (egress : DaEgress) (nextId : SubmissionId)
      (channelIds : List ChannelId) :
      LedgerMove (egress, nextId) (egress.pruneChannels channelIds, nextId)
  | invalidate (egress : DaEgress) (nextId : SubmissionId)
      (affected : List ArtifactId)
      (hwhole : ∀ entry ∈ egress.pending, (∃ id ∈ entry.2, id ∈ affected) → entry.2 ⊆ affected) :
      LedgerMove (egress, nextId) (egress.invalidateArtifacts affected, nextId)
  | reset (egress : DaEgress) (nextId : SubmissionId) :
      LedgerMove (egress, nextId) (egress.reset, nextId)

/-- Any sequence of moves of the ledger. -/
abbrev LedgerMoves : DaEgress × SubmissionId → DaEgress × SubmissionId → Prop :=
  Relation.ReflTransGen LedgerMove

/-- The ledger holds of an egress and its counter. -/
def Balanced (state : DaEgress × SubmissionId) : Prop := state.1.Ledger state.2

/-- An artifact id that has landed: nothing with this id is in another
state, and the id is not given out again. -/
def Landed (id : ArtifactId) (state : DaEgress × SubmissionId) : Prop :=
  id < state.1.artifacts.nextId ∧ ∀ artifact ∈ state.1.artifacts.artifacts,
      artifact.id = id → artifact.state = .confirmed

/-- A submission id that was given out and is no longer live. -/
def Retired (id : SubmissionId) (state : DaEgress × SubmissionId) : Prop :=
  id < state.2 ∧ id ∉ state.1.live

variable {after before : DaEgress × SubmissionId}

theorem Balanced.move (hbalanced : Balanced before) (hmove : LedgerMove before after) :
    Balanced after := by
  cases hmove with
  | push => exact push hbalanced _ _
  | lease _ _ _ _ _ _ hlease =>
    exact lease hbalanced hlease
  | confirm =>
    rw [confirm_eq_settle]
    exact hbalanced.settle (by simp) _
  | requeue =>
    rw [requeue_eq_settle]
    exact hbalanced.settle (by simp) _
  | prune => exact pruneChannels hbalanced _
  | invalidate _ _ _ hwhole => exact invalidateArtifacts hbalanced hwhole
  | reset egress => exact egress.reset_ledger _

namespace DaEgress

variable (egress : DaEgress) (id : SubmissionId)

theorem filter_live_of_none (hnone : egress.removePending id = none) :
    egress.live.filter (· ≠ id) = egress.live := by
  refine filter_eq_self.mpr fun key hkey => ?_
  have hother : key ≠ id := by
    rintro rfl
    exact removePending_eq_none.mp hnone hkey
  simpa using hother

theorem live_removed (artifacts : DaArtifacts) : live
      { artifacts := artifacts
        pending := egress.pending.filter (·.1 ≠ id) } =
      egress.live.filter (· ≠ id) := by
  rw [live, live, filter_map]
  rfl

theorem live_settle (state : ArtifactState) :
    (egress.settle id state).live = egress.live.filter (· ≠ id) := by
  unfold DaEgress.settle
  split
  · rename_i hnone
    exact (egress.filter_live_of_none id hnone).symm
  · rename_i artifactIds rest hremove
    obtain ⟨-, rfl⟩ := removePending_eq_some hremove
    split
    · exact egress.live_removed id _
    · exact egress.live_removed id _

end DaEgress

theorem Retired.move {id : SubmissionId} (hretired : Retired id before)
    (hmove : LedgerMove before after) : Retired id after := by
  obtain ⟨hlt, hdead⟩ := hretired
  cases hmove with
  | push => exact ⟨hlt, hdead⟩
  | lease =>
    refine ⟨Nat.lt_succ_of_lt hlt, fun hlive => ?_⟩
    simp only [live, insertPending, map_append, map_singleton, mem_append, mem_singleton] at hlive
    rcases hlive with hlive | rfl
    · exact hdead ((filter_sublist.map _).subset hlive)
    · exact lt_irrefl _ hlt
  | confirm =>
    refine ⟨hlt, fun hlive => ?_⟩
    rw [confirm_eq_settle, live_settle] at hlive
    exact hdead (filter_sublist.subset hlive)
  | requeue =>
    refine ⟨hlt, fun hlive => ?_⟩
    rw [requeue_eq_settle, live_settle] at hlive
    exact hdead (filter_sublist.subset hlive)
  | prune =>
    refine ⟨hlt, fun hlive => ?_⟩
    have hkept := (filter_sublist.map _).subset hlive
    rw [map_map] at hkept
    exact hdead hkept
  | invalidate => exact ⟨hlt, fun hlive => hdead ((filter_sublist.map _).subset hlive)⟩
  | reset => exact ⟨hlt, not_mem_nil⟩

variable {id : ArtifactId}

/-- Setting the state of artifacts none of which has landed. -/
theorem Landed.setState {egress : DaEgress} {nextId nextId' : SubmissionId}
    (hlanded : Landed id (egress, nextId)) {artifactIds : List ArtifactId}
    {state : ArtifactState}
    (hother : ∀ artifact ∈ egress.artifacts.artifacts, artifact.id ∈ artifactIds →
      artifact.state ≠ .confirmed)
    (pending : List (SubmissionId × List ArtifactId)) :
    Landed id
      ({ artifacts := egress.artifacts.setState artifactIds state
         pending := pending }, nextId') := by
  refine ⟨hlanded.1, fun artifact hitem hid => ?_⟩
  obtain ⟨original, horig, hsame, hstate⟩ := mem_setState hitem
  have hconfirmed := hlanded.2 original horig (hsame.symm.trans hid)
  rw [hstate]
  split
  · rename_i hmem
    exact absurd hconfirmed (hother original horig hmem)
  · exact hconfirmed

/-- What a submission still waits for has not landed. -/
theorem Landed.settle {egress : DaEgress} {nextId : SubmissionId}
    (hbalanced : Balanced (egress, nextId)) (hlanded : Landed id (egress, nextId))
    (submissionId : SubmissionId) (state : ArtifactState) :
    Landed id (egress.settle submissionId state, nextId) := by
  unfold DaEgress.settle
  split
  · exact hlanded
  rename_i artifactIds rest hremove
  obtain ⟨hentry, rfl⟩ := removePending_eq_some hremove
  rw [if_pos (hbalanced.allPending hentry)]
  refine hlanded.setState (fun artifact hitem hmem => ?_) _
  rw [(hbalanced.pending_iff artifact hitem).mpr (mem_flatMap.mpr ⟨_, hentry, hmem⟩)]
  simp

theorem Landed.move (hbalanced : Balanced before) (hlanded : Landed id before)
    (hmove : LedgerMove before after) :
    Landed id after := by
  cases hmove with
  | push egress nextId =>
    refine ⟨Nat.lt_succ_of_lt hlanded.1, fun artifact hitem hid => ?_⟩
    rcases mem_append.mp hitem with hold | hnew
    · exact hlanded.2 artifact hold hid
    · have hfresh : artifact.id = egress.artifacts.nextId :=
        congrArg DaArtifact.id (mem_singleton.mp hnew)
      exact absurd hlanded.1 (by simp [← hid, hfresh])
  | lease _ _ _ _ _ _ hlease =>
    obtain ⟨leased, hsublist, hready, rfl, rfl⟩ := lease_eq_some hbalanced.ids_nodup hlease
    refine hlanded.setState (fun artifact hitem hmem => ?_) _
    obtain ⟨other, hother, hid⟩ := mem_map.mp hmem
    obtain rfl := hbalanced.eq_of_id (hsublist.subset hother) hitem hid
    rw [hready other hother]
    simp
  | confirm =>
    rw [confirm_eq_settle]
    exact Landed.settle hbalanced hlanded _ _
  | requeue => exact Landed.settle hbalanced hlanded _ .ready
  | prune =>
    refine ⟨hlanded.1, fun artifact hitem hid => ?_⟩
    obtain ⟨original, horig, rfl⟩ := mem_map.mp (mem_filter.mp hitem).1
    exact hlanded.2 original horig hid
  | invalidate =>
    exact ⟨hlanded.1, fun artifact hitem => hlanded.2 artifact (mem_filter.mp hitem).1⟩
  | reset => exact ⟨hlanded.1, fun artifact hitem => by cases hitem⟩

/-- What moves keep in a balanced ledger holds after any sequence of them. -/
theorem LedgerMoves.invariant {P : DaEgress × SubmissionId → Prop}
    (hmove : ∀ before after, Balanced before → P before →
      LedgerMove before after → P after) (hmoves : LedgerMoves before after)
    (hbalanced : Balanced before) (hbefore : P before) : Balanced after ∧ P after := by
  induction hmoves with
  | refl => exact ⟨hbalanced, hbefore⟩
  | tail _ hlast ih => exact ⟨ih.1.move hlast, hmove _ _ ih.1 ih.2 hlast⟩

namespace BatchEncoder

variable {externals : BatcherExternals}

/-- The part of the encoder that the ledger is about. -/
def ledger (encoder : BatchEncoder externals) : DaEgress × SubmissionId :=
  (encoder.egress, encoder.nextId)

variable {after before : BatchEncoder externals}

theorem Move.ledgerMoves (hmove : Move before after) : LedgerMoves before.ledger after.ledger := by
  cases hmove with
  | retune | extend | accept | acceptFresh | close | release => exact .refl
  | commitBlob _ egress _ _ hcommit =>
    obtain ⟨frames, -, rfl⟩ := commitBlob_eq_some hcommit
    exact .single (.push before.egress before.nextId _ _)
  | commitCalldata _ egress _ _ hcommit =>
    obtain ⟨frame, -, rfl⟩ := commitCalldata_eq_some hcommit
    exact .single (.push before.egress before.nextId _ _)
  | lease submission artifactIds artifacts hlease =>
    exact .single (.lease before.egress before.nextId _ submission artifactIds artifacts hlease)
  | confirm id l1Block =>
    obtain ⟨channels, hconfirm, -⟩ := before.confirm_eq id l1Block
    rw [hconfirm]
    exact .single (.confirm before.egress before.nextId id)
  | requeue id => exact .single (.requeue before.egress before.nextId id)
  | invalidate _ hidx =>
    obtain ⟨affected, front, first, back, hclosed, -, -, -, hreplay⟩ := invalidateChannel_eq hidx
    rw [hreplay]
    exact .single (.invalidate before.egress before.nextId _ hclosed.submissions)
  | prune =>
    rw [pruneBlocks_eq, ledger, ledger]
    dsimp only
    split
    · exact .single (.prune before.egress before.nextId _)
    · exact .refl
  | adoptTip => exact .refl
  | reset => exact .single (.reset before.egress before.nextId)

theorem Moves.ledgerMoves (hmoves : Moves before after) :
    LedgerMoves before.ledger after.ledger := by
  induction hmoves with
  | refl => exact .refl
  | tail _ hlast ih => exact ih.trans hlast.ledgerMoves

section Frames

variable (encoder : BatchEncoder externals)

theorem closeCurrentChannel_ledger : encoder.closeCurrentChannel.2.ledger = encoder.ledger := by
  unfold closeCurrentChannel
  split
  · rfl
  split
  · rfl
  · rfl

theorem checkChannelTimeout_ledger : encoder.checkChannelTimeout.2.ledger = encoder.ledger := by
  have hclose := encoder.closeCurrentChannel_ledger
  unfold checkChannelTimeout
  dsimp only
  split
  · exact hclose
  · rfl

variable {after : BatchEncoder externals}

variable {result : Except StepError StepResult}

theorem stepBatch_ledger {batch : SingleBatch} {daBacklogBytes : Nat}
    (hstep : encoder.stepBatch batch daBacklogBytes = some (result, after)) :
    after.ledger = encoder.ledger := by
  unfold stepBatch at hstep
  split at hstep
  · cases hstep
  dsimp only at hstep
  split at hstep
  · cases hstep
    rfl
  · cases hstep
    rfl
  · cases hstep
    exact closeCurrentChannel_ledger _
  · split at hstep
    · cases hstep
      rfl
    · cases hstep
      exact closeCurrentChannel_ledger _

/-- A step never touches the egress, whatever it returns. -/
theorem step_ledger (hstep : encoder.step = some (result, after)) :
    after.ledger = encoder.ledger := by
  have htimeout := encoder.checkChannelTimeout_ledger
  unfold step at hstep
  split at hstep
  · cases hstep
    rfl
  split at hstep
  · rename_i hcheck
    rw [hcheck] at htimeout
    cases hstep
    exact htimeout
  · rename_i hcheck
    rw [hcheck] at htimeout
    cases hstep
    exact htimeout
  · rename_i hcheck
    rw [hcheck] at htimeout
    refine Eq.trans ?_ htimeout
    unfold stepBlock at hstep
    split at hstep
    · cases hstep
      rfl
    split at hstep
    · cases hstep
      rfl
    obtain ⟨opened, hopened, hstep⟩ := Option.bind_eq_some_iff.mp hstep
    rw [stepBatch_ledger _ hstep]
    unfold ensureOpenChannel at hopened
    split at hopened
    · cases hopened
      rfl
    · obtain ⟨channel, -, rfl⟩ := openNewChannel_eq_some _ hopened
      rfl

theorem invalidateExpiredChannels_pending : encoder.invalidateExpiredChannels.egress.pending ⊆
      encoder.egress.pending := by
  unfold invalidateExpiredChannels
  dsimp only
  split
  · exact refl _
  · rename_i channelIdx hexpired
    obtain ⟨hidx, -, -⟩ := findIdx?_eq_some_iff_getElem.mp hexpired
    obtain ⟨affected, front, first, back, -, -, -, -, hreplay⟩ := invalidateChannel_eq hidx
    rw [hreplay]
    exact filter_sublist.subset

theorem deferStepError_ledger (error : StepError) :
    (encoder.deferStepError error).ledger = encoder.ledger := by
  unfold deferStepError
  split
  · rfl
  · rfl

/-- A replay drops live submissions whole. -/
theorem advanceL1Head_pending (l1Block : Nat) : (encoder.advanceL1Head l1Block).egress.pending ⊆
      encoder.egress.pending := by
  by_cases hadvanced : l1Block > encoder.l1Head
  · simp only [advanceL1Head, hadvanced, if_true]
    split
    · exact refl _
    · refine List.Subset.trans (invalidateExpiredChannels_pending _) ?_
      have htimeout := checkChannelTimeout_ledger { encoder with l1Head := l1Block }
      split
      · rename_i error after hcheck
        rw [hcheck] at htimeout
        have hsame := (after.deferStepError_ledger error).trans htimeout
        have hpend : (after.deferStepError error).egress.pending =
            encoder.egress.pending := congrArg (·.1.pending) hsame
        rw [hpend]
        exact refl _
      · rename_i after hcheck
        rw [hcheck] at htimeout
        have hpend : after.egress.pending = encoder.egress.pending :=
          congrArg (·.1.pending) htimeout
        rw [hpend]
        exact refl _
  · simp only [advanceL1Head, hadvanced, if_false]
    split
    · exact refl _
    · exact encoder.invalidateExpiredChannels_pending

end Frames

theorem Transition.ledgerMoves (hstep : Transition before after) :
    LedgerMoves before.ledger after.ledger := by
  obtain ⟨op, error, hop⟩ := hstep
  cases error with
  | none => exact (Steps.moves ⟨op, hop⟩).ledgerMoves
  | some =>
    -- only composing and flushing can fail
    cases op with
    | step =>
      obtain ⟨⟨result, stepped⟩, hsome, hpair⟩ := Option.map_eq_some_iff.mp hop
      obtain ⟨-, rfl⟩ := Prod.mk.inj hpair
      rw [before.step_ledger hsome]
    | flush =>
      obtain ⟨-, rfl⟩ := Prod.mk.inj (Option.some.inj hop)
      exact before.flushChannels_moves.ledgerMoves
    | nextSubmission =>
      obtain ⟨pair, -, hpair⟩ := Option.map_eq_some_iff.mp hop
      cases hpair
    | addBlock | confirm | requeue | advanceL1Head | reset | reconcileDerivation
    | setBlobOverride => cases hop

theorem Traces.ledgerMoves (htrace : Traces before after) :
    LedgerMoves before.ledger after.ledger := by
  induction htrace with
  | refl => exact .refl
  | tail _ hlast ih => exact ih.trans hlast.ledgerMoves

variable {encoder : BatchEncoder externals}

theorem Traced.balanced (htraced : Traced encoder) : Balanced encoder.ledger := by
  obtain ⟨rollupConfig, config, rng, fresh, hnew, htrace⟩ := htraced
  have hfresh : Balanced fresh.ledger := by
    unfold new at hnew
    split at hnew
    · cases hnew
    · cases hnew
      exact DaEgress.new.reset_ledger 0
  exact (LedgerMoves.invariant (P := fun _ => True)
    (fun _ _ _ _ _ => trivial) htrace.ledgerMoves hfresh trivial).1

/-- Settling a submission that is not live has no effect at all. -/
theorem settle_of_not_live {id : SubmissionId} (hdead : id ∉ encoder.egress.live) (l1Block : Nat) :
    encoder.confirm id l1Block = encoder ∧ encoder.requeue id = encoder := by
  have hnone := removePending_eq_none.mpr hdead
  constructor
  · simp [confirm, DaEgress.confirm, hnone]
  · simp [requeue, DaEgress.requeue, hnone]

/-- The lease ledger of every reachable state, and its fate along every
further run. -/
theorem traced_leaseLedger {encoder : BatchEncoder externals}
    (htraced : Traced encoder) :
    -- pending artifacts are the leased ones, each in one entry
    (∀ artifact ∈ encoder.egress.artifacts.artifacts,
      artifact.state = .pending ↔
        ∃! entry, entry ∈ encoder.egress.pending ∧ artifact.id ∈ entry.2) ∧
      -- leased artifacts exist, and no two submissions share one
      (∀ entry ∈ encoder.egress.pending, ∀ id ∈ entry.2,
        ∃ artifact ∈ encoder.egress.artifacts.artifacts, artifact.id = id) ∧
      (encoder.egress.pending.Pairwise fun first second =>
        first.1 ≠ second.1 ∧ first.2.Disjoint second.2) ∧
      -- settling never meets a leased artifact that is not pending
      (∀ id artifactIds rest,
        encoder.egress.removePending id = some (artifactIds, rest) →
          rest.artifacts.allPending artifactIds = true) ∧
      -- settling retires an id, and a reset retires all of them
      (∀ id l1Block, id ∉ (encoder.confirm id l1Block).egress.live ∧
        id ∉ (encoder.requeue id).egress.live) ∧
      (∀ rng, (encoder.reset rng).egress.live = []) ∧
      -- a replay retires every submission that loses an artifact
      (∀ l1Block, ∀ entry ∈ encoder.egress.pending, ∀ id ∈ entry.2,
        id ∉ (encoder.advanceL1Head l1Block).egress.artifacts.artifacts.map
          (·.id) →
        entry.1 ∉ (encoder.advanceL1Head l1Block).egress.live) ∧
      -- an id that was not given out has no effect
      (∀ id l1Block, encoder.nextId ≤ id →
        encoder.confirm id l1Block = encoder ∧
          encoder.requeue id = encoder) ∧
      ∀ after, Traces encoder after →
        -- what has landed stays landed
        (∀ artifact ∈ encoder.egress.artifacts.artifacts,
          artifact.state = .confirmed →
          ∀ later ∈ after.egress.artifacts.artifacts,
            later.id = artifact.id → later.state = .confirmed) ∧
        -- an id that was given out and is not live has no effect ever after
        ∀ id l1Block, id < encoder.nextId → id ∉ encoder.egress.live →
          after.confirm id l1Block = after ∧ after.requeue id = after := by
  have hbalanced := htraced.balanced
  refine ⟨?_, ?_, ?_, ?_, ?_, fun _ => rfl, ?_, ?_, ?_⟩
  · intro artifact hartifact
    rw [hbalanced.pending_iff artifact hartifact]
    constructor
    · intro hlisted
      obtain ⟨entry, hentry, hin⟩ := List.mem_flatMap.mp hlisted
      refine ⟨entry, ⟨hentry, hin⟩, fun other hother => ?_⟩
      exact hbalanced.entry_unique hother.1 hentry hother.2 hin
    · rintro ⟨entry, ⟨hentry, hin⟩, -⟩
      exact List.mem_flatMap.mpr ⟨entry, hentry, hin⟩
  · intro entry hentry id hid
    exact hbalanced.listed_exists id (List.mem_flatMap.mpr ⟨entry, hentry, hid⟩)
  · refine List.Pairwise.and ?_ (List.nodup_flatMap.mp hbalanced.listed_nodup).2
    exact List.pairwise_map.mp hbalanced.live_nodup
  · intro id artifactIds rest hremove
    obtain ⟨hentry, rfl⟩ := DaEgress.removePending_eq_some hremove
    exact hbalanced.allPending hentry
  · intro id l1Block
    obtain ⟨channels, hconfirm, -⟩ := encoder.confirm_eq id l1Block
    rw [hconfirm, requeue, confirm_eq_settle, requeue_eq_settle, live_settle, live_settle]
    simp
  · intro l1Block entry hentry id hid hgone hlive
    have hadvanced : Balanced (encoder.advanceL1Head l1Block).ledger :=
      (LedgerMoves.invariant (P := fun _ => True) (fun _ _ _ _ _ => trivial)
        (encoder.advanceL1Head_moves l1Block).ledgerMoves hbalanced trivial).1
    obtain ⟨kept, hkept, hkey⟩ := List.mem_map.mp hlive
    have hsame : kept = entry := List.inj_on_of_nodup_map
      hbalanced.live_nodup (encoder.advanceL1Head_pending l1Block hkept) hentry hkey
    obtain ⟨artifact, hartifact, hartifactId⟩ := hadvanced.listed_exists id
      (List.mem_flatMap.mpr ⟨kept, hkept, hsame ▸ hid⟩)
    exact hgone (List.mem_map.mpr ⟨artifact, hartifact, hartifactId⟩)
  · intro id l1Block hnever
    refine settle_of_not_live (fun hlive => ?_) l1Block
    exact Nat.not_lt.mpr hnever (hbalanced.live_lt id hlive)
  · intro after htrace
    constructor
    · intro artifact hartifact hconfirmed later hlater hid
      have hlanded : Landed artifact.id encoder.ledger := by
        refine ⟨hbalanced.ids_lt artifact hartifact, fun other hother hsame => ?_⟩
        rw [hbalanced.eq_of_id hother hartifact hsame]
        exact hconfirmed
      have hafter := (LedgerMoves.invariant
        (fun _ _ hbefore hstep hmove => hstep.move hbefore hmove)
        htrace.ledgerMoves hbalanced hlanded).2
      exact hafter.2 later hlater hid
    · intro id l1Block hlt hdead
      have hafter := (LedgerMoves.invariant (P := Retired id)
        (fun _ _ _ hstep hmove => hstep.move hmove) htrace.ledgerMoves hbalanced ⟨hlt, hdead⟩).2
      exact settle_of_not_live hafter.2 l1Block

theorem traced_leaseLedger_storedRun :
    storedRun.egress.pending = [(0, [0])] ∧
      storedRun.egress.artifacts.artifacts.map (·.state) = [.pending] ∧
      storedRun.confirm 1 7 = storedRun :=
  ⟨rfl, rfl, ((traced_leaseLedger storedRun_reachable.traced).2.2.2.2.2.2.2.1 1 7 (by decide)).1⟩

end BatchEncoder

end BaseChain
