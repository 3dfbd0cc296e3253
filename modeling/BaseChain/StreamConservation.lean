/-
Stream conservation in the encoder: for every channel of the FIFO the frames in
the retained artifacts and the rest of its output spell exactly what its
compressor has emitted, in every reachable state.
-/
import BaseChain.LeaseRuns
import BaseChain.ChannelStream

namespace BaseChain

open Function List BatcherChannel DaArtifacts DaEgress Streamed

variable {β : Type}

namespace DaArtifacts

/-- All frames of the retained artifacts, in the order of their creation. -/
def frames (artifacts : List DaArtifact) : List Frame := artifacts.flatMap (·.payload.frames)

/-- An artifact holds a frame of the channel. -/
def Holds (artifact : DaArtifact) (id : ChannelId) : Prop :=
  ∃ frame ∈ artifact.payload.frames, frame.id = id

theorem framesOf_frames_filter {id : ChannelId} {artifacts : List DaArtifact}
    {keep : DaArtifact → Bool}
    (hkeep : ∀ artifact ∈ artifacts, Holds artifact id → keep artifact = true) :
    framesOf id (frames (artifacts.filter keep)) = framesOf id (frames artifacts) := by
  induction artifacts with
  | nil => rfl
  | cons artifact _ ih =>
    have hrest := ih fun other hother => hkeep other (mem_cons_of_mem _ hother)
    by_cases hkept : keep artifact = true
    · rw [filter_cons_of_pos hkept]
      simp only [frames, flatMap_cons, framesOf_append] at hrest ⊢
      rw [hrest]
    · rw [filter_cons_of_neg hkept, hrest]
      have hnone : framesOf id artifact.payload.frames = [] := by
        apply framesOf_eq_nil
        intro frame hframe hid
        exact hkept (hkeep artifact mem_cons_self ⟨frame, hframe, hid⟩)
      simp [frames, hnone]

variable (view : DaArtifact → β)
  (hview : ∀ artifact state, view { artifact with state := state } = view artifact)
include hview

theorem map_setState (ledger : DaArtifacts) (artifactIds : List ArtifactId)
    (state : ArtifactState) :
    (ledger.setState artifactIds state).artifacts.map view = ledger.artifacts.map view := by
  rw [setState, map_map]
  apply map_congr_left
  intro artifact _
  rw [comp_apply]
  split
  · exact hview artifact state
  · rfl

theorem map_lease {ledger after : DaArtifacts} {submissionId : SubmissionId} {maxBlobs : Nat}
    {leased : BatchSubmission × List ArtifactId}
    (hlease : ledger.lease submissionId maxBlobs = some (leased, after)) :
    after.artifacts.map view = ledger.artifacts.map view := by
  have hmark : ∀ indexes, (markPending ledger.artifacts indexes).map view =
      ledger.artifacts.map view := by
    intro indexes
    apply ext_getElem
    · simp [markPending]
    · intro index hleft hright
      simp only [markPending, getElem_map, getElem_mapIdx]
      split
      · exact hview _ _
      · rfl
  unfold lease at hlease
  split at hlease
  · cases hlease
  split at hlease
  · cases hlease
    exact hmark _
  · cases hlease
    exact hmark _

theorem map_settle (egress : DaEgress) (id : SubmissionId) (state : ArtifactState) :
    (egress.settle id state).artifacts.artifacts.map view = egress.artifacts.artifacts.map view := by
  unfold DaEgress.settle removePending
  cases egress.pending.find? (·.1 = id) with
  | none => rfl
  | some =>
    dsimp only
    split
    · exact map_setState view hview _ _ _
    · rfl

end DaArtifacts

variable {externals : BatcherExternals} {encoder : BatchEncoder externals}

namespace BatchEncoder

/-- The retained artifacts and the channels that are still in the FIFO. -/
structure Conserved (drawn : List ChannelId) (channels : List (BatcherChannel externals.brotli))
    (artifacts : List DaArtifact) : Prop where
  ids_nodup : (channels.map (·.id)).Nodup
  ids_drawn : channels.map (·.id) ⊆ drawn
  frames_drawn : ∀ frame ∈ frames artifacts, frame.id ∈ drawn
  owned : ∀ artifact ∈ artifacts, ∀ id ∈ channels.map (·.id),
    DaArtifacts.Holds artifact id → id ∈ artifact.channelIds
  streamed : DaEgress.AllStreamed (frames artifacts) channels

namespace Conserved

variable {drawn : List ChannelId} {channels channels' : List (BatcherChannel externals.brotli)}
  {artifacts artifacts' : List DaArtifact}

section

variable (hconserved : Conserved drawn channels artifacts)
include hconserved

/-- Channels may change in fields that the stream does not depend on. -/
theorem of_view (hview : channels'.map (fun channel => (channel.id, view channel)) =
      channels.map fun channel => (channel.id, view channel)) :
    Conserved drawn channels' artifacts := by
  have hids : channels'.map (·.id) = channels.map (·.id) := by
    have hfst := congrArg (map Prod.fst) hview
    rw [map_map, map_map] at hfst
    exact hfst
  refine ⟨hids ▸ hconserved.ids_nodup, hids ▸ hconserved.ids_drawn,
    hconserved.frames_drawn, hids ▸ hconserved.owned, ?_⟩
  intro channel hchannel
  have hmem := mem_map_of_mem (f := fun channel => (channel.id, view channel)) hchannel
  rw [hview] at hmem
  obtain ⟨original, horiginal, hsame⟩ := mem_map.mp hmem
  obtain ⟨hid, hfields⟩ := Prod.mk.inj hsame
  rw [← hid]
  exact (hconserved.streamed original horiginal).of_view hfields.symm

/-- Artifacts may change in everything but their frames and channels. -/
theorem of_artifacts (hview : artifacts'.map (fun artifact =>
        (artifact.payload, artifact.channelIds)) =
      artifacts.map fun artifact => (artifact.payload, artifact.channelIds)) :
    Conserved drawn channels artifacts' := by
  have hframes : frames artifacts' = frames artifacts := by
    have hflat := congrArg (flatMap fun pair => pair.1.frames) hview
    rw [flatMap_map, flatMap_map] at hflat
    exact hflat
  refine ⟨hconserved.ids_nodup, hconserved.ids_drawn,
    hframes ▸ hconserved.frames_drawn, ?_, hframes ▸ hconserved.streamed⟩
  intro artifact hartifact id hid hholds
  have hmem := mem_map_of_mem
    (f := fun artifact => (artifact.payload, artifact.channelIds)) hartifact
  rw [hview] at hmem
  obtain ⟨original, horiginal, hsame⟩ := mem_map.mp hmem
  obtain ⟨hpayload, hchannelIds⟩ := Prod.mk.inj hsame
  rw [← hchannelIds]
  apply hconserved.owned original horiginal id hid
  rwa [DaArtifacts.Holds, hpayload]

/-- Channels and artifacts may go, as long as the frames of the remaining
channels stay. -/
theorem restrict (hchannels : channels'.Sublist channels)
    (hdropped : frames artifacts' ⊆ frames artifacts)
    (howned : ∀ artifact ∈ artifacts', ∀ id ∈ channels'.map (·.id),
      DaArtifacts.Holds artifact id → id ∈ artifact.channelIds)
    (hkept : ∀ id ∈ channels'.map (·.id), framesOf id (frames artifacts') =
        framesOf id (frames artifacts)) :
    Conserved drawn channels' artifacts' := by
  have hids := hchannels.map (·.id)
  refine ⟨hids.nodup hconserved.ids_nodup, ?_, ?_, howned, ?_⟩
  · exact fun id hid => hconserved.ids_drawn (hids.subset hid)
  · exact fun frame hframe => hconserved.frames_drawn frame (hdropped hframe)
  · intro channel hchannel
    rw [hkept channel.id (mem_map_of_mem hchannel)]
    exact hconserved.streamed channel (hchannels.subset hchannel)

end

/-- A frame goes from the channels to a new artifact. -/
theorem push (hconserved : Conserved drawn channels artifacts)
    {artifact : DaArtifact} {plans : List PlannedFrame}
    (hplans : ∀ plan ∈ plans, plan.Useful)
    (hcommit : commitFrames plans channels = some (artifact.payload.frames, channels'))
    (hchannelIds : ∀ plan ∈ plans, plan.channelId ∈ artifact.channelIds) :
    Conserved drawn channels' (artifacts ++ [artifact]) := by
  have hids : channels'.map (·.id) = channels.map (·.id) := by
    refine commitFrames_map _ ?_ hcommit
    intro channel channel' _ _ _ htake
    obtain ⟨_, _, -, -, -, -, -, rfl⟩ := takeFrame_eq_ok htake
    rfl
  obtain ⟨hcut, hsubset, hstreamed⟩ := hconserved.streamed.commitFrames
    hconserved.ids_nodup hplans hcommit
  have hframes : frames (artifacts ++ [artifact]) =
      frames artifacts ++ artifact.payload.frames := by
    simp [frames]
  have hplanned : ∀ frame ∈ artifact.payload.frames, frame.id ∈ plans.map (·.channelId) := by
    intro frame hframe
    rw [← hcut]
    exact mem_map_of_mem hframe
  refine ⟨hids ▸ hconserved.ids_nodup, hids ▸ hconserved.ids_drawn, ?_, ?_, hframes ▸ hstreamed⟩
  · intro frame hframe
    rw [hframes] at hframe
    rcases mem_append.mp hframe with hold | hnew
    · exact hconserved.frames_drawn frame hold
    · exact hconserved.ids_drawn (hsubset (hplanned frame hnew))
  · intro other hother id hid hholds
    rw [hids] at hid
    rcases mem_append.mp hother with hold | hnew
    · exact hconserved.owned other hold id hid hholds
    · rw [mem_singleton.mp hnew] at hholds ⊢
      obtain ⟨frame, hframe, rfl⟩ := hholds
      obtain ⟨plan, hplan, hsame⟩ := mem_map.mp (hplanned frame hframe)
      rw [← hsame]
      exact hchannelIds plan hplan

variable {front : List (BatcherChannel externals.brotli)}
  {channel : BatcherChannel externals.brotli}

theorem accept {channel' : BatcherChannel externals.brotli}
    (hconserved : Conserved drawn (front ++ [channel]) artifacts)
    (hid : channel'.id = channel.id)
    (hstreamed : ∀ cut, Streamed cut channel → Streamed cut channel') :
    Conserved drawn (front ++ [channel']) artifacts := by
  have hids : (front ++ [channel']).map (·.id) = (front ++ [channel]).map (·.id) := by simp [hid]
  refine ⟨hids ▸ hconserved.ids_nodup, hids ▸ hconserved.ids_drawn,
    hconserved.frames_drawn, hids ▸ hconserved.owned, ?_⟩
  intro other hother
  rcases mem_append.mp hother with hold | hnew
  · exact hconserved.streamed other (mem_append_left _ hold)
  · rw [mem_singleton.mp hnew, hid]
    exact hstreamed _ (hconserved.streamed channel (by simp))

/-- A fresh id has no frames yet. -/
theorem acceptFresh (hconserved : Conserved drawn channels artifacts)
    (hfresh : (drawn ++ [channel.id]).Nodup) (hstreamed : Streamed [] channel) :
    Conserved (drawn ++ [channel.id]) (channels ++ [channel]) artifacts := by
  have hnew : channel.id ∉ drawn := by
    intro hmem
    exact (nodup_append.mp hfresh).2.2 channel.id hmem channel.id (mem_singleton_self _) rfl
  have hnone : ∀ frame ∈ frames artifacts, frame.id ≠ channel.id := by
    rintro frame hframe heq
    exact hnew (heq ▸ hconserved.frames_drawn frame hframe)
  refine ⟨?_, ?_, ?_, ?_, ?_⟩
  · rw [map_append]
    refine Nodup.append hconserved.ids_nodup (nodup_singleton _) ?_
    exact disjoint_singleton.mpr fun hmem => hnew (hconserved.ids_drawn hmem)
  · rw [map_append]
    exact append_subset.mpr ⟨fun id hid => mem_append_left _ (hconserved.ids_drawn hid),
        fun id hid => mem_append_right _ hid⟩
  · intro frame hframe
    exact mem_append_left _ (hconserved.frames_drawn frame hframe)
  · intro artifact hartifact id hid hholds
    rw [map_append, map_singleton, mem_append, mem_singleton] at hid
    rcases hid with hid | rfl
    · exact hconserved.owned artifact hartifact id hid hholds
    · obtain ⟨frame, hframe, heq⟩ := hholds
      exact absurd heq (hnone frame (mem_flatMap.mpr ⟨artifact, hartifact, hframe⟩))
  · intro other hother
    rcases mem_append.mp hother with hold | hmem
    · exact hconserved.streamed other hold
    · rw [mem_singleton.mp hmem, framesOf_eq_nil hnone]
      exact hstreamed

/-- Replay keeps the channels in front and all artifacts they have frames
in. -/
theorem invalidate {back : List (BatcherChannel externals.brotli)}
    (hconserved : Conserved drawn (front ++ back) artifacts) {affected : Affected}
    (hclosed : ∀ artifact ∈ artifacts, artifact.id ∈ affected.artifacts →
        artifact.channelIds ⊆ affected.channels)
    (hfront : ∀ channel ∈ front, channel.id ∉ affected.channels) :
    Conserved drawn front (artifacts.filter (·.id ∉ affected.artifacts)) := by
  have hsubset : front.map (·.id) ⊆ (front ++ back).map (·.id) := by
    rw [map_append]
    exact subset_append_left _ _
  apply hconserved.restrict (sublist_append_left front back)
  · exact (filter_sublist.flatMap _).subset
  · intro artifact hartifact id hid
    exact hconserved.owned artifact (mem_filter.mp hartifact).1 id (hsubset hid)
  · intro id hid
    apply framesOf_frames_filter
    intro artifact hartifact hholds
    apply decide_eq_true
    intro haffected
    obtain ⟨channel, hchannel, rfl⟩ := mem_map.mp hid
    exact hfront channel hchannel (hclosed artifact hartifact haffected
      (hconserved.owned artifact hartifact _ (hsubset hid) hholds))

/-- Pruning channels keeps every artifact that another channel has frames
in. -/
theorem pruneChannels {covered rest : List (BatcherChannel externals.brotli)} {ledger : DaArtifacts}
    (hconserved : Conserved drawn (covered ++ rest) ledger.artifacts) :
    Conserved drawn rest (ledger.pruneChannels (covered.map (·.id))).artifacts := by
  have hsubset : rest.map (·.id) ⊆ (covered ++ rest).map (·.id) := by
    rw [map_append]
    exact subset_append_right _ _
  have hkeeps : ∀ artifact ∈ ledger.artifacts, ∀ id ∈ rest.map (·.id),
      DaArtifacts.Holds artifact id → id ∈ artifact.channelIds.filter (· ∉ covered.map (·.id)) := by
    intro artifact hartifact id hid hholds
    have hnodup := hconserved.ids_nodup
    rw [map_append] at hnodup
    refine mem_filter.mpr ⟨hconserved.owned artifact hartifact id (hsubset hid) hholds, ?_⟩
    apply decide_eq_true
    intro hcovered
    exact (nodup_append.mp hnodup).2.2 id hcovered id hid rfl
  apply hconserved.restrict (sublist_append_right covered rest)
  · intro frame hframe
    obtain ⟨artifact, hartifact, hmem⟩ := mem_flatMap.mp hframe
    obtain ⟨original, horiginal, rfl⟩ := mem_map.mp (mem_filter.mp hartifact).1
    exact mem_flatMap.mpr ⟨original, horiginal, hmem⟩
  · intro artifact hartifact id hid hholds
    obtain ⟨original, horiginal, rfl⟩ := mem_map.mp (mem_filter.mp hartifact).1
    exact hkeeps original horiginal id hid hholds
  · intro id hid
    refine (framesOf_frames_filter ?_).trans ?_
    · intro artifact hartifact hholds
      obtain ⟨original, horiginal, rfl⟩ := mem_map.mp hartifact
      have hmem := hkeeps original horiginal id hid hholds
      rw [Bool.not_eq_true', isEmpty_eq_false_iff]
      exact ne_nil_of_mem hmem
    · rw [frames, flatMap_map]
      rfl

end Conserved

variable {after before : BatchEncoder externals}

theorem Move.drawn_prefix (hmove : Move before after) : before.drawn <+: after.drawn := by
  cases hmove with
  | acceptFresh => exact prefix_append _ _
  | confirm id l1Block =>
    obtain ⟨channels, hconfirm, -⟩ := before.confirm_eq id l1Block
    rw [hconfirm]
  | invalidate _ hidx =>
    obtain ⟨_, _, _, _, -, -, -, -, hreplay⟩ := invalidateChannel_eq hidx
    rw [hreplay]
  | prune => rw [pruneBlocks_eq]
  | _ => exact prefix_rfl

/-- Every move conserves the streams, as long as no id is drawn twice. -/
theorem Conserved.move (hdistinct : after.drawn.Nodup)
    (hconserved : Conserved before.drawn before.channels before.egress.artifacts.artifacts)
    (hmove : Move before after) :
    Conserved after.drawn after.channels after.egress.artifacts.artifacts := by
  have hroom : ∀ channel ∈ before.channels, 0 < channel.maxFrameData := by
    intro channel hchannel
    have hroom := (hconserved.streamed channel hchannel).room
    unfold maxFrameData
    omega
  cases hmove with
  | retune | extend => exact hconserved
  | accept front channel channel' outcome buffered batch hchannels hopen hblock
      hbatch hadd hadmits =>
      rw [hchannels] at hconserved
      apply hconserved.accept
      · obtain ⟨_, _, _, -, -, -, rfl⟩ := addBatch_eq_of_admits hadd hadmits
        rw [pushOutput_eq]
      · exact fun cut hcut => hcut.addBatch hadd hadmits
  | acceptFresh channel channel' outcome buffered batch hclosed hblock hbatch hnew hadd hadmits =>
      obtain ⟨hid, hstreamed⟩ := of_new hnew
      have hid' : channel'.id = before.rng 0 := by
        obtain ⟨_, _, _, -, -, -, rfl⟩ := addBatch_eq_of_admits hadd hadmits
        rw [pushOutput_eq]
        exact hid
      have hfresh := hconserved.acceptFresh (hid' ▸ hdistinct) (hstreamed.addBatch hadd hadmits)
      rw [hid'] at hfresh
      exact hfresh
  | close _ _ hchannels hopen =>
    rw [hchannels] at hconserved
    apply hconserved.accept
    · obtain ⟨stream, hstream⟩ := Option.isSome_iff_exists.mp hopen
      obtain ⟨output, hclose⟩ := close_eq_pushOutput hstream
      rw [hclose, pushOutput_eq]
    · exact fun cut hcut => hcut.close hopen
  | release =>
    apply hconserved.of_view
    rw [map_map]
    rfl
  | commitBlob _ _ _ hplan hcommit =>
    obtain ⟨frames, hframes, rfl⟩ := commitBlob_eq_some hcommit
    refine hconserved.push (planBlob_useful hroom hplan) hframes fun planned hplanned => ?_
    exact mem_foldl_pushNew.mpr (.inr (mem_map_of_mem hplanned))
  | commitCalldata plan _ channels hplan hcommit =>
    obtain ⟨frame, hframe, rfl⟩ := commitCalldata_eq_some hcommit
    have hframes : commitFrames [plan] before.channels = some ([frame], channels) := by
      simp [commitFrames, hframe]
    refine hconserved.push ?_ hframes (by simp)
    intro planned hplanned
    rw [mem_singleton.mp hplanned]
    exact planCalldata_useful hroom hplan
  | lease _ _ _ hlease =>
    exact hconserved.of_artifacts (map_lease _ (fun _ _ => rfl) hlease)
  | confirm id l1Block =>
    obtain ⟨channels, hconfirm, hview⟩ := before.confirm_eq id l1Block
    rw [hconfirm, confirm_eq_settle]
    apply Conserved.of_view _ (hview _ fun _ _ => rfl)
    exact hconserved.of_artifacts (map_settle _ (fun _ _ => rfl) _ _ _)
  | requeue => exact hconserved.of_artifacts (map_settle _ (fun _ _ => rfl) _ _ .ready)
  | invalidate _ hidx =>
    obtain ⟨affected, front, first, back, hclosed, hsplit, -, hfront,
      hreplay⟩ := invalidateChannel_eq hidx
    rw [hreplay]
    rw [hsplit] at hconserved
    exact hconserved.invalidate (fun artifact hartifact haffected =>
      (hclosed.artifacts artifact hartifact (.inr haffected)).2) hfront
  | prune pruneCount =>
    have hsplit : before.coveredBy pruneCount ++
        before.channels.dropWhile (·.blockEnd ≤ pruneCount) =
          before.channels := takeWhile_append_dropWhile
    rw [pruneBlocks_eq]
    refine Conserved.of_view (?_ : Conserved before.drawn
      (before.channels.dropWhile (·.blockEnd ≤ pruneCount)) _) ?_
    · rw [← hsplit] at hconserved
      dsimp only
      split
      · exact hconserved.pruneChannels
      rename_i hnone
      have hempty : before.coveredBy pruneCount = [] :=
        length_eq_zero_iff.mp (Nat.eq_zero_of_not_pos hnone)
      rw [hempty] at hconserved
      exact hconserved
    · rw [map_map]
      rfl
  | adoptTip => exact hconserved
  | reset =>
    exact ⟨nodup_nil, nil_subset _, by simp [reset, DaEgress.reset, clear, frames],
      by simp [reset], by simp [reset, AllStreamed]⟩

theorem Reachable.conserved (hreach : Reachable encoder) (hdistinct : encoder.drawn.Nodup) :
    Conserved encoder.drawn encoder.channels encoder.egress.artifacts.artifacts := by
  have hinvariant := hreach.of_moves
    (P := fun encoder => encoder.drawn.Nodup → Conserved encoder.drawn
      encoder.channels encoder.egress.artifacts.artifacts) ?_ ?_
  · exact hinvariant hdistinct
  · intro before after hbefore hmove hafter
    exact Conserved.move hafter (hbefore (hmove.drawn_prefix.sublist.nodup hafter)) hmove
  · intro rollupConfig config rng fresh hnew _
    unfold new at hnew
    split at hnew
    · cases hnew
    cases hnew
    exact ⟨nodup_nil, nil_subset _, by simp [DaEgress.new,
      DaArtifacts.new, frames], by simp [DaEgress.new], by simp [AllStreamed]⟩

end BatchEncoder

/-- Artifacts stand in the order in which they were created. -/
def Chronological (state : DaEgress × SubmissionId) : Prop :=
  (state.1.artifacts.artifacts.map (·.id)).Pairwise (· < ·)

theorem Chronological.move {before after : DaEgress × SubmissionId}
    (hbalanced : Balanced before) (horder : Chronological before)
    (hmove : LedgerMove before after) : Chronological after := by
  cases hmove with
  | push =>
    simp only [Chronological, push, map_append]
    refine pairwise_append.mpr ⟨horder, pairwise_singleton _ _, fun id hid other hother => ?_⟩
    obtain ⟨artifact, hartifact, rfl⟩ := mem_map.mp hid
    rw [mem_singleton.mp hother]
    exact hbalanced.ids_lt artifact hartifact
  | lease _ _ _ _ _ _ hlease =>
    have hids := map_lease DaArtifact.id (fun _ _ => rfl) hlease
    exact (congrArg (Pairwise (· < ·)) hids).mpr horder
  | confirm egress _ id =>
    have hids := map_settle DaArtifact.id (fun _ _ => rfl) egress id .confirmed
    rw [← confirm_eq_settle] at hids
    exact (congrArg (Pairwise (· < ·)) hids).mpr horder
  | requeue egress _ id =>
    have hids := map_settle DaArtifact.id (fun _ _ => rfl) egress id .ready
    exact (congrArg (Pairwise (· < ·)) hids).mpr horder
  | prune =>
    refine Pairwise.sublist ?_ horder
    refine (filter_sublist.map _).trans ?_
    rw [map_map]
    exact Sublist.refl _
  | invalidate => exact horder.sublist (filter_sublist.map _)
  | reset => exact Pairwise.nil

namespace BatchEncoder

theorem Traced.chronological (htraced : Traced encoder) : Chronological encoder.ledger := by
  obtain ⟨rollupConfig, config, rng, fresh, hnew, htrace⟩ := htraced
  have hfresh : fresh.ledger = (DaEgress.new, 0) := by
    unfold new at hnew
    split at hnew
    · cases hnew
    · cases hnew
      rfl
  refine (LedgerMoves.invariant
    (fun _ _ hbefore hstep hmove => Chronological.move hbefore hstep hmove)
    htrace.ledgerMoves ?_ ?_).2
  · rw [hfresh]
    exact DaEgress.new.reset_ledger 0
  · rw [hfresh]
    exact List.Pairwise.nil

/-- Stream conservation: as long as no channel id is drawn twice, the retained
frames of every channel in the FIFO are numbered from zero without a gap, only
the last one may close the stream and does so exactly when the channel is
completely framed, and their data followed by the output FIFO is what the
compressor has emitted. -/
theorem reachable_streamConservation {encoder : BatchEncoder externals}
    (hreach : Reachable encoder) (hdistinct : encoder.drawn.Nodup)
    {channel : BatcherChannel externals.brotli}
    (hchannel : channel ∈ encoder.channels) :
    let artifacts := encoder.egress.artifacts.artifacts
    let cut := framesOf channel.id (DaArtifacts.frames artifacts)
    (artifacts.map (·.id)).Pairwise (· < ·) ∧
      cut.map (·.number.toNat) = List.range cut.length ∧
      (∀ frame ∈ cut.dropLast, frame.isLast = false) ∧
      (cut.getLast?.any (·.isLast) = channel.framingComplete) ∧
      cut.flatMap (·.data) ++ channel.output.flatten = channel.emitted ∧
      channel.availableOutput = channel.output.flatten.length := by
  have hstreamed := (hreach.conserved hdistinct).streamed channel hchannel
  exact ⟨hreach.traced.chronological, hstreamed.numbers_eq_range,
    hstreamed.flags_split.1, hstreamed.flags_split.2, hstreamed.data, hstreamed.available⟩

theorem reachable_streamConservation_storedRun :
    storedRun.channels.length = 1 ∧ storedRun.drawn.Nodup ∧
      ∀ channel ∈ storedRun.channels,
        (framesOf channel.id (DaArtifacts.frames
          storedRun.egress.artifacts.artifacts)).flatMap (·.data) ++
            channel.output.flatten = channel.emitted :=
  ⟨rfl, List.nodup_singleton _, fun _ hchannel =>
    (reachable_streamConservation storedRun_reachable (List.nodup_singleton _) hchannel).2.2.2.2.1⟩

end BatchEncoder

end BaseChain
