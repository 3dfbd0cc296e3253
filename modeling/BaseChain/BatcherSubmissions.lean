/-
The submissions of a drain.  Artifacts are built when none is ready and leased
at once, so the submissions carry the frames of the queue in order.
-/
import BaseChain.BatcherDrain
import Mathlib.Data.List.TakeWhile

namespace BaseChain

open List FrameBudget DaArtifactPayload DaArtifacts Frame SubmissionPayload

variable {brotli : BrotliWriter} {maxFrameSize l1Head : Nat}
  {channels : List (BatcherChannel brotli)}

namespace DaEgress

/-- What building artifacts does: it appends ready artifacts that hold the next
frames of the queue. -/
structure Built (budget : FrameBudget) (maxFrameSize l1Head : Nat)
    (before : DaEgress) (channels : List (BatcherChannel brotli))
    (after : DaEgress) (channels' : List (BatcherChannel brotli))
    (added : List DaArtifact) : Prop where
  artifacts : after.artifacts.artifacts = before.artifacts.artifacts ++ added
  ready : ∀ artifact ∈ added, artifact.state = .ready
  nonempty : ∀ artifact ∈ added, artifact.payload.frames ≠ []
  frames : budget.frameAll 0 (backlogs channels) =
    added.flatMap (·.payload.frames) ++ budget.frameAll 0 (backlogs channels')
  range : budget.InRange 0 (backlogs channels) ↔ budget.InRange 0 (backlogs channels')
  draining : Draining maxFrameSize l1Head channels'

namespace Built

variable {budget : FrameBudget} {first second third : DaEgress}
  {channels channels' channels'' : List (BatcherChannel brotli)} {front back : List DaArtifact}

theorem refl (hdraining : Draining maxFrameSize l1Head channels) (egress : DaEgress) :
    Built budget maxFrameSize l1Head egress channels egress channels [] :=
  ⟨by simp, by simp, by simp, by simp, Iff.rfl, hdraining⟩

theorem trans (hfront : Built budget maxFrameSize l1Head first channels second channels' front)
    (hback : Built budget maxFrameSize l1Head second channels' third channels'' back) :
    Built budget maxFrameSize l1Head first channels third channels'' (front ++ back) := by
  refine ⟨?_, ?_, ?_, ?_, hfront.range.trans hback.range, hback.draining⟩
  · rw [hback.artifacts, hfront.artifacts, append_assoc]
  · exact forall_mem_append.mpr ⟨hfront.ready, hback.ready⟩
  · exact forall_mem_append.mpr ⟨hfront.nonempty, hback.nonempty⟩
  · rw [hfront.frames, hback.frames, flatMap_append, append_assoc]

end Built

/-- Only the renewed budget matters for what follows. -/
theorem budget_restart (budget : FrameBudget) {rest : List Backlog}
    (left : Nat) (hstop : rest = [] ∨ budget.refill left = budget.refill 0) :
    budget.frameAll left rest = budget.frameAll 0 rest ∧
      (budget.InRange left rest ↔ budget.InRange 0 rest) := by
  cases rest with
  | nil => simp [frameAll_nil, inRange_nil]
  | cons =>
    rw [frameAll_cons, frameAll_cons, inRange_cons, inRange_cons, hstop.resolve_left (by simp)]
    exact ⟨rfl, Iff.rfl⟩

section

variable (hsize : encodedOverhead + 1 ≤ maxFrameSize)
  (hdraining : Draining maxFrameSize l1Head channels)
include hsize hdraining

/-- One blob of the build loop. -/
theorem commitBlob_built {cut : List Frame} {rest : List Backlog} {left : Nat} (hcut : cut ≠ [])
    (hcuts : Cuts (maxFrameSize - encodedOverhead) (backlogs channels)
      blobCapacity cut rest left) (hstop : rest = [] ∨ left ≤ encodedOverhead)
    (egress : DaEgress) :
    (egress.commitBlob channels (cut.map planned) = none ∧
      ¬ (blobBudget maxFrameSize hsize).InRange 0 (backlogs channels)) ∨
    ∃ egress' channels' artifact, egress.commitBlob channels (cut.map planned) =
        some (egress', channels') ∧
      Built (blobBudget maxFrameSize hsize) maxFrameSize l1Head egress channels
        egress' channels' [artifact] ∧
      artifact.payload.isBlob = true ∧
      egress'.artifacts.readyBlobCount = egress.artifacts.readyBlobCount + 1 := by
  have hfresh : (blobBudget maxFrameSize hsize).refill blobCapacity =
      (blobBudget maxFrameSize hsize).refill 0 := by
    simp [blobBudget]
  have hfull : rest = [] ∨ (blobBudget maxFrameSize hsize).refill left =
      (blobBudget maxFrameSize hsize).refill 0 := by
    rcases hstop with hrest | hleft
    · exact .inl hrest
    · exact .inr (by simp [blobBudget, hleft])
  obtain ⟨hframes, hrange⟩ := budget_restart (blobBudget maxFrameSize hsize)
    blobCapacity (.inr hfresh : backlogs channels = [] ∨ _)
  obtain ⟨hframes', hrange'⟩ := budget_restart (blobBudget maxFrameSize hsize) left hfull
  have hall := (blobBudget maxFrameSize hsize).frameAll_of_cuts
    (fun remaining hroom => if_neg (not_le.mpr hroom)) hcuts
  rcases commitFrames_cuts hsize hcuts hdraining rfl with ⟨hnone, hout⟩ |
    ⟨channels', hcommit, hdraining', hback, hiff⟩
  · exact .inl ⟨by simp [commitBlob, hnone], fun hin => hout (hrange.mpr hin)⟩
  · have hblob : egress.commitBlob channels (cut.map planned) =
        some ({ egress with
          artifacts := egress.artifacts.push (.blob cut)
            (((cut.map planned).map (·.channelId)).foldl pushNew []) },
          channels') := by
      rw [commitBlob, hcommit]
      rfl
    refine .inr ⟨_, channels', _, hblob, ⟨rfl, by simp,
      by simpa [frames] using hcut, ?_, ?_, hdraining'⟩, rfl,
      by simp [readyBlobCount, push, isBlob]⟩
    · rw [hback, ← hframes, hall, hframes']
      simp [frames]
    · rw [hback, ← hrange, hiff, hrange']

/-- The blob loop fills blobs until the wanted number is ready or no stream is
left. -/
theorem buildBlobs_built (turns maxBlobs : Nat) {egress : DaEgress}
    (hturns : egress.artifacts.readyBlobCount + turns = maxBlobs) :
    (buildBlobs l1Head maxBlobs turns egress channels = none ∧
      ¬ (blobBudget maxFrameSize hsize).InRange 0 (backlogs channels)) ∨
    ∃ egress' channels' added, buildBlobs l1Head maxBlobs turns egress channels =
        some (egress', channels') ∧
      Built (blobBudget maxFrameSize hsize) maxFrameSize l1Head egress channels
        egress' channels' added ∧
      (∀ artifact ∈ added, artifact.payload.isBlob = true) ∧
      added.length ≤ turns ∧
      (added = [] → turns = 0 ∨ backlogs channels = []) := by
  induction turns generalizing channels egress with
  | zero =>
    exact .inr ⟨egress, channels, [], rfl, .refl hdraining egress, by simp,
      le_refl 0, fun _ => .inl rfl⟩
  | succ turns ih =>
    rw [buildBlobs, if_pos (by omega)]
    rcases planBlob_cuts hdraining.isSealed hsize with ⟨hplan, hqueue⟩ |
      ⟨cut, rest, left, hcut, hplan, hcuts, hstop⟩
    · rw [hplan]
      exact .inr ⟨egress, channels, [], rfl, .refl hdraining egress, by simp,
        Nat.zero_le _, fun _ => .inr hqueue⟩
    · rw [hplan]
      rcases commitBlob_built hsize hdraining hcut hcuts hstop egress with
        ⟨hnone, hout⟩ | ⟨middle, channels', artifact, hcommit, hbuilt, hblob, hcount⟩
      · exact .inl ⟨by simp [hnone], hout⟩
      · simp only [hcommit]
        have hleft : middle.artifacts.readyBlobCount + turns = maxBlobs := by omega
        rcases ih hbuilt.draining hleft with
          ⟨hnone, hout⟩ | ⟨egress', channels'', added, hbuild, hrest, hblobs, hlength, -⟩
        · exact .inl ⟨hnone, fun hall => hout (hbuilt.range.mp hall)⟩
        · refine .inr ⟨egress', channels'', artifact :: added, hbuild,
            hbuilt.trans hrest, ?_, ?_, by simp⟩
          · exact forall_mem_cons.mpr ⟨hblob, hblobs⟩
          · rw [length_cons]
            omega

/-- A calldata frame is built whenever a stream is left. -/
theorem buildCalldata_built (maxBlobs : Nat) (egress : DaEgress) :
    (egress.buildReadyArtifacts channels .calldata l1Head maxBlobs = none ∧
      ¬ (calldataBudget maxFrameSize hsize).InRange 0 (backlogs channels)) ∨
    ∃ egress' channels' added, egress.buildReadyArtifacts channels .calldata l1Head maxBlobs =
        some (egress', channels') ∧
      Built (calldataBudget maxFrameSize hsize) maxFrameSize l1Head egress
        channels egress' channels' added ∧
      ((added = [] ∧ backlogs channels = []) ∨ ∃ artifact frame, added = [artifact] ∧
          artifact.payload = .calldata frame) := by
  rw [buildReadyArtifacts, planCalldata_eq hdraining.isSealed]
  cases hqueue : backlogs channels with
  | nil => exact .inr ⟨egress, channels, [], rfl, .refl hdraining egress, .inl ⟨rfl, rfl⟩⟩
  | cons backlog rest =>
    have hrange := (calldataBudget maxFrameSize hsize).inRange_cons 0 backlog rest
    have hframes := (calldataBudget maxFrameSize hsize).frameAll_cons 0 backlog rest
    rcases commitFrame_cut hdraining hqueue (maxFrameSize - encodedOverhead) maxFrameSize with
      ⟨hnone, hnumber⟩ | ⟨channels', hnumber, hcommit, hdraining', -, hback⟩
    · refine .inl ⟨by simp [commitCalldata, hnone], ?_⟩
      rw [hrange]
      exact fun hall => hnumber hall.1
    · obtain ⟨hframes', hrange'⟩ := budget_restart (calldataBudget maxFrameSize hsize)
        (backlog.room (maxFrameSize - encodedOverhead) maxFrameSize)
        (.inr rfl : backlogs channels' = [] ∨ _)
      have hbuild : egress.commitCalldata channels
          (backlog.frame (maxFrameSize - encodedOverhead) maxFrameSize).planned =
          some ({ egress with
            artifacts := egress.artifacts.push (.calldata (backlog.frame
                (maxFrameSize - encodedOverhead) maxFrameSize)) [backlog.id] }, channels') := by
        rw [commitCalldata, hcommit]
        rfl
      refine .inr ⟨_, channels', _, hbuild, ⟨rfl, by simp, by simp [frames], ?_, ?_, hdraining'⟩,
        .inr ⟨_, _, rfl, rfl⟩⟩
      · rw [hqueue, hframes, ← hframes', hback]
        rfl
      · rw [hqueue, hrange, ← hrange', hback]
        exact and_iff_right hnumber

end

section Leasing

variable {old added : List DaArtifact} {artifact : DaArtifact}

/-- The first ready artifact is the first behind the leased ones. -/
theorem find_ready (hold : ∀ other ∈ old, other.state ≠ .ready) (hready : artifact.state = .ready) :
    (old ++ artifact :: added).zipIdx.find? (·.1.state = .ready) = some (artifact, old.length) := by
  have hnone : old.zipIdx.find? (·.1.state = .ready) = none := by
    rw [find?_eq_none]
    intro pair hpair
    simpa using hold pair.1 (fst_mem_of_mem_zipIdx hpair)
  rw [zipIdx_append, find?_append, hnone, zipIdx_cons, find?_cons_of_pos (by simpa using hready)]
  simp

variable {ledger : DaArtifacts}

theorem lease_none (hold : ∀ artifact ∈ ledger.artifacts, artifact.state ≠ .ready)
    (maxBlobs : Nat) (id : SubmissionId) : ledger.lease id maxBlobs = none := by
  have hnone : ledger.artifacts.zipIdx.find? (·.1.state = .ready) = none := by
    rw [find?_eq_none]
    intro pair hpair
    simpa using hold pair.1 (fst_mem_of_mem_zipIdx hpair)
  rw [lease, hnone]

/-- Marking everything behind the leased artifacts leaves none ready. -/
theorem markPending_leased (hold : ∀ other ∈ old, other.state ≠ .ready) {indexes : List Nat}
    (hindexes : ∀ index, old.length ≤ index → index < old.length + added.length → index ∈ indexes) :
    ∀ artifact ∈ markPending (old ++ added) indexes, artifact.state ≠ .ready := by
  intro artifact hitem
  obtain ⟨index, hindex, rfl⟩ := mem_mapIdx.mp hitem
  split
  · simp
  · rename_i hfresh
    rw [length_append] at hindex
    have hlt : index < old.length := by
      by_contra hge
      exact hfresh (hindexes index (by omega) hindex)
    rw [getElem_append_left hlt]
    exact hold _ (getElem_mem hlt)

theorem map_fst_zipIdx {β : Type} (view : DaArtifact → β) (start : Nat)
    (artifacts : List DaArtifact) :
    (artifacts.zipIdx start).map (fun pair => view pair.1) = artifacts.map view := by
  rw [← congrArg (map view) (zipIdx_map_fst start artifacts), map_map]
  rfl

/-- All ready blobs at the end of the ledger are leased together. -/
theorem lease_blobs (hledger : ledger.artifacts = old ++ added)
    (hold : ∀ artifact ∈ old, artifact.state ≠ .ready)
    (hready : ∀ artifact ∈ added, artifact.state = .ready)
    (hblobs : ∀ artifact ∈ added, artifact.payload.isBlob = true) (hadded : added ≠ [])
    {maxBlobs : Nat} (hlength : added.length ≤ maxBlobs) (id : SubmissionId) :
    ∃ ids after, ledger.lease id maxBlobs =
        some (({ id := id
                 payload := .blobs (added.map (·.payload.frames)) }, ids),
          after) ∧
      ∀ artifact ∈ after.artifacts, artifact.state ≠ .ready := by
  obtain ⟨artifact, rest, rfl⟩ := exists_cons_of_ne_nil hadded
  have hleased : leasedBlobs ledger.artifacts old.length maxBlobs =
      (artifact :: rest).zipIdx old.length := by
    have hpairs : ∀ pair ∈ (artifact :: rest).zipIdx old.length,
        pair.1 ∈ artifact :: rest := fun pair hpair =>
      fst_mem_of_mem_zipIdx hpair
    rw [leasedBlobs, hledger, zipIdx_append, drop_left' (by simp), zero_add, filter_eq_self.mpr,
      takeWhile_eq_self_iff.mpr]
    · simpa using hlength
    · exact fun pair hpair => hblobs pair.1 (hpairs pair hpair)
    · exact fun pair hpair => by simpa using hready pair.1 (hpairs pair hpair)
  have hblob := hblobs artifact mem_cons_self
  cases hpayload : artifact.payload with
  | calldata => simp [hpayload, isBlob] at hblob
  | blob frames =>
    refine ⟨(artifact :: rest).map (·.id), { ledger with
      artifacts := markPending ledger.artifacts
        (((artifact :: rest).zipIdx old.length).map (·.2)) }, ?_, ?_⟩
    · rw [lease, hledger, find_ready hold (hready artifact mem_cons_self)]
      simp only [hpayload]
      rw [leaseBlobs, hleased, hledger, map_fst_zipIdx (fun artifact => artifact.payload.frames),
        map_fst_zipIdx (fun artifact => artifact.id)]
    · rw [hledger]
      refine markPending_leased hold ?_
      intro index hlow hhigh
      rw [zipIdx_map_snd, mem_range'_1]
      exact ⟨hlow, hhigh⟩

theorem lease_calldata {frame : Frame} (hledger : ledger.artifacts = old ++ [artifact])
    (hold : ∀ artifact ∈ old, artifact.state ≠ .ready)
    (hready : artifact.state = .ready) (hpayload : artifact.payload = .calldata frame)
    (maxBlobs : Nat) (id : SubmissionId) :
    ∃ ids after, ledger.lease id maxBlobs =
        some (({ id := id, payload := .calldata frame }, ids), after) ∧
      ∀ artifact ∈ after.artifacts, artifact.state ≠ .ready := by
  refine ⟨[artifact.id], { ledger with
    artifacts := markPending ledger.artifacts [old.length] }, ?_, ?_⟩
  · rw [lease, hledger, find_ready hold hready]
    simp [hpayload, leaseCalldata, hledger]
  · rw [hledger]
    refine markPending_leased hold ?_
    intro index hlow hhigh
    rw [length_singleton] at hhigh
    rw [mem_singleton]
    omega

end Leasing

end DaEgress

/-- The frames of a submission, one group for every payload on L1. -/
def SubmissionPayload.frameGroups : SubmissionPayload → List (List Frame)
  | .blobs groups => groups
  | .calldata frame => [[frame]]

/-- The budget that a data availability type gives the frames. -/
def DaType.budget (daType : DaType) (maxFrameSize : Nat)
    (hsize : encodedOverhead + 1 ≤ maxFrameSize) : FrameBudget :=
  match daType with
  | .blob => blobBudget maxFrameSize hsize
  | .calldata => calldataBudget maxFrameSize hsize

namespace DaEgress

/-- No artifact waits for a submission. -/
def AllLeased (egress : DaEgress) : Prop :=
  ∀ artifact ∈ egress.artifacts.artifacts, artifact.state ≠ .ready

/-- A submission that takes the next frames of the queue. -/
structure Submitted (budget : FrameBudget) (maxFrameSize l1Head : Nat)
    (channels : List (BatcherChannel brotli)) (submission : BatchSubmission)
    (after : DaEgress) (channels' : List (BatcherChannel brotli)) : Prop where
  leased : AllLeased after
  draining : Draining maxFrameSize l1Head channels'
  nonempty : ∀ group ∈ submission.payload.frameGroups, group ≠ []
  groups : submission.payload.frameGroups ≠ []
  frames : budget.frameAll 0 (backlogs channels) = submission.payload.frameGroups.flatten ++
      budget.frameAll 0 (backlogs channels')
  range : budget.InRange 0 (backlogs channels) ↔ budget.InRange 0 (backlogs channels')

/-- A submission takes the next frames of the queue; there is none exactly when
no stream is left, and it fails only when a number is out of range. -/
def Drains (budget : FrameBudget) (maxFrameSize l1Head : Nat)
    (channels : List (BatcherChannel brotli))
    (result : Option (Option BatchSubmission × DaEgress × List (BatcherChannel brotli))) :
    Prop :=
  (result = none ∧ ¬ budget.InRange 0 (backlogs channels)) ∨
    (∃ egress' channels', result = some (none, egress', channels') ∧ backlogs channels = []) ∨
    ∃ submission egress' channels', result = some (some submission, egress', channels') ∧
      Submitted budget maxFrameSize l1Head channels submission egress' channels'

variable {egress : DaEgress}

theorem nextSubmission_of_build (hleased : AllLeased egress)
    (channels : List (BatcherChannel brotli)) (daType : DaType) (l1Head maxBlobs : Nat)
    (id : SubmissionId) :
    egress.nextSubmission channels daType l1Head maxBlobs id =
      (egress.buildReadyArtifacts channels daType l1Head maxBlobs).bind fun (egress, channels) =>
          match egress.artifacts.lease id maxBlobs with
          | none => some (none, egress, channels)
          | some ((submission, artifactIds), artifacts) =>
            some (some submission,
              { artifacts := artifacts
                pending := insertPending egress.pending id artifactIds },
              channels) := by
  have hready : egress.artifacts.hasReady = false := by
    rw [hasReady, any_eq_false]
    intro artifact hitem
    simpa using hleased artifact hitem
  rw [nextSubmission, ensureReadyArtifacts, hready]
  rfl

variable {maxBlobs : Nat} (hsize : encodedOverhead + 1 ≤ maxFrameSize)
  (hdraining : Draining maxFrameSize l1Head channels) (hleased : AllLeased egress)
  (id : SubmissionId)
include hdraining hleased

theorem nextSubmission_blob (hmaxBlobs : 0 < maxBlobs) :
    Drains (blobBudget maxFrameSize hsize) maxFrameSize l1Head channels
      (egress.nextSubmission channels .blob l1Head maxBlobs id) := by
  have hcount : egress.artifacts.readyBlobCount + maxBlobs = maxBlobs := by
    have hnone : egress.artifacts.artifacts.filter (fun artifact =>
        artifact.state = .ready && artifact.payload.isBlob) = [] := by
      rw [filter_eq_nil_iff]
      intro artifact hitem
      simp [hleased artifact hitem]
    simp [readyBlobCount, hnone]
  rw [nextSubmission_of_build hleased, buildReadyArtifacts]
  rcases buildBlobs_built hsize hdraining maxBlobs maxBlobs hcount with
    ⟨hnone, hout⟩ | ⟨egress', channels', added, hbuild, hbuilt, hblobs, hlength, hprogress⟩
  · exact .inl ⟨by rw [hnone]; rfl, hout⟩
  · rw [hbuild]
    right
    cases added with
    | nil =>
      left
      have hnone : egress'.artifacts.lease id maxBlobs = none := by
        apply lease_none
        rw [hbuilt.artifacts, append_nil]
        exact hleased
      exact ⟨egress', channels', by simp [hnone], (hprogress rfl).resolve_left (ne_of_gt hmaxBlobs)⟩
    | cons artifact rest =>
      right
      obtain ⟨ids, after, hlease, hafter⟩ := lease_blobs hbuilt.artifacts
        hleased hbuilt.ready hblobs (by simp) hlength id
      refine ⟨⟨id, .blobs ((artifact :: rest).map (·.payload.frames))⟩,
        ⟨after, insertPending egress'.pending id ids⟩, channels',
        by simp [hlease], hafter, hbuilt.draining, ?_, by simp [frameGroups], ?_, hbuilt.range⟩
      · simpa [frameGroups] using hbuilt.nonempty
      · rw [hbuilt.frames]
        rfl

theorem nextSubmission_calldata :
    Drains (calldataBudget maxFrameSize hsize) maxFrameSize l1Head channels
      (egress.nextSubmission channels .calldata l1Head maxBlobs id) := by
  rw [nextSubmission_of_build hleased]
  rcases buildCalldata_built hsize hdraining maxBlobs egress with
    ⟨hnone, hout⟩ | ⟨egress', channels', added, hbuild, hbuilt, hadded⟩
  · exact .inl ⟨by rw [hnone]; rfl, hout⟩
  · rw [hbuild]
    right
    rcases hadded with ⟨rfl, hqueue⟩ | ⟨artifact, frame, rfl, hpayload⟩
    · left
      have hnone : egress'.artifacts.lease id maxBlobs = none := by
        apply lease_none
        rw [hbuilt.artifacts, append_nil]
        exact hleased
      exact ⟨egress', channels', by simp [hnone], hqueue⟩
    · right
      obtain ⟨ids, after, hlease, hafter⟩ := lease_calldata hbuilt.artifacts
        hleased (hbuilt.ready artifact mem_cons_self) hpayload maxBlobs id
      refine ⟨⟨id, .calldata frame⟩, ⟨after, insertPending egress'.pending id ids⟩, channels',
        by simp [hlease], hafter, hbuilt.draining, by simp [frameGroups],
        by simp [frameGroups], ?_, hbuilt.range⟩
      rw [hbuilt.frames]
      simp [hpayload, frames, frameGroups]

theorem nextSubmission_drains (daType : DaType) (hmaxBlobs : 0 < maxBlobs) :
    Drains (daType.budget maxFrameSize hsize) maxFrameSize l1Head channels
      (egress.nextSubmission channels daType l1Head maxBlobs id) := by
  cases daType with
  | blob => exact nextSubmission_blob hsize hdraining hleased id hmaxBlobs
  | calldata => exact nextSubmission_calldata hsize hdraining hleased id

end DaEgress

end BaseChain
