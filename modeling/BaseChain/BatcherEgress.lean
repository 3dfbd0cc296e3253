/-
The batcher's egress: immutable artifacts built from channel output, the
ledger of their submission state, and the planner that cuts frames for a blob
or a calldata transaction.
-/
import BaseChain.BatcherChannel
import BaseChain.Saturation

namespace BaseChain

abbrev ArtifactId := Nat

abbrev SubmissionId := Nat

inductive ArtifactState where
  | ready
  | pending
  | confirmed
deriving Repr, DecidableEq

inductive DaArtifactPayload where
  | blob (frames : List Frame)
  | calldata (frame : Frame)
deriving DecidableEq

namespace DaArtifactPayload

def frames : DaArtifactPayload → List Frame
  | .blob frames => frames
  | .calldata frame => [frame]

def isBlob : DaArtifactPayload → Bool
  | .blob _ => true
  | .calldata _ => false

end DaArtifactPayload

structure DaArtifact where
  id : ArtifactId
  payload : DaArtifactPayload
  channelIds : List ChannelId
  state : ArtifactState
deriving DecidableEq

inductive SubmissionPayload where
  | blobs (blobs : List (List Frame))
  | calldata (frame : Frame)
deriving DecidableEq

structure BatchSubmission where
  id : SubmissionId
  payload : SubmissionPayload
deriving DecidableEq

structure DaArtifacts where
  artifacts : List DaArtifact
  nextId : Nat

namespace DaArtifacts

def new : DaArtifacts := { artifacts := [], nextId := 0 }

variable (ledger : DaArtifacts)

def push (payload : DaArtifactPayload) (channelIds : List ChannelId) : DaArtifacts :=
  { artifacts := ledger.artifacts ++
      [{ id := ledger.nextId, payload := payload, channelIds := channelIds,
         state := .ready }]
    nextId := ledger.nextId + 1 }

def hasReady : Bool := ledger.artifacts.any (·.state = .ready)

def readyBlobCount : Nat := (ledger.artifacts.filter
    fun artifact => artifact.state = .ready && artifact.payload.isBlob).length

variable (artifacts : List DaArtifact)

/-- Mark the artifacts at the given positions as leased. -/
def markPending (indexes : List Nat) : List DaArtifact := artifacts.mapIdx fun index artifact =>
    if index ∈ indexes then { artifact with state := .pending } else artifact

variable (firstReady maximum : Nat)

/-- The ready blob artifacts from a position on, up to the first ready
calldata artifact and at most `maximum` of them. -/
def leasedBlobs : List (DaArtifact × Nat) := (((artifacts.zipIdx.drop firstReady).filter
    (·.1.state = .ready)).takeWhile (·.1.payload.isBlob)).take maximum

variable (submissionId : SubmissionId)

def leaseBlobs : (BatchSubmission × List ArtifactId) × DaArtifacts :=
  let leased := leasedBlobs ledger.artifacts firstReady maximum
  (({ id := submissionId
      payload := .blobs (leased.map (·.1.payload.frames)) },
    leased.map (·.1.id)),
    { ledger with
      artifacts := markPending ledger.artifacts (leased.map (·.2)) })

def leaseCalldata (index : Nat) (artifact : DaArtifact)
    (frame : Frame) (submissionId : SubmissionId) :
    (BatchSubmission × List ArtifactId) × DaArtifacts :=
  (({ id := submissionId, payload := .calldata frame }, [artifact.id]),
    { ledger with artifacts := markPending ledger.artifacts [index] })

/-- Lease the first ready artifacts of one kind to a submission. -/
def lease (maxBlobs : Nat) : Option ((BatchSubmission × List ArtifactId) × DaArtifacts) :=
  match ledger.artifacts.zipIdx.find? (·.1.state = .ready) with
  | none => none
  | some (artifact, firstReady) =>
    match artifact.payload with
    | .blob _ => some (ledger.leaseBlobs firstReady maxBlobs submissionId)
    | .calldata frame =>
      some (ledger.leaseCalldata firstReady artifact frame submissionId)

variable (artifactIds : List ArtifactId)

def allPending : Bool := artifactIds.all fun id =>
    ledger.artifacts.any fun artifact =>
      artifact.id = id && artifact.state = .pending

/-- Set the state of the selected artifacts. -/
def setState (state : ArtifactState) : DaArtifacts :=
  { ledger with
    artifacts := ledger.artifacts.map fun artifact =>
      if artifact.id ∈ artifactIds then { artifact with state := state }
      else artifact }

def confirm : List ChannelId × DaArtifacts :=
  let selected := ledger.artifacts.filter (·.id ∈ artifactIds)
  ((selected.flatMap (·.channelIds)).foldl pushNew [], ledger.setState artifactIds .confirmed)

def requeue :
    DaArtifacts :=
  ledger.setState artifactIds .ready

/-- All artifacts of a channel have landed, and there is at least one. -/
def allConfirmedFor (channelId : ChannelId) : Bool :=
  let artifacts := ledger.artifacts.filter (channelId ∈ ·.channelIds)
  !artifacts.isEmpty && artifacts.all (·.state = .confirmed)

def pruneChannels (channelIds : List ChannelId) :
    DaArtifacts :=
  { ledger with
    artifacts := (ledger.artifacts.map fun artifact =>
      { artifact with
        channelIds := artifact.channelIds.filter (· ∉ channelIds) }).filter
          fun artifact => !artifact.channelIds.isEmpty }

def invalidate :
    DaArtifacts :=
  { ledger with
    artifacts := ledger.artifacts.filter (·.id ∉ artifactIds) }

def contains (artifactId : ArtifactId) : Bool := ledger.artifacts.any (·.id = artifactId)

/-- Dropping every artifact keeps the identifier counter. -/
def clear : DaArtifacts := { ledger with artifacts := [] }

end DaArtifacts

/-- The artifacts and the live submissions that lease them. -/
structure DaEgress where
  artifacts : DaArtifacts
  pending : List (SubmissionId × List ArtifactId)

/-- A frame that a plan asks a channel for. -/
structure PlannedFrame where
  channelId : ChannelId
  dataLen : Nat
  isLast : Bool
deriving DecidableEq

/-- The running values of the planner inside one channel. -/
structure PlanCursor where
  available : Nat
  terminalPending : Bool
  remaining : Nat
  frames : List PlannedFrame

namespace DaEgress

variable {brotli : BrotliWriter} (egress : DaEgress)

def blobCapacity : Nat := blobMaxDataSize - blobDerivationPrefixSize

def new : DaEgress := { artifacts := DaArtifacts.new, pending := [] }

variable (channel : BatcherChannel brotli)

/-- The next data frame of a channel at a cursor. -/
def planDataFrame (cursor : PlanCursor) :
    PlannedFrame :=
  let dataCapacity := min (cursor.remaining - Frame.encodedOverhead)
    channel.maxFrameData
  let dataLen := min cursor.available dataCapacity
  { channelId := channel.id
    dataLen := dataLen
    isLast := dataLen = cursor.available && cursor.terminalPending }

/-- The cursor behind a planned frame. -/
def advance (cursor : PlanCursor) (planned : PlannedFrame) : PlanCursor :=
  { available := cursor.available - planned.dataLen
    terminalPending := if planned.isLast then false else cursor.terminalPending
    remaining := cursor.remaining - (Frame.encodedOverhead + planned.dataLen)
    frames := cursor.frames ++ [planned] }

/-- The data-frame loop of `plan_channel_frames`.  Every turn plans at least
one byte when frames can hold one, so a turn for each available byte is
enough. -/
def planDataFrames (channel : BatcherChannel brotli) : Nat → PlanCursor → PlanCursor
  | 0, cursor => cursor
  | turns + 1, cursor =>
    if cursor.available > 0 ∧ cursor.remaining > Frame.encodedOverhead then
      let planned := planDataFrame channel cursor
      if planned.isLast then advance cursor planned
      else planDataFrames channel turns (advance cursor planned)
    else
      cursor

/-- Plan the frames of one channel into the rest of a blob; the flag says
whether the channel is then completely framed. -/
def planChannelFrames (remaining : Nat)
    (frames : List PlannedFrame) : Bool × Nat × List PlannedFrame :=
  let cursor := planDataFrames channel channel.availableOutput
    { available := channel.availableOutput
      terminalPending := channel.terminalPending
      remaining := remaining
      frames := frames }
  -- an empty stream still needs its terminal frame
  if cursor.available = 0 ∧ cursor.terminalPending ∧ cursor.remaining ≥ Frame.encodedOverhead then
    (!channel.isOpen, cursor.remaining - Frame.encodedOverhead,
      cursor.frames ++ [⟨channel.id, 0, true⟩])
  else
    (!channel.isOpen && cursor.available = 0 && !cursor.terminalPending,
      cursor.remaining, cursor.frames)

/-- The walk of `plan_blob` over the channels. -/
def planWalk (l1Head : Nat) : List (BatcherChannel brotli) → Nat → Bool → List PlannedFrame →
      Nat × Bool × List PlannedFrame
  | [], remaining, releaseDue, frames => (remaining, releaseDue, frames)
  | channel :: channels, remaining, releaseDue, frames =>
    if channel.framingComplete then
      planWalk l1Head channels remaining releaseDue frames
    else
      let (complete, remaining', frames') := planChannelFrames channel remaining frames
      let releaseDue' := if frames'.length > frames.length && !channel.isOpen then
          releaseDue || channel.deadlineDue l1Head
        else releaseDue
      if complete then planWalk l1Head channels remaining' releaseDue' frames'
      else (remaining', releaseDue', frames')

variable (channels : List (BatcherChannel brotli))

def planBlob (l1Head : Nat) : Option (List PlannedFrame) :=
  let (remaining, releaseDue, frames) := planWalk l1Head channels blobCapacity false []
  if frames.isEmpty then
    none
  else if remaining < Frame.encodedOverhead + 1 || releaseDue then
    some frames
  else
    none

/-- Only the first unfinished channel may emit calldata. -/
def planCalldata : List (BatcherChannel brotli) → Option PlannedFrame
  | [] => none
  | channel :: channels =>
    if channel.framingComplete then
      planCalldata channels
    else
      let available := channel.availableOutput
      if available ≥ channel.maxFrameData then
        let dataLen := channel.maxFrameData
        some ⟨channel.id, dataLen, dataLen = available && channel.terminalPending⟩
      else if channel.terminalPending then
        some ⟨channel.id, available, true⟩
      else
        none

/-- Cut one planned frame from the channel it names. -/
def commitFrame (plan : PlannedFrame) : List (BatcherChannel brotli) →
    MayPanic (Frame × List (BatcherChannel brotli))
  | [] => none
  | channel :: channels =>
    if channel.id = plan.channelId then
      match channel.takeFrame plan.dataLen plan.isLast with
      | some (.ok (frame, channel)) => some (frame, channel :: channels)
      | _ => none
    else
      (commitFrame plan channels).map fun (frame, channels) => (frame, channel :: channels)

def commitFrames : List PlannedFrame → List (BatcherChannel brotli) →
    MayPanic (List Frame × List (BatcherChannel brotli))
  | [], channels => some ([], channels)
  | plan :: plans, channels => do
      let (frame, channels) ← commitFrame plan channels
      let (frames, channels) ← commitFrames plans channels
      return (frame :: frames, channels)

def commitBlob (plan : List PlannedFrame) : MayPanic (DaEgress × List (BatcherChannel brotli)) := do
  let (frames, channels) ← commitFrames plan channels
  let channelIds := (plan.map (·.channelId)).foldl pushNew []
  return ({ egress with
    artifacts := egress.artifacts.push (.blob frames) channelIds }, channels)

def commitCalldata (plan : PlannedFrame) : MayPanic (DaEgress × List (BatcherChannel brotli)) := do
  let (frame, channels) ← commitFrame plan channels
  return ({ egress with
    artifacts := egress.artifacts.push (.calldata frame) [plan.channelId] },
    channels)

/-- The blob loop of `build_ready_artifacts`.  Every turn adds a ready blob, so
`max_blobs` turns are enough. -/
def buildBlobs (l1Head maxBlobs : Nat) : Nat → DaEgress → List (BatcherChannel brotli) →
    MayPanic (DaEgress × List (BatcherChannel brotli))
  | 0, egress, channels => some (egress, channels)
  | turns + 1, egress, channels =>
    if egress.artifacts.readyBlobCount < maxBlobs then
      match planBlob channels l1Head with
      | none => some (egress, channels)
      | some plan => do
          let (egress, channels) ← egress.commitBlob channels plan
          buildBlobs l1Head maxBlobs turns egress channels
    else
      some (egress, channels)

variable (daType : DaType) (l1Head maxBlobs : Nat)

def buildReadyArtifacts : MayPanic (DaEgress × List (BatcherChannel brotli)) := match daType with
  | .blob => buildBlobs l1Head maxBlobs maxBlobs egress channels
  | .calldata =>
    match planCalldata channels with
    | none => some (egress, channels)
    | some plan => egress.commitCalldata channels plan

/-- The guard of `next_submission`: nothing is built while an artifact is
ready. -/
def ensureReadyArtifacts : MayPanic (DaEgress × List (BatcherChannel brotli)) :=
  if egress.artifacts.hasReady then some (egress, channels)
  else egress.buildReadyArtifacts channels daType l1Head maxBlobs

/-- Insert a live submission. -/
def insertPending (pending : List (SubmissionId × List ArtifactId))
    (id : SubmissionId) (artifactIds : List ArtifactId) :
    List (SubmissionId × List ArtifactId) :=
  pending.filter (·.1 ≠ id) ++ [(id, artifactIds)]

def nextSubmission (l1Head maxBlobsPerTx : Nat) (id : SubmissionId) :
    MayPanic (Option BatchSubmission × DaEgress × List (BatcherChannel brotli)) := do
  let (egress, channels) ← egress.ensureReadyArtifacts channels daType l1Head maxBlobsPerTx
  match egress.artifacts.lease id maxBlobsPerTx with
  | none => return (none, egress, channels)
  | some ((submission, artifactIds), artifacts) =>
    return (some submission,
      { artifacts := artifacts
        pending := insertPending egress.pending id artifactIds }, channels)

/-- Take a live submission out of the ledger. -/
def removePending (id : SubmissionId) : Option (List ArtifactId × DaEgress) :=
  match egress.pending.find? (·.1 = id) with
  | none => none
  | some (_, artifactIds) =>
    some (artifactIds, { egress with pending := egress.pending.filter (·.1 ≠ id) })

def confirm (id : SubmissionId) : Option (List ChannelId) × DaEgress :=
  match egress.removePending id with
  | none => (none, egress)
  | some (artifactIds, egress) =>
    if egress.artifacts.allPending artifactIds then
      let (channelIds, artifacts) := egress.artifacts.confirm artifactIds
      (some channelIds, { egress with artifacts := artifacts })
    else
      (none, egress)

def requeue (id : SubmissionId) : DaEgress := match egress.removePending id with
  | none => egress
  | some (artifactIds, egress) =>
    if egress.artifacts.allPending artifactIds then
      { egress with artifacts := egress.artifacts.requeue artifactIds }
    else
      egress

def channelFullyConfirmed : Bool :=
  channel.framingComplete && egress.artifacts.allConfirmedFor channel.id

def retainExistingPendingArtifacts : DaEgress :=
  { egress with
    pending := (egress.pending.map fun (id, artifactIds) =>
      (id, artifactIds.filter egress.artifacts.contains)).filter fun entry => !entry.2.isEmpty }

def pruneChannels (channelIds : List ChannelId) :
    DaEgress :=
  ({ egress with
    artifacts := egress.artifacts.pruneChannels channelIds }).retainExistingPendingArtifacts

def invalidateArtifacts (artifactIds : List ArtifactId) :
    DaEgress :=
  { artifacts := egress.artifacts.invalidate artifactIds
    pending := egress.pending.filter fun entry => !entry.2.any (· ∈ artifactIds) }

variable (affected : List ArtifactId)

/-- One live submission of `extend_with_submission_artifacts`. -/
def extendWithSubmission (entry : SubmissionId × List ArtifactId) : List ArtifactId :=
  if entry.2.any (· ∈ affected) then entry.2.foldl pushNew affected
  else affected

/-- Add every artifact that shares a live submission with an affected one. -/
def extendWithSubmissionArtifacts : List ArtifactId :=
  egress.pending.foldl extendWithSubmission affected

def reset : DaEgress := { artifacts := egress.artifacts.clear, pending := [] }

section Committing

variable {β : Type} (view : BatcherChannel brotli → β)

section

variable (hview : ∀ channel channel' frame dataLen isLast,
  BatcherChannel.takeFrame channel dataLen isLast = some (.ok (frame, channel')) →
    view channel' = view channel)
include hview

variable {channels' channels : List (BatcherChannel brotli)}

/-- What cutting a frame keeps in a channel, a commit keeps in all of them. -/
theorem commitFrame_map {plan : PlannedFrame} {frame : Frame}
    (hcommit : commitFrame plan channels = some (frame, channels')) :
    channels'.map view = channels.map view := by
  induction channels generalizing channels' with
  | nil => cases hcommit
  | cons channel channels ih =>
    rw [commitFrame] at hcommit
    split at hcommit
    · split at hcommit
      · rename_i cut channel' htake
        cases hcommit
        rw [List.map_cons, List.map_cons, hview _ _ _ _ _ htake]
      · cases hcommit
    · obtain ⟨⟨cut, rest⟩, hrest, hpair⟩ := Option.map_eq_some_iff.mp hcommit
      cases hpair
      rw [List.map_cons, List.map_cons, ih hrest]

theorem commitFrames_map {plans : List PlannedFrame} {frames : List Frame}
    (hcommit : commitFrames plans channels = some (frames, channels')) :
    channels'.map view = channels.map view := by
  induction plans generalizing channels frames with
  | nil =>
    cases hcommit
    rfl
  | cons plan plans ih =>
    obtain ⟨⟨frame, middle⟩, hframe, hcommit⟩ := Option.bind_eq_some_iff.mp hcommit
    obtain ⟨⟨rest, last⟩, hrest, hpair⟩ := Option.bind_eq_some_iff.mp hcommit
    cases hpair
    rw [ih hrest, commitFrame_map view hview hframe]

end

end Committing

variable {channels' : List (BatcherChannel brotli)} {egress' : DaEgress}
  {channels : List (BatcherChannel brotli)} {egress : DaEgress}

theorem commitBlob_eq_some {plan : List PlannedFrame}
    (hcommit : egress.commitBlob channels plan = some (egress', channels')) :
    ∃ frames, commitFrames plan channels = some (frames, channels') ∧
      egress' = { egress with
        artifacts := egress.artifacts.push (.blob frames)
          ((plan.map (·.channelId)).foldl pushNew []) } := by
  obtain ⟨⟨frames, last⟩, hframes, hpair⟩ := Option.bind_eq_some_iff.mp hcommit
  cases hpair
  exact ⟨frames, hframes, rfl⟩

theorem commitCalldata_eq_some {plan : PlannedFrame}
    (hcommit : egress.commitCalldata channels plan = some (egress', channels')) :
    ∃ frame, commitFrame plan channels = some (frame, channels') ∧
      egress' = { egress with
        artifacts := egress.artifacts.push (.calldata frame) [plan.channelId] } := by
  obtain ⟨⟨frame, last⟩, hframe, hpair⟩ := Option.bind_eq_some_iff.mp hcommit
  cases hpair
  exact ⟨frame, hframe, rfl⟩

end DaEgress

end BaseChain
