/-
The frame queue of derivation.  Frames are loaded one payload at a time and,
from Holocene on, pruned so that every frame continues the one before it.
-/
import BaseChain.Frame
import BaseChain.RollupConfig
import Mathlib.Data.List.Chain

namespace BaseChain

namespace FrameQueue

/-- One turn of the pruning loop at an index; `none` ends the loop.  The queue
is never empty here, since a payload without a frame is not parsed. -/
def pruneTurn (queue : List Frame) (index : Nat) : Option (List Frame × Nat) :=
  match queue[index]?, queue[index + 1]? with
  | some prevFrame, some nextFrame =>
    let extendsChannel := prevFrame.id = nextFrame.id
    if extendsChannel ∧ prevFrame.number + 1 ≠ nextFrame.number then
      some (queue.eraseIdx (index + 1), index)
    else if extendsChannel ∧ prevFrame.isLast then
      some (queue.eraseIdx (index + 1), index)
    else if ¬ extendsChannel ∧ nextFrame.number ≠ 0 then
      some (queue.eraseIdx (index + 1), index)
    else if ¬ extendsChannel ∧ ¬ prevFrame.isLast ∧ nextFrame.number = 0 then
      -- the unfinished channel is walked back and dropped
      let firstFrame := queue.findIdx (·.id = prevFrame.id)
      some (queue.take firstFrame ++ queue.drop (index + 1), index - (index + 1 - firstFrame))
    else
      some (queue, index + 1)
  | _, _ => none

def pruneLoop : Nat → List Frame → Nat → List Frame
  | 0, queue, _ => queue
  | turns + 1, queue, index =>
    match pruneTurn queue index with
    | none => queue
    | some (queue, index) => pruneLoop turns queue index

variable (cfg : RollupConfig) (origin : BlockInfo)

/-- Every turn shortens the queue or advances in it, so twice the length is
enough turns. -/
def prune (queue : List Frame) : List Frame := if cfg.isHoloceneActive origin.timestamp then
    pruneLoop (2 * queue.length) queue 0
  else
    queue

/-- Data is only loaded into an empty queue; data that does not parse leaves it
empty. -/
def loadFrames (queue : List Frame) (data : Bytes) : List Frame := if queue.isEmpty then
    match Frame.parseFrames data with
    | .error _ => queue
    | .ok frames => prune cfg origin (queue ++ frames)
  else
    queue

/-- A frame that continues its channel, or starts the next one after the
channel before it is finished. -/
def Linked (prevFrame nextFrame : Frame) : Prop :=
  (prevFrame.id = nextFrame.id ∧ nextFrame.number = prevFrame.number + 1 ∧
      prevFrame.isLast = false) ∨
    (prevFrame.id ≠ nextFrame.id ∧ nextFrame.number = 0 ∧ prevFrame.isLast = true)

variable {queue : List Frame}

theorem pruneTurn_of_linked (hlinked : queue.IsChain Linked) (index : Nat) :
    pruneTurn queue index = none ∨ pruneTurn queue index = some (queue, index + 1) := by
  unfold pruneTurn
  split
  · rename_i prevFrame nextFrame hprev hnext
    right
    obtain ⟨hlt, hnextGet⟩ := List.getElem?_eq_some_iff.mp hnext
    obtain ⟨_, hprevGet⟩ := List.getElem?_eq_some_iff.mp hprev
    have hpair := List.isChain_iff_getElem.mp hlinked index hlt
    rw [hprevGet, hnextGet] at hpair
    rcases hpair with ⟨hid, hnumber, hlast⟩ | ⟨hid, hnumber, hlast⟩
    · simp [hid, hnumber, hlast]
    · simp [hid, hnumber, hlast]
  · exact .inl rfl

theorem pruneLoop_of_linked (hlinked : queue.IsChain Linked) (turns index : Nat) :
    pruneLoop turns queue index = queue := by
  induction turns generalizing index with
  | zero => rfl
  | succ turns ih =>
    rw [pruneLoop]
    rcases pruneTurn_of_linked hlinked index with hturn | hturn
    · rw [hturn]
    · rw [hturn]
      exact ih (index + 1)

/-- Pruning keeps a linked queue as it is. -/
theorem prune_of_linked (hlinked : queue.IsChain Linked) : prune cfg origin queue = queue := by
  unfold prune
  split
  · exact pruneLoop_of_linked hlinked _ _
  · rfl

theorem loadFrames_of_linked {data : Bytes} {frames : List Frame}
    (hparse : Frame.parseFrames data = .ok frames)
    (hlinked : frames.IsChain Linked) :
    loadFrames cfg origin [] data = frames := by
  simp only [loadFrames, hparse]
  exact prune_of_linked cfg origin hlinked

end FrameQueue

end BaseChain
