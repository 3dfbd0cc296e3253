/-
Pruning from Holocene on, against the scan it is documented as: every frame is
laid on a stack of frames, skipped, or laid down after an unfinished channel was
taken off.
-/
import BaseChain.BatchEncoder
import BaseChain.FrameQueue

namespace BaseChain

open List

namespace FrameQueue

/-- The stack without the frames of an unfinished channel at its top. -/
def dropUnclosed (stack : List Frame) : List Frame := stack.dropWhile fun frame => !frame.isLast

/-- A frame of the scan; the stack has its top first. -/
def scanFrame (stack : List Frame) (frame : Frame) : List Frame := match stack with
  | [] => [frame]
  | top :: _ =>
    if top.id = frame.id then
      if top.isLast ∨ frame.number ≠ top.number + 1 then stack else frame :: stack
    else if frame.number ≠ 0 then stack
    else if top.isLast then frame :: stack
    else frame :: dropUnclosed stack

def scan (queue : List Frame) : List Frame := (queue.foldl scanFrame []).reverse

/-- The loop, which has not ended when the turns run out. -/
def pruneRun : Nat → List Frame → Nat → Option (List Frame)
  | 0, _, _ => none
  | turns + 1, queue, index =>
    match pruneTurn queue index with
    | none => some queue
    | some (queue, index) => pruneRun turns queue index

/-- No channel starts again after a frame that closed it. -/
def NoReuse (queue : List Frame) : Prop := queue.Pairwise fun earlier later =>
    earlier.isLast = true → earlier.id = later.id → later.number ≠ 0

/-- The stacks of the scan: a channel is laid on closed ones that have other ids. -/
inductive Stacked : List Frame → Prop
  | nil : Stacked []
  | start {stack : List Frame} {frame : Frame} (hstacked : Stacked stack)
      (hclosed : ∀ top ∈ stack.head?, top.isLast = true)
      (hids : ∀ other ∈ stack, other.id ≠ frame.id) : Stacked (frame :: stack)
  | extend {top frame : Frame} {below : List Frame} (hstacked : Stacked (top :: below))
      (hid : top.id = frame.id) (hopen : top.isLast = false) : Stacked (frame :: top :: below)

variable {stack below rest : List Frame} {top frame : Frame}

theorem scanFrame_sublist (stack : List Frame) (frame : Frame) :
    scanFrame stack frame <+ frame :: stack := by
  have hskip : stack <+ frame :: stack := sublist_cons_self frame stack
  unfold scanFrame
  split
  · exact Sublist.refl _
  · split_ifs
    · exact hskip
    · exact Sublist.refl _
    · exact hskip
    · exact Sublist.refl _
    · exact (dropWhile_sublist _).cons_cons frame

theorem scanFrame_ne_nil (stack : List Frame) (frame : Frame) : scanFrame stack frame ≠ [] := by
  unfold scanFrame
  split
  · exact nofun
  · split_ifs <;> exact nofun

/-- A turn that takes nothing off does what the scan does. -/
theorem pruneTurn_scan (hkeep : top.id = frame.id ∨ frame.number ≠ 0 ∨ top.isLast = true) :
    pruneTurn ((top :: below).reverse ++ frame :: rest) below.length =
      some ((scanFrame (top :: below) frame).reverse ++ rest,
        (scanFrame (top :: below) frame).length - 1) := by
  have hframe : ((top :: below).reverse ++ frame :: rest)[below.length + 1]? = some frame := by simp
  have herase : ((top :: below).reverse ++ frame :: rest).eraseIdx (below.length + 1) =
      (top :: below).reverse ++ rest := by
    rw [eraseIdx_append_of_length_le (by simp)]
    simp
  rw [pruneTurn, hframe, herase]
  by_cases hid : top.id = frame.id
  · by_cases hnumber : frame.number = top.number + 1
    · cases hlast : top.isLast <;> simp [scanFrame, hid, hnumber, hlast]
    · simp [scanFrame, hid, hnumber, Ne.symm hnumber]
  · by_cases hnumber : frame.number = 0
    · simp [scanFrame, hid, hnumber, (hkeep.resolve_left hid).resolve_left (not_not.mpr hnumber)]
    · simp [scanFrame, hid, hnumber]

theorem dropUnclosed_closed (hclosed : ∀ top ∈ stack.head?, top.isLast = true) :
    dropUnclosed stack = stack := by
  cases stack with
  | nil => rfl
  | cons top => exact dropWhile_cons_of_neg (by simp [hclosed top rfl])

theorem dropUnclosed_open (hopen : top.isLast = false) :
    dropUnclosed (top :: below) = dropUnclosed below := dropWhile_cons_of_pos (by simp [hopen])

theorem head_dropUnclosed (stack : List Frame) :
    ∀ top ∈ (dropUnclosed stack).head?, top.isLast = true := by
  intro top htop
  have hhead := head?_dropWhile_not (fun frame : Frame => !frame.isLast) stack
  rw [show (stack.dropWhile _).head? = some top from htop] at hhead
  simpa using hhead

namespace Stacked

theorem closed (hstacked : Stacked stack) : Stacked (dropUnclosed stack) := by
  induction stack with
  | nil => exact nil
  | cons frame below ih =>
    cases hlast : frame.isLast with
    | true => rwa [dropUnclosed_closed (by simp [hlast])]
    | false =>
      rw [dropUnclosed_open hlast]
      cases hstacked with
      | start hbelow | extend hbelow => exact ih hbelow

/-- An id that no closing frame and not the frame at the top has is not on the stack. -/
theorem ids_ne {id : ChannelId} (hstacked : Stacked stack)
    (hclosing : ∀ other ∈ stack, other.isLast = true → other.id ≠ id)
    (htop : ∀ top ∈ stack.head?, top.id ≠ id) : ∀ other ∈ stack, other.id ≠ id := by
  induction hstacked with
  | nil => exact nofun
  | @start stack frame hstacked hclosed hids ih =>
    refine forall_mem_cons.mpr ⟨htop frame rfl, ih (forall_mem_cons.mp hclosing).2 ?_⟩
    intro top hhead
    exact hclosing top (mem_cons_of_mem _ (mem_of_mem_head? hhead)) (hclosed top hhead)
  | @extend top frame below hstacked hid hopen ih =>
    refine forall_mem_cons.mpr ⟨htop frame rfl, ih (forall_mem_cons.mp hclosing).2 ?_⟩
    rintro _ ⟨⟩
    exact hid.trans_ne (htop frame rfl)

/-- The first frame of the channel at the top is where its unfinished run starts. -/
theorem findIdx_eq (hstacked : Stacked stack) (hstack : stack = top :: below)
    (hopen : top.isLast = false) (rest : List Frame) :
    (stack.reverse ++ rest).findIdx (·.id = top.id) = (dropUnclosed stack).length := by
  induction hstacked generalizing top below rest with
  | nil => cases hstack
  | @start stack frame hstacked hclosed hids ih =>
    cases hstack
    have hbelow : ¬ ∃ other ∈ stack.reverse, decide (other.id = frame.id) = true := by
      rintro ⟨other, hother, hid⟩
      exact hids other (mem_reverse.mp hother) (of_decide_eq_true hid)
    rw [dropUnclosed_open hopen, dropUnclosed_closed hclosed, reverse_cons, append_assoc,
      findIdx_append, if_neg fun hlt => hbelow (findIdx_lt_length.mp hlt)]
    simp [findIdx_cons]
  | @extend next frame below hstacked hid hnext ih =>
    cases hstack
    rw [dropUnclosed_open hopen, reverse_cons, append_assoc, ← hid]
    exact ih rfl hnext _

/-- Before the first frame of another channel an unfinished one is taken off. -/
theorem pruneTurn_drop (hstacked : Stacked (top :: below)) (hopen : top.isLast = false)
    (hid : top.id ≠ frame.id) (hnumber : frame.number = 0) :
    pruneTurn ((top :: below).reverse ++ frame :: rest) below.length =
      some ((dropUnclosed (top :: below)).reverse ++ frame :: rest,
        (dropUnclosed (top :: below)).length - 1) := by
  have htop : ((top :: below).reverse ++ frame :: rest)[below.length]? = some top := by simp
  have hframe : ((top :: below).reverse ++ frame :: rest)[below.length + 1]? = some frame := by simp
  have hfirst := hstacked.findIdx_eq rfl hopen (frame :: rest)
  obtain ⟨run, hrun⟩ : dropUnclosed (top :: below) <:+ top :: below := dropWhile_suffix _
  have hlength := congrArg length hrun
  have htake : ((top :: below).reverse ++ frame :: rest).take (dropUnclosed (top :: below)).length =
        (dropUnclosed (top :: below)).reverse := by
    conv_lhs => rw [← hrun, reverse_append, append_assoc]
    rw [hrun, take_left' length_reverse]
  have hdrop : ((top :: below).reverse ++ frame :: rest).drop (below.length + 1) = frame :: rest :=
    drop_left' (by simp)
  rw [pruneTurn, htop, hframe]
  simp only [hid, hnumber, hopen, hfirst, htake, hdrop, if_false, ne_eq, not_true_eq_false,
    Bool.false_eq_true, not_false_eq_true, false_and, if_true,
    Option.some.injEq, Prod.mk.injEq, true_and]
  rw [length_append, length_cons] at hlength
  omega

theorem scanned (hstacked : Stacked stack) (hreuse : NoReuse (stack.reverse ++ frame :: rest)) :
    Stacked (scanFrame stack frame) := by
  have habove : frame.number = 0 → ∀ other ∈ stack, other.isLast = true → other.id ≠ frame.id :=
    fun hnumber other hother hlast hid => (pairwise_append.mp hreuse).2.2 other
      (mem_reverse.mpr hother) frame mem_cons_self hlast hid hnumber
  unfold scanFrame
  split
  · exact nil.start nofun nofun
  · rename_i top below
    split_ifs with hid hbreak hnumber hlast
    · exact hstacked
    · rw [not_or, Bool.not_eq_true] at hbreak
      exact hstacked.extend hid hbreak.1
    · exact hstacked
    · refine hstacked.start ?_ (hstacked.ids_ne (habove (not_not.mp hnumber)) ?_)
      · rintro _ ⟨⟩
        exact hlast
      · rintro _ ⟨⟩
        exact hid
    · have hclosed := head_dropUnclosed (top :: below)
      have hmem : ∀ other ∈ dropUnclosed (top :: below), other.isLast = true →
          other.id ≠ frame.id := fun other hother =>
        habove (not_not.mp hnumber) other (dropWhile_subset _ hother)
      refine hstacked.closed.start hclosed (hstacked.closed.ids_ne hmem ?_)
      exact fun other hother => hmem other (mem_of_mem_head? hother) (hclosed other hother)

end Stacked

theorem pruneTurn_end (stack : List Frame) : pruneTurn stack.reverse (stack.length - 1) = none := by
  have hend : stack.reverse[stack.length - 1 + 1]? = none :=
    getElem?_eq_none (by rw [length_reverse]; omega)
  rw [pruneTurn, hend]
  cases stack.reverse[stack.length - 1]? <;> rfl

/-- The loop with a stack behind the index does what is left of the scan; a frame
takes two turns at most. -/
theorem pruneRun_scanned {turns : Nat} (hstacked : Stacked stack) (hstack : stack ≠ [])
    (hreuse : NoReuse (stack.reverse ++ rest)) (hturns : 2 * rest.length < turns) :
    pruneRun turns (stack.reverse ++ rest) (stack.length - 1) =
      some (rest.foldl scanFrame stack).reverse := by
  induction rest generalizing stack turns with
  | nil =>
    obtain ⟨turns, rfl⟩ := Nat.exists_eq_add_of_lt hturns
    rw [append_nil, foldl_nil, pruneRun, pruneTurn_end]
  | cons frame rest ih =>
    rw [length_cons] at hturns
    obtain ⟨turns, rfl⟩ := Nat.exists_eq_add_of_le' (show 2 ≤ turns by omega)
    have hsub := (reverse_sublist.mpr (scanFrame_sublist stack frame)).append_right rest
    rw [reverse_cons, append_assoc] at hsub
    have hscanned := hstacked.scanned hreuse
    have hnext := fun room =>
      @ih _ room hscanned (scanFrame_ne_nil stack frame) (hreuse.sublist hsub)
    obtain ⟨top, below, rfl⟩ := exists_cons_of_ne_nil hstack
    rw [foldl_cons, pruneRun, length_cons, Nat.add_sub_cancel]
    by_cases hkeep : top.id = frame.id ∨ frame.number ≠ 0 ∨ top.isLast = true
    · rw [pruneTurn_scan hkeep]
      exact hnext _ (by omega)
    simp only [not_or, not_not, Bool.not_eq_true] at hkeep
    obtain ⟨hid, hnumber, hopen⟩ := hkeep
    rw [hstacked.pruneTurn_drop hopen hid hnumber]
    have hscan : scanFrame (top :: below) frame = frame :: dropUnclosed (top :: below) := by
      simp [scanFrame, hid, hnumber, hopen]
    rw [hscan] at hscanned hnext ⊢
    have hclosed := head_dropUnclosed (top :: below)
    cases hdrop : dropUnclosed (top :: below) with
    | nil =>
      rw [hdrop] at hnext
      exact hnext _ (by omega)
    | cons closing closed =>
      -- the first frame of the channel is compared once more, with the closed one
      rw [hdrop] at hscanned hnext hclosed
      have hlast := hclosed closing rfl
      have hpush : scanFrame (closing :: closed) frame = frame :: closing :: closed := by
        cases hscanned with
        | start _ _ hids => simp [scanFrame, hids closing mem_cons_self, hnumber, hlast]
        | extend _ _ hopen =>
          rw [hlast] at hopen
          cases hopen
      change pruneRun (turns + 1) _ closed.length = _
      rw [pruneRun, pruneTurn_scan (Or.inr (Or.inr hlast)), hpush]
      exact hnext _ (by omega)

/-- A loop that ends was bounded generously enough one turn before. -/
theorem pruneLoop_of_run {turns index : Nat} {queue pruned : List Frame}
    (hrun : pruneRun (turns + 1) queue index = some pruned) :
    pruneLoop turns queue index = pruned := by
  induction turns generalizing queue index with
  | zero =>
    rw [pruneRun] at hrun
    split at hrun
    · exact Option.some.inj hrun
    · cases hrun
  | succ turns ih =>
    rw [pruneRun] at hrun
    rw [pruneLoop]
    cases hturn : pruneTurn queue index with
    | none =>
      rw [hturn] at hrun
      exact Option.some.inj hrun
    | some =>
      rw [hturn] at hrun
      exact ih hrun

def sampleFrame (channel : UInt8) (isLast : Bool) : Frame :=
  ⟨⟨replicate 16 channel, by simp⟩, 0, [], isLast⟩

end FrameQueue

end BaseChain
