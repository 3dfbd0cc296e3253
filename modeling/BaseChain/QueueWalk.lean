/-
Walks over a queue: the states that a receiver goes through when it takes the messages of
the queue one after the other.
-/
import Mathlib.Logic.Relation

namespace BaseChain

variable {State Message : Type*}

inductive QueueWalk (step : State → Message → State → Prop) : State → List Message → State → Prop
  | nil (state : State) : QueueWalk step state [] state
  | cons {state next last : State} {message : Message} {rest : List Message}
      (hstep : step state message next) (hwalk : QueueWalk step next rest last) :
      QueueWalk step state (message :: rest) last

namespace QueueWalk

variable {step : State → Message → State → Prop} {state middle last : State}
  {queue later : List Message}

theorem append (hwalk : QueueWalk step state queue middle)
    (hlater : QueueWalk step middle later last) :
    QueueWalk step state (queue ++ later) last := by
  induction hwalk with
  | nil => exact hlater
  | cons hstep _ ih => exact .cons hstep (ih hlater)

theorem mono {other : State → Message → State → Prop}
    (hother : ∀ {state message next}, step state message next → other state message next)
    (hwalk : QueueWalk step state queue last) : QueueWalk other state queue last := by
  induction hwalk with
  | nil => exact .nil _
  | cons hstep _ ih => exact .cons (hother hstep) ih

/-- What every step keeps, a walk keeps. -/
theorem keeps {motive : State → Prop}
    (hkeeps : ∀ {state message next}, step state message next → motive state → motive next)
    (hwalk : QueueWalk step state queue last) (hstart : motive state) :
    motive last := by
  induction hwalk with
  | nil => exact hstart
  | cons hstep _ ih => exact ih (hkeeps hstep hstart)

/-- A walk can be followed from every state that simulates its start. -/
theorem simulates {simulation : State → State → Prop}
    (hsimulates : ∀ {state other message next}, simulation state other →
      step state message next → ∃ after, step other message after ∧ simulation next after)
    (hwalk : QueueWalk step state queue last) {other : State}
    (hother : simulation state other) :
    ∃ after, QueueWalk step other queue after ∧ simulation last after := by
  induction hwalk generalizing other with
  | nil => exact ⟨other, .nil other, hother⟩
  | cons hstep _ ih =>
    obtain ⟨next, hnext, hsimulation⟩ := hsimulates hother hstep
    obtain ⟨after, hafter, hlast⟩ := ih hsimulation
    exact ⟨after, .cons hnext hafter, hlast⟩

end QueueWalk

end BaseChain
