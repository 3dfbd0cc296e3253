/-
The choice of the next batch in the batch queue.  The code goes over the stored
batches with a list of decisions beside them and applies it when it stops; here
that loop is compared with what it selects.
-/
import BaseChain.BatchQueue
import BaseChain.BatchValidatorRuns

namespace BaseChain

open List Function PipelineError

namespace BatchQueue

/-- A stored batch with the outcome of its check, which is `none` if it panics. -/
abbrev Judged := BatchWithInclusionBlock × Option BatchValidity

/-- Apply the decisions to the batches at their places; a batch without a
decision stays. -/
def retain : List Bool → List BatchWithInclusionBlock → List BatchWithInclusionBlock
  | keep :: retention, data :: batches =>
    if keep then data :: retain retention batches else retain retention batches
  | _, batches => batches

variable (holocene : Bool)

/-- The loop over the stored batches.  There is a decision for every batch that
was passed, so their number is the index of the next one. -/
def search (judged : List Judged) : Nat → List Bool → Option Sweep
  | 0, retention => some (.exhausted (retain retention (judged.map Prod.fst)))
  | turns + 1, retention =>
    match judged[retention.length]? with
    | none => some (.exhausted (retain retention (judged.map Prod.fst)))
    | some (data, validity) =>
      match validity with
      | none => none
      | some .future => search judged turns (retention ++ [!holocene])
      | some (.drop _) => search judged turns (retention ++ [false])
      -- the accepted batch is removed before the decisions are applied
      | some .accept => some (.accepted data.batch
          (retain retention ((judged.map Prod.fst).eraseIdx retention.length)))
      | some .undecided => some (.undecided (retain retention (judged.map Prod.fst)))
      | some .past =>
        if holocene then search judged turns (retention ++ [false]) else some .past

/-- A batch that is passed stays only as a future one before Holocene. -/
def keeps : Judged → Bool
  | (_, some .future) => !holocene
  | _ => false

/-- The search goes on after a batch. -/
def passes : Judged → Bool
  | (_, some .future) => true
  | (_, some (.drop _)) => true
  | (_, some .past) => holocene
  | _ => false

/-- The batches that stay of those that were passed. -/
def kept (before : List Judged) : List BatchWithInclusionBlock :=
  (before.filter (keeps holocene)).map Prod.fst

/-- How the search ends at a batch that it cannot pass. -/
def stop (before : List Judged) (entry : Judged) (rest : List Judged) : Option Sweep :=
  match entry.2 with
  | some .accept => some (.accepted entry.1.batch (kept holocene before ++ rest.map Prod.fst))
  | some .undecided => some (.undecided (kept holocene before ++ entry.1 :: rest.map Prod.fst))
  | some _ => some .past
  | none => none

/-- What the search selects: it stops at the first batch that it cannot pass. -/
inductive Selects : List Judged → Option Sweep → Prop
  | stopped {before rest : List Judged} {entry : Judged} (hbefore : before.all (passes holocene))
      (hentry : passes holocene entry = false) :
      Selects (before ++ entry :: rest) (stop holocene before entry rest)
  | exhausted {judged : List Judged} (hall : judged.all (passes holocene)) :
      Selects judged (some (.exhausted (kept holocene judged)))

theorem retain_map_keeps (before : List Judged) (rest : List BatchWithInclusionBlock) :
    retain (before.map (keeps holocene)) (before.map Prod.fst ++ rest) =
      kept holocene before ++ rest := by
  induction before with
  | nil => cases rest <;> rfl
  | cons _ _ ih =>
    rw [map_cons, map_cons, cons_append, retain, ih, kept, kept, filter_cons]
    split <;> rfl

theorem search_zero (before : List Judged) :
    search holocene before 0 (before.map (keeps holocene)) =
      some (.exhausted (kept holocene before)) := by
  have hretain := retain_map_keeps holocene before []
  rw [append_nil, append_nil] at hretain
  rw [search, hretain]

/-- One turn of the loop after the batches that were passed. -/
theorem search_append (before : List Judged) (entry : Judged) (rest : List Judged) (turns : Nat) :
    search holocene (before ++ entry :: rest) (turns + 1) (before.map (keeps holocene)) =
      if passes holocene entry then
        search holocene (before ++ [entry] ++ rest) turns ((before ++ [entry]).map (keeps holocene))
      else stop holocene before entry rest := by
  obtain ⟨data, validity⟩ := entry
  have hqueue := retain_map_keeps holocene before (data :: rest.map Prod.fst)
  have hrest := retain_map_keeps holocene before (rest.map Prod.fst)
  rw [search, length_map, getElem?_append_right (le_refl _), Nat.sub_self, getElem?_cons_zero,
    append_assoc, singleton_append, map_append, map_append, map_singleton, map_cons]
  rcases validity with _ | validity
  · rfl
  cases validity with
  | accept =>
    rw [eraseIdx_append_of_length_le (by rw [length_map]), length_map, Nat.sub_self,
      eraseIdx_cons_zero, hrest]
    rfl
  | undecided => exact congrArg (fun batches => some (Sweep.undecided batches)) hqueue
  | drop reason | future => rfl
  | past => cases holocene <;> rfl

theorem search_selects {before : List Judged} (hbefore : before.all (passes holocene))
    (rest : List Judged) : Selects holocene (before ++ rest)
      (search holocene (before ++ rest) rest.length (before.map (keeps holocene))) := by
  induction rest generalizing before with
  | nil =>
    rw [append_nil, length_nil, search_zero]
    exact .exhausted hbefore
  | cons _ _ ih =>
    rw [length_cons, search_append]
    split
    · rename_i hentry
      rw [← singleton_append, ← append_assoc]
      exact ih (by simp [hbefore, hentry])
    · rename_i hentry
      exact .stopped hbefore (Bool.eq_false_of_not_eq_true hentry)

/-- The sweep over the batches is the loop of the code. -/
theorem sweep_eq_search (check : BatchWithInclusionBlock → Option BatchValidity)
    (before : List Judged) (rest : List BatchWithInclusionBlock) :
    sweep check holocene (kept holocene before) rest =
      search holocene (before ++ rest.map fun data => (data, check data)) rest.length
        (before.map (keeps holocene)) := by
  induction rest generalizing before with
  | nil =>
    rw [map_nil, append_nil, length_nil, search_zero]
    rfl
  | cons data _ ih =>
    have hnext := ih (before ++ [(data, check data)])
    rw [kept, filter_append, map_append, ← kept] at hnext
    rw [length_cons, map_cons, search_append, sweep, ← hnext]
    rcases check data with _ | validity
    · rfl
    cases validity with
    | accept | undecided => simp [passes, stop, comp_def]
    | drop => simp [passes, keeps]
    | future | past => cases holocene <;> simp [passes, keeps, stop]

/-- The queue derives the first batch it cannot pass if that one is accepted,
whatever the outcomes of the checks, and its queue loses exactly the batches
before it that do not stay. -/
theorem deriveNextBatch_selects (cfg : RollupConfig) (around : Surroundings) (parent : L2BlockInfo)
    (empty : Bool) (stage : BatchQueue) :
    (∀ holocene judged, Selects holocene judged (search holocene judged judged.length [])) ∧
    ∀ epoch rest origin, stage.l1Blocks = epoch :: rest → epochMismatch parent epoch = false →
      stage.origin = some origin → deriveNextBatch cfg around parent empty stage =
        match search (cfg.isHoloceneActive origin.timestamp)
          (stage.batches.map fun data =>
            (data, data.checkBatch cfg (epoch :: rest) parent around.fetcher))
          stage.batches.length [] with
        | none => none
        | some (.accepted batch batches) => some (.ok batch, { stage with batches })
        | some (.undecided batches) => some (eof.temp, { stage with batches })
        | some .past => some (invalidBatchValidity.crit, stage)
        | some (.exhausted batches) =>
          closeEpoch cfg parent empty epoch rest origin { stage with batches } := by
  constructor
  · exact fun holocene judged => @search_selects holocene [] rfl judged
  · intro epoch rest origin hblocks hepoch horigin
    have hsweep := sweep_eq_search (cfg.isHoloceneActive origin.timestamp)
      (·.checkBatch cfg (epoch :: rest) parent around.fetcher) [] stage.batches
    rw [nil_append, map_nil] at hsweep
    unfold deriveNextBatch
    rw [hblocks]
    dsimp only
    rw [hepoch, horigin, ← hsweep]
    rfl

section Sample

open BatchValidator

theorem deriveNextBatch_selects_sample :
    deriveNextBatch sampleConfig (sampleCall 10 eof.temp) sampleParent false
      { BatchQueue.reset (some (sampleChain 10)) with
        batches := [⟨sampleChain 10, .single (sampleBatch 10)⟩] } =
      some (.ok (.single (sampleBatch 10)), BatchQueue.reset (some (sampleChain 10))) := by
  rw [(deriveNextBatch_selects sampleConfig _ sampleParent false _).2 (sampleChain 10) []
    (sampleChain 10) rfl (by decide) rfl]
  decide +kernel

end Sample

end BatchQueue

end BaseChain
