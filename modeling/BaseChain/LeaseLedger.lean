/-
The lease ledger of the egress: which artifacts are pending, which live
submission lists them, and that settling, pruning, replaying and resetting
keep the two in step.
-/
import BaseChain.BatchEncoderMoves
import Mathlib.Data.List.Flatten
import Mathlib.Data.List.Nodup
import Mathlib.Data.List.Pairwise

namespace BaseChain

open Function List DaArtifacts

variable {artifactIds : List ArtifactId} {submission : BatchSubmission}

variable {state : ArtifactState} {artifacts : List DaArtifact}

namespace DaArtifacts

variable {ledger : DaArtifacts}

/-- Artifacts are told apart by their ids, so positions and ids mark the
same ones. -/
theorem markPending_eq_setState (hnodup : (ledger.artifacts.map (·.id)).Nodup)
    (leased : List (DaArtifact × Nat)) (hleased : leased ⊆ ledger.artifacts.zipIdx) :
    markPending ledger.artifacts (leased.map (·.2)) =
      (ledger.setState (leased.map (·.1.id)) .pending).artifacts := by
  have hposition : ∀ index (hindex : index < ledger.artifacts.length), index ∈ leased.map (·.2) ↔
        (ledger.artifacts[index]).id ∈ leased.map (·.1.id) := by
    intro index hindex
    simp only [mem_map, Prod.exists]
    constructor
    · rintro ⟨artifact, position, hmem, rfl⟩
      obtain ⟨hlt, hget⟩ := List.getElem?_eq_some_iff.mp (mem_zipIdx_iff_getElem?.mp (hleased hmem))
      exact ⟨artifact, position, hmem, congrArg DaArtifact.id hget.symm⟩
    · rintro ⟨artifact, position, hmem, hid⟩
      obtain ⟨hlt, hget⟩ := List.getElem?_eq_some_iff.mp (mem_zipIdx_iff_getElem?.mp (hleased hmem))
      refine ⟨artifact, position, hmem, ?_⟩
      have hleft : position < (ledger.artifacts.map (·.id)).length := by simpa using hlt
      have hright : index < (ledger.artifacts.map (·.id)).length := by simpa using hindex
      have hsame : (ledger.artifacts.map (·.id))[position] =
          (ledger.artifacts.map (·.id))[index] := by
        rw [getElem_map, getElem_map, hget, hid]
      exact hnodup.getElem_inj_iff.mp hsame
  refine ext_getElem (by simp [markPending, setState]) ?_
  intro index hleft hright
  have hindex : index < ledger.artifacts.length := by simpa [markPending] using hleft
  simp only [markPending, setState, getElem_mapIdx, getElem_map, hposition index hindex]

theorem leasedBlobs_sublist (artifacts : List DaArtifact) (firstReady maximum : Nat) :
    (leasedBlobs artifacts firstReady maximum).Sublist artifacts.zipIdx :=
  (take_sublist _ _).trans ((takeWhile_sublist _).trans (filter_sublist.trans (drop_sublist _ _)))

/-- A lease marks ready artifacts and nothing else. -/
theorem lease_eq_some {after : DaArtifacts}
    (hnodup : (ledger.artifacts.map (·.id)).Nodup) {submissionId : SubmissionId}
    {maxBlobs : Nat}
    (hlease : ledger.lease submissionId maxBlobs = some ((submission, artifactIds), after)) :
    ∃ leased : List DaArtifact, leased.Sublist ledger.artifacts ∧
      (∀ artifact ∈ leased, artifact.state = .ready) ∧
      artifactIds = leased.map (·.id) ∧
      after = ledger.setState artifactIds .pending := by
  unfold lease at hlease
  split at hlease
  · cases hlease
  rename_i artifact firstReady hfind
  split at hlease
  · obtain ⟨hpair, rfl⟩ := Prod.mk.inj (Option.some.inj hlease)
    cases hpair
    have hsublist := leasedBlobs_sublist ledger.artifacts firstReady maxBlobs
    refine ⟨(leasedBlobs ledger.artifacts firstReady maxBlobs).map (·.1), ?_, ?_, ?_, ?_⟩
    · simpa using hsublist.map Prod.fst
    · intro leased hleased
      obtain ⟨pair, hpair, rfl⟩ := mem_map.mp hleased
      have hfilter := ((take_sublist _ _).trans (takeWhile_sublist _)).subset hpair
      simpa using (mem_filter.mp hfilter).2
    · rw [map_map]
      rfl
    · rw [markPending_eq_setState hnodup _ hsublist.subset]
      rfl
  · obtain ⟨hpair, rfl⟩ := Prod.mk.inj (Option.some.inj hlease)
    cases hpair
    have hmem := mem_of_find?_eq_some hfind
    have hmark := markPending_eq_setState hnodup [(artifact, firstReady)] (by simpa using hmem)
    refine ⟨[artifact], ?_, ?_, rfl, ?_⟩
    · refine singleton_sublist.mpr ?_
      exact mem_of_getElem? (mem_zipIdx_iff_getElem?.mp hmem)
    · intro leased hleased
      rw [mem_singleton.mp hleased]
      simpa using find?_some hfind
    · rw [map_singleton] at hmark
      rw [hmark]
      rfl

/-- Setting a state keeps the ids. -/
@[simp]
theorem map_id_setState (ledger : DaArtifacts)
    (artifactIds : List ArtifactId) (state : ArtifactState) :
    (ledger.setState artifactIds state).artifacts.map (·.id) = ledger.artifacts.map (·.id) := by
  simp only [setState, map_map]
  refine map_congr_left fun artifact _ => ?_
  simp only [comp_apply]
  split
  · rfl
  · rfl

theorem mem_setState {artifact : DaArtifact}
    (hmem : artifact ∈ (ledger.setState artifactIds state).artifacts) :
    ∃ original ∈ ledger.artifacts, artifact.id = original.id ∧ artifact.state =
        if original.id ∈ artifactIds then state else original.state := by
  obtain ⟨original, horig, rfl⟩ := mem_map.mp hmem
  refine ⟨original, horig, ?_⟩
  split
  · exact ⟨rfl, rfl⟩
  · exact ⟨rfl, rfl⟩

end DaArtifacts

namespace DaEgress

/-- The live submissions. -/
def live (egress : DaEgress) : List SubmissionId := egress.pending.map (·.1)

/-- The artifacts that live submissions lease. -/
def listed (egress : DaEgress) : List ArtifactId := egress.pending.flatMap (·.2)

/-- The ledger: ids are unique and below their counters, no artifact is leased
twice, and exactly the leased artifacts are pending. -/
structure Ledger (egress : DaEgress) (nextId : SubmissionId) : Prop where
  ids_nodup : (egress.artifacts.artifacts.map (·.id)).Nodup
  ids_lt : ∀ artifact ∈ egress.artifacts.artifacts, artifact.id < egress.artifacts.nextId
  live_nodup : egress.live.Nodup
  live_lt : ∀ id ∈ egress.live, id < nextId
  listed_nodup : egress.listed.Nodup
  listed_exists : ∀ id ∈ egress.listed, ∃ artifact ∈ egress.artifacts.artifacts, artifact.id = id
  pending_iff : ∀ artifact ∈ egress.artifacts.artifacts,
    artifact.state = .pending ↔ artifact.id ∈ egress.listed

variable {egress : DaEgress} {nextId id : SubmissionId}

theorem removePending_eq_some {rest : DaEgress}
    (hremove : egress.removePending id = some (artifactIds, rest)) :
    (id, artifactIds) ∈ egress.pending ∧
      rest = { egress with pending := egress.pending.filter (·.1 ≠ id) } := by
  unfold removePending at hremove
  split at hremove
  · cases hremove
  rename_i key leased hfind
  cases hremove
  have hkey : key = id := by simpa using find?_some hfind
  exact ⟨hkey ▸ mem_of_find?_eq_some hfind, rfl⟩

theorem removePending_eq_none : egress.removePending id = none ↔ id ∉ egress.live := by
  unfold removePending live
  split
  · rename_i hfind
    refine iff_of_true rfl fun hmem => ?_
    obtain ⟨entry, hentry, hkey⟩ := mem_map.mp hmem
    exact find?_eq_none.mp hfind entry hentry (by simpa using hkey)
  · rename_i key leased hfind
    have hkey : key = id := by simpa using find?_some hfind
    refine iff_of_false (by simp) (not_not.mpr ?_)
    exact mem_map.mpr ⟨_, mem_of_find?_eq_some hfind, hkey⟩

/-- What confirming and requeuing do alike: the entry of a submission goes, and its
artifacts take a state. -/
def settle (egress : DaEgress) (id : SubmissionId) (state : ArtifactState) : DaEgress :=
  match egress.removePending id with
  | none => egress
  | some (artifactIds, egress) =>
    if egress.artifacts.allPending artifactIds then
      { egress with artifacts := egress.artifacts.setState artifactIds state }
    else
      egress

theorem confirm_eq_settle : (egress.confirm id).2 = egress.settle id .confirmed := by
  unfold confirm settle
  cases egress.removePending id with
  | none => rfl
  | some =>
    dsimp only
    split
    · rfl
    · rfl

theorem requeue_eq_settle : egress.requeue id = egress.settle id .ready :=
  rfl

variable {pending : List (SubmissionId × List ArtifactId)}

section

variable (hledger : Ledger egress nextId)
include hledger

theorem Ledger.eq_of_id {first second : DaArtifact}
    (hfirst : first ∈ egress.artifacts.artifacts) (hsecond : second ∈ egress.artifacts.artifacts)
    (hid : first.id = second.id) : first = second :=
  inj_on_of_nodup_map hledger.ids_nodup hfirst hsecond hid

theorem Ledger.push (payload : DaArtifactPayload) (channelIds : List ChannelId) :
    Ledger { egress with
      artifacts := egress.artifacts.push payload channelIds } nextId := by
  have hfresh : egress.artifacts.nextId ∉ egress.artifacts.artifacts.map (·.id) := by
    intro hmem
    obtain ⟨artifact, hitem, hid⟩ := mem_map.mp hmem
    exact ne_of_lt (hledger.ids_lt artifact hitem) hid
  refine ⟨?_, ?_, hledger.live_nodup, hledger.live_lt, hledger.listed_nodup, ?_, ?_⟩
  · simp only [DaArtifacts.push, map_append]
    exact List.Nodup.append hledger.ids_nodup (nodup_singleton _) (by simpa using hfresh)
  · intro artifact hitem
    rcases mem_append.mp hitem with hold | hnew
    · exact Nat.lt_succ_of_lt (hledger.ids_lt artifact hold)
    · rw [mem_singleton.mp hnew]
      exact Nat.lt_succ_self _
  · intro id hid
    obtain ⟨artifact, hitem, hsame⟩ := hledger.listed_exists id hid
    exact ⟨artifact, mem_append_left _ hitem, hsame⟩
  · intro artifact hitem
    rcases mem_append.mp hitem with hold | hnew
    · exact hledger.pending_iff artifact hold
    · rw [mem_singleton.mp hnew]
      refine iff_of_false (by simp) ?_
      intro hlisted
      obtain ⟨other, hother, hsame⟩ := hledger.listed_exists _ hlisted
      exact hfresh (mem_map.mpr ⟨other, hother, hsame⟩)

/-- Two lists of artifacts with the same ids; the second has the states that
its own leases ask for. -/
theorem Ledger.setState {nextId' : SubmissionId}
    (hlive : (pending.map (·.1)).Nodup) (hlt : ∀ id ∈ pending.map (·.1), id < nextId')
    (hlisted : (pending.flatMap (·.2)).Nodup) (hexists : ∀ id ∈ pending.flatMap (·.2),
      ∃ artifact ∈ egress.artifacts.artifacts, artifact.id = id)
    (hstate : ∀ artifact ∈ egress.artifacts.artifacts,
      (if artifact.id ∈ artifactIds then state else artifact.state) =
        .pending ↔ artifact.id ∈ pending.flatMap (·.2)) :
    Ledger
      { artifacts := egress.artifacts.setState artifactIds state
        pending := pending } nextId' := by
  refine ⟨?_, ?_, hlive, hlt, hlisted, ?_, ?_⟩
  · rw [map_id_setState]
    exact hledger.ids_nodup
  · intro artifact hitem
    obtain ⟨original, horig, hid, -⟩ := mem_setState hitem
    rw [hid]
    exact hledger.ids_lt original horig
  · intro id hid
    obtain ⟨artifact, hitem, hsame⟩ := hexists id hid
    have hmem := mem_map_of_mem (f := DaArtifact.id) hitem
    rw [← map_id_setState _ artifactIds state] at hmem
    obtain ⟨marked, hmarked, hmarkedId⟩ := mem_map.mp hmem
    exact ⟨marked, hmarked, hmarkedId.trans hsame⟩
  · intro artifact hitem
    obtain ⟨original, horig, hid, horiginalState⟩ := mem_setState hitem
    rw [hid, horiginalState]
    exact hstate original horig

theorem Ledger.lease {maxBlobs : Nat} {artifacts : DaArtifacts}
    (hlease : egress.artifacts.lease nextId maxBlobs =
      some ((submission, artifactIds), artifacts)) :
    Ledger
      { artifacts := artifacts
        pending := insertPending egress.pending nextId artifactIds }
      (nextId + 1) := by
  obtain ⟨leased, hsublist, hready, rfl, rfl⟩ := lease_eq_some hledger.ids_nodup hlease
  have hkeep : egress.pending.filter (·.1 ≠ nextId) = egress.pending := by
    refine filter_eq_self.mpr fun entry hentry => ?_
    have hlt := hledger.live_lt _ (mem_map_of_mem hentry)
    simpa using ne_of_lt hlt
  have hids : (leased.map (·.id)).Nodup := (hsublist.map _).nodup hledger.ids_nodup
  have hunlisted : ∀ artifact ∈ leased, artifact.id ∉ egress.listed := by
    intro artifact hitem hlisted
    have hpend := (hledger.pending_iff artifact (hsublist.subset hitem)).mpr hlisted
    rw [hready artifact hitem] at hpend
    cases hpend
  unfold insertPending
  rw [hkeep]
  refine hledger.setState ?_ ?_ ?_ ?_ ?_
  · rw [map_append]
    refine Nodup.append hledger.live_nodup (nodup_singleton _) ?_
    refine disjoint_singleton.mpr fun hmem => ?_
    exact lt_irrefl _ (hledger.live_lt nextId hmem)
  · intro id hid
    rw [map_append, map_singleton, mem_append, mem_singleton] at hid
    rcases hid with hid | rfl
    · exact Nat.lt_succ_of_lt (hledger.live_lt id hid)
    · exact Nat.lt_succ_self _
  · rw [flatMap_append, flatMap_singleton]
    refine Nodup.append hledger.listed_nodup hids ?_
    intro id hlisted hleased
    obtain ⟨artifact, hitem, rfl⟩ := mem_map.mp hleased
    exact hunlisted artifact hitem hlisted
  · intro id hid
    rw [flatMap_append, flatMap_singleton, mem_append] at hid
    rcases hid with hid | hid
    · exact hledger.listed_exists id hid
    · obtain ⟨artifact, hitem, rfl⟩ := mem_map.mp hid
      exact ⟨artifact, hsublist.subset hitem, rfl⟩
  · intro artifact hitem
    rw [flatMap_append, flatMap_singleton, mem_append]
    split
    · rename_i hleased
      exact iff_of_true rfl (.inr hleased)
    · rename_i hleft
      rw [hledger.pending_iff artifact hitem]
      exact ⟨.inl, fun hcase => hcase.resolve_right hleft⟩

/-- Two entries that list the same artifact are the same entry. -/
theorem Ledger.entry_unique {first second : SubmissionId × List ArtifactId}
    (hfirst : first ∈ egress.pending) (hsecond : second ∈ egress.pending)
    {id : ArtifactId} (hinFirst : id ∈ first.2) (hinSecond : id ∈ second.2) :
    first = second := by
  by_contra hne
  have hdisjoint := (nodup_flatMap.mp hledger.listed_nodup).2
  have hsymm : Std.Symm (onFun Disjoint
      (Prod.snd : SubmissionId × List ArtifactId → List ArtifactId)) :=
    ⟨fun _ _ hpair _ hleft hright => hpair hright hleft⟩
  exact hdisjoint.forall hfirst hsecond hne hinFirst hinSecond

/-- Every artifact of a live submission is pending, so settling it never takes
the branch that drops the lease. -/
theorem Ledger.allPending
    {entry : SubmissionId × List ArtifactId} (hentry : entry ∈ egress.pending) :
    egress.artifacts.allPending entry.2 = true := by
  refine all_eq_true.mpr fun id hid => any_eq_true.mpr ?_
  have hlisted : id ∈ egress.listed := mem_flatMap.mpr ⟨entry, hentry, hid⟩
  obtain ⟨artifact, hitem, rfl⟩ := hledger.listed_exists id hlisted
  refine ⟨artifact, hitem, ?_⟩
  simpa using (hledger.pending_iff artifact hitem).mpr hlisted

theorem Ledger.settle (hstate : state ≠ .pending) (id : SubmissionId) :
    Ledger (egress.settle id state) nextId := by
  unfold DaEgress.settle
  split
  · exact hledger
  rename_i artifactIds rest hremove
  obtain ⟨hentry, rfl⟩ := removePending_eq_some hremove
  rw [if_pos (hledger.allPending hentry)]
  have hsublist : (egress.pending.filter (·.1 ≠ id)).Sublist egress.pending := filter_sublist
  refine hledger.setState ?_ ?_ ?_ ?_ ?_
  · exact (hsublist.map _).nodup hledger.live_nodup
  · exact fun key hkey => hledger.live_lt key ((hsublist.map _).subset hkey)
  · exact (hsublist.flatMap _).nodup hledger.listed_nodup
  · exact fun key hkey => hledger.listed_exists key ((hsublist.flatMap _).subset hkey)
  · intro artifact hitem
    split
    · rename_i hleased
      refine iff_of_false hstate fun hlisted => ?_
      obtain ⟨entry, hmem, hin⟩ := mem_flatMap.mp hlisted
      obtain ⟨hmem, hkey⟩ := mem_filter.mp hmem
      have hsame := hledger.entry_unique hmem hentry hin hleased
      rw [hsame] at hkey
      simp at hkey
    · rename_i hleft
      rw [hledger.pending_iff artifact hitem]
      constructor
      · intro hlisted
        obtain ⟨entry, hmem, hin⟩ := mem_flatMap.mp hlisted
        refine mem_flatMap.mpr ⟨entry, mem_filter.mpr ⟨hmem, ?_⟩, hin⟩
        have hother : entry.1 ≠ id := by
          intro hkey
          have hsame := inj_on_of_nodup_map hledger.live_nodup hmem hentry hkey
          rw [hsame] at hin
          exact hleft hin
        simpa using hother
      · exact fun hlisted => (hsublist.flatMap _).subset hlisted

/-- Dropping artifacts together with their leases keeps the ledger, if leases
are dropped for nothing else. -/
theorem Ledger.restrict
    (hids : (artifacts.map (·.id)).Sublist (egress.artifacts.artifacts.map (·.id)))
    (hkept : ∀ artifact ∈ artifacts, ∃ original ∈ egress.artifacts.artifacts,
        artifact.id = original.id ∧ artifact.state = original.state)
    (hlive : (pending.map (·.1)).Sublist egress.live)
    (hlisted : (pending.flatMap (·.2)).Sublist egress.listed)
    (hsame : ∀ id ∈ egress.listed, id ∈ pending.flatMap (·.2) ↔ id ∈ artifacts.map (·.id)) :
    Ledger
      { artifacts := { egress.artifacts with artifacts := artifacts }
        pending := pending } nextId := by
  refine ⟨hids.nodup hledger.ids_nodup, ?_, hlive.nodup hledger.live_nodup,
    fun id hid => hledger.live_lt id (hlive.subset hid), hlisted.nodup hledger.listed_nodup, ?_, ?_⟩
  · intro artifact hitem
    obtain ⟨original, horig, hid, -⟩ := hkept artifact hitem
    rw [hid]
    exact hledger.ids_lt original horig
  · intro id hid
    exact mem_map.mp ((hsame id (hlisted.subset hid)).mp hid)
  · intro artifact hitem
    obtain ⟨original, horig, hid, hstate⟩ := hkept artifact hitem
    rw [hstate, hledger.pending_iff original horig, ← hid]
    constructor
    · exact fun hin => (hsame _ hin).mpr (mem_map_of_mem hitem)
    · exact fun hin => hlisted.subset hin

theorem Ledger.pruneChannels (channelIds : List ChannelId) :
    Ledger (egress.pruneChannels channelIds) nextId := by
  have hcontains : ∀ id, (egress.artifacts.pruneChannels channelIds).contains id = true ↔
        id ∈ (egress.artifacts.pruneChannels channelIds).artifacts.map (·.id) := by
    intro id
    simp [DaArtifacts.contains]
  refine hledger.restrict ?_ ?_ ?_ ?_ ?_
  · refine (filter_sublist.map _).trans ?_
    rw [map_map]
    exact Sublist.refl _
  · intro artifact hitem
    obtain ⟨hmem, -⟩ := mem_filter.mp hitem
    obtain ⟨original, horig, rfl⟩ := mem_map.mp hmem
    exact ⟨original, horig, rfl, rfl⟩
  · refine (filter_sublist.map _).trans ?_
    rw [map_map]
    exact Sublist.refl _
  · refine (filter_sublist.flatMap _).trans ?_
    rw [flatMap_map]
    exact Sublist.flatMap_right _ fun entry _ => filter_sublist
  · intro id hid
    refine Iff.trans ?_ (hcontains id)
    constructor
    · intro hmem
      obtain ⟨entry, hentry, hin⟩ := mem_flatMap.mp hmem
      obtain ⟨original, -, rfl⟩ := mem_map.mp (mem_filter.mp hentry).1
      exact (mem_filter.mp hin).2
    · intro hkept
      obtain ⟨entry, hentry, hin⟩ := mem_flatMap.mp hid
      have hfiltered := mem_filter.mpr ⟨hin, hkept⟩
      refine mem_flatMap.mpr ⟨_, mem_filter.mpr ⟨mem_map_of_mem hentry, ?_⟩, hfiltered⟩
      simpa using ne_nil_of_mem hfiltered

/-- Replay drops artifacts and leases together because it takes submissions
whole. -/
theorem Ledger.invalidateArtifacts {affected : List ArtifactId}
    (hwhole : ∀ entry ∈ egress.pending, (∃ id ∈ entry.2, id ∈ affected) → entry.2 ⊆ affected) :
    Ledger (egress.invalidateArtifacts affected) nextId := by
  refine hledger.restrict ?_ ?_ ?_ ?_ ?_
  · exact filter_sublist.map _
  · intro artifact hitem
    exact ⟨artifact, (mem_filter.mp hitem).1, rfl, rfl⟩
  · exact filter_sublist.map _
  · exact filter_sublist.flatMap _
  · intro id hid
    obtain ⟨artifact, hitem, rfl⟩ := hledger.listed_exists id hid
    constructor
    · intro hmem
      obtain ⟨entry, hentry, hin⟩ := mem_flatMap.mp hmem
      have hclean := (mem_filter.mp hentry).2
      have hleft : artifact.id ∉ affected := by
        intro haffected
        have hany : entry.2.any (· ∈ affected) = true :=
          any_eq_true.mpr ⟨_, hin, decide_eq_true haffected⟩
        rw [hany] at hclean
        cases hclean
      exact mem_map_of_mem (mem_filter.mpr ⟨hitem, decide_eq_true hleft⟩)
    · intro hmem
      obtain ⟨kept, hkept, hsame⟩ := mem_map.mp hmem
      have hleft : artifact.id ∉ affected := hsame ▸ of_decide_eq_true (mem_filter.mp hkept).2
      obtain ⟨entry, hentry, hin⟩ := mem_flatMap.mp hid
      refine mem_flatMap.mpr ⟨entry, mem_filter.mpr ⟨hentry, ?_⟩, hin⟩
      rw [Bool.not_eq_true', any_eq_false]
      intro other hother haffected
      exact hleft (hwhole entry hentry ⟨other, hother, of_decide_eq_true haffected⟩ hin)

end

theorem reset_ledger (egress : DaEgress) (nextId : SubmissionId) : Ledger egress.reset nextId := by
  refine ⟨nodup_nil, ?_, nodup_nil, ?_, nodup_nil, ?_, ?_⟩
  · exact fun _ hmem => absurd hmem not_mem_nil
  · exact fun _ hmem => absurd hmem not_mem_nil
  · exact fun _ hmem => absurd hmem not_mem_nil
  · exact fun _ hmem => absurd hmem not_mem_nil

end DaEgress

end BaseChain
