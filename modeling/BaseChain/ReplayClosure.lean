/-
The replay closure: the loop that collects the channels and artifacts affected
by an expired channel stops, and what it returns is closed under sharing an
artifact, sharing a submission and following in the FIFO.
-/
import BaseChain.BatchEncoder
import Mathlib.Data.List.Perm.Subperm

namespace BaseChain

open List DaEgress

namespace Affected

/-- Both lists only grow at their end. -/
def Extends (before after : Affected) : Prop :=
  before.channels <+: after.channels ∧ before.artifacts <+: after.artifacts

instance : IsPartialOrder Affected Extends where
  refl _ := ⟨List.prefix_rfl, List.prefix_rfl⟩
  trans _ _ _ hfirst hsecond := ⟨hfirst.1.trans hsecond.1, hfirst.2.trans hsecond.2⟩
  antisymm first second hfirst hsecond := by
    cases first
    cases second
    obtain rfl := antisymm_of (· <+: ·) hfirst.1 hsecond.1
    obtain rfl := antisymm_of (· <+: ·) hfirst.2 hsecond.2
    rfl

/-- Nothing is listed twice, and everything comes from the given lists. -/
structure Within (channels : List ChannelId) (artifacts : List ArtifactId)
    (affected : Affected) : Prop where
  channels_nodup : affected.channels.Nodup
  artifacts_nodup : affected.artifacts.Nodup
  channels_subset : affected.channels ⊆ channels
  artifacts_subset : affected.artifacts ⊆ artifacts

variable {channels : List ChannelId} {artifacts : List ArtifactId} {affected : Affected}
  (hwithin : Within channels artifacts affected)

include hwithin in
theorem Within.size_le : affected.size ≤ channels.length + artifacts.length :=
  Nat.add_le_add (subperm_of_subset hwithin.channels_nodup hwithin.channels_subset).length_le
    (subperm_of_subset hwithin.artifacts_nodup hwithin.artifacts_subset).length_le

theorem extends_absorb (affected : Affected) (artifact : DaArtifact) :
    affected.Extends (affected.absorb artifact) := by
  unfold absorb
  split
  · exact ⟨foldl_grows isPrefix_pushNew _ _, isPrefix_pushNew _ _⟩
  · exact refl_of Extends affected

include hwithin in
theorem Within.absorb {artifact : DaArtifact} (hchans : artifact.channelIds ⊆ channels)
    (hid : artifact.id ∈ artifacts) :
    Within channels artifacts (affected.absorb artifact) := by
  unfold Affected.absorb
  split
  · refine ⟨nodup_foldl_pushNew hwithin.channels_nodup _,
      nodup_pushNew hwithin.artifacts_nodup _, ?_, ?_⟩
    · intro channelId hmem
      rcases mem_foldl_pushNew.mp hmem with hmem | hmem
      · exact hwithin.channels_subset hmem
      · exact hchans hmem
    · intro artifactId hmem
      rcases mem_pushNew.mp hmem with hmem | rfl
      · exact hwithin.artifacts_subset hmem
      · exact hid
  · exact hwithin

include hwithin in
theorem Within.foldl_absorb {ledger : List DaArtifact}
    (hchans : ∀ artifact ∈ ledger, artifact.channelIds ⊆ channels)
    (hids : ∀ artifact ∈ ledger, artifact.id ∈ artifacts) :
    Within channels artifacts (ledger.foldl Affected.absorb affected) := by
  induction ledger generalizing affected with
  | nil => exact hwithin
  | cons artifact _ ih =>
    refine ih (hwithin.absorb (hchans artifact mem_cons_self) (hids artifact mem_cons_self)) ?_ ?_
    · exact fun other hother => hchans other (mem_cons_of_mem _ hother)
    · exact fun other hother => hids other (mem_cons_of_mem _ hother)

end Affected

namespace DaEgress

theorem isPrefix_extendWithSubmission (affected : List ArtifactId)
    (entry : SubmissionId × List ArtifactId) :
    affected <+: extendWithSubmission affected entry := by
  unfold extendWithSubmission
  split
  · exact foldl_grows isPrefix_pushNew _ _
  · exact prefix_rfl

variable {affected : List ArtifactId}

theorem nodup_extendWithSubmissionArtifacts (hnodup : affected.Nodup)
    (pending : List (SubmissionId × List ArtifactId)) :
    (pending.foldl extendWithSubmission affected).Nodup := by
  induction pending generalizing affected with
  | nil => exact hnodup
  | cons _ _ ih =>
    refine ih ?_
    unfold extendWithSubmission
    split
    · exact nodup_foldl_pushNew hnodup _
    · exact hnodup

theorem mem_of_mem_extendWithSubmissionArtifacts
    {pending : List (SubmissionId × List ArtifactId)} {artifactId : ArtifactId}
    (hmem : artifactId ∈ pending.foldl extendWithSubmission affected) :
    artifactId ∈ affected ∨ ∃ entry ∈ pending, artifactId ∈ entry.2 := by
  induction pending generalizing affected with
  | nil => exact .inl hmem
  | cons entry _ ih =>
    rcases ih hmem with hmem | ⟨other, hother, hmem⟩
    · unfold extendWithSubmission at hmem
      split at hmem
      · rcases mem_foldl_pushNew.mp hmem with hmem | hmem
        · exact .inl hmem
        · exact .inr ⟨entry, mem_cons_self, hmem⟩
      · exact .inl hmem
    · exact .inr ⟨other, mem_cons_of_mem _ hother, hmem⟩

end DaEgress

namespace BatchEncoder

variable {externals : BatcherExternals} (encoder : BatchEncoder externals)

/-- Everything a replay from `start` could list. -/
def Candidates (start : ChannelId) : Affected → Prop := Affected.Within ([start] ++
      encoder.egress.artifacts.artifacts.flatMap (·.channelIds) ++
      encoder.channels.map (·.id))
    (encoder.egress.artifacts.artifacts.map (·.id) ++ encoder.egress.pending.flatMap (·.2))

variable {encoder} {start : ChannelId}

theorem Candidates.size_le {affected : Affected} (hcands : encoder.Candidates start affected) :
    affected.size ≤ encoder.affectedBound := by
  refine (Affected.Within.size_le hcands).trans ?_
  simp only [length_append, length_map, length_singleton, affectedBound]
  omega

variable (encoder) (affected : Affected)

theorem extends_absorbed : affected.Extends
    (encoder.egress.artifacts.artifacts.foldl Affected.absorb affected) :=
  foldl_grows Affected.extends_absorb _ _

theorem extends_expandAffected : affected.Extends (encoder.expandAffected affected) := by
  refine trans_of Affected.Extends (encoder.extends_absorbed affected) ⟨?_, ?_⟩
  · exact foldl_grows isPrefix_pushNew _ _
  · exact foldl_grows isPrefix_extendWithSubmission _ _

variable {encoder affected}

theorem Candidates.expandAffected (hcands : encoder.Candidates start affected) :
    encoder.Candidates start (encoder.expandAffected affected) := by
  have habsorbed : encoder.Candidates start
      (encoder.egress.artifacts.artifacts.foldl Affected.absorb affected) := by
    refine Affected.Within.foldl_absorb hcands ?_ ?_
    · intro artifact hitem channelId hmem
      have hflat := mem_flatMap.mpr ⟨artifact, hitem, hmem⟩
      simp [hflat]
    · intro artifact hitem
      have hmap := mem_map_of_mem (f := DaArtifact.id) hitem
      simp [hmap]
  refine ⟨nodup_foldl_pushNew habsorbed.channels_nodup _,
    nodup_extendWithSubmissionArtifacts habsorbed.artifacts_nodup _, ?_, ?_⟩
  · intro channelId hmem
    rcases mem_foldl_pushNew.mp hmem with hmem | hmem
    · exact habsorbed.channels_subset hmem
    · have hid : channelId ∈ encoder.channels.map (·.id) :=
        ((dropWhile_sublist _).map _).subset hmem
      simp [hid]
  · intro artifactId hmem
    rcases mem_of_mem_extendWithSubmissionArtifacts hmem with hmem | ⟨entry, hentry, hmem⟩
    · exact habsorbed.artifacts_subset hmem
    · have hflat := mem_flatMap.mpr ⟨entry, hentry, hmem⟩
      simp [hflat]

theorem extends_closeAffected (passes : Nat) (affected : Affected) :
    affected.Extends (encoder.closeAffected passes affected) := by
  induction passes generalizing affected with
  | zero => exact refl_of Affected.Extends affected
  | succ _ ih =>
    rw [closeAffected]
    split
    · exact encoder.extends_expandAffected affected
    · exact trans_of Affected.Extends (encoder.extends_expandAffected affected) (ih _)

/-- Every pass before the last one adds something, and there is only so much
to add. -/
theorem closeAffected_fixed (passes : Nat) {affected : Affected}
    (hcands : encoder.Candidates start affected)
    (hpasses : encoder.affectedBound < passes + affected.size) :
    encoder.expandAffected (encoder.closeAffected passes affected) =
      encoder.closeAffected passes affected := by
  induction passes generalizing affected with
  | zero =>
    have hsize := hcands.size_le
    omega
  | succ _ ih =>
    have hextends := encoder.extends_expandAffected affected
    rw [closeAffected]
    split
    · rename_i hsame
      have hfixed : encoder.expandAffected affected = affected := antisymm_of Affected.Extends
          ⟨(hextends.1.eq_of_length hsame.1.symm).symm ▸ prefix_rfl,
            (hextends.2.eq_of_length hsame.2.symm).symm ▸ prefix_rfl⟩ hextends
      rw [hfixed, hfixed]
    · refine ih hcands.expandAffected ?_
      have hchans := hextends.1.length_le
      have hartifacts := hextends.2.length_le
      unfold Affected.size at hpasses ⊢
      omega

variable (encoder)

/-- What a replay takes is closed: artifacts and submissions are taken whole,
and with a channel go all later ones. -/
structure ReplayClosed (affected : Affected) : Prop where
  artifacts : ∀ artifact ∈ encoder.egress.artifacts.artifacts,
    (∃ id ∈ artifact.channelIds, id ∈ affected.channels) ∨ artifact.id ∈ affected.artifacts →
    artifact.id ∈ affected.artifacts ∧ artifact.channelIds ⊆ affected.channels
  submissions : ∀ entry ∈ encoder.egress.pending,
    (∃ id ∈ entry.2, id ∈ affected.artifacts) → entry.2 ⊆ affected.artifacts
  later : ∀ front channel back, encoder.channels = front ++ channel :: back →
    channel.id ∈ affected.channels → ∀ other ∈ back, other.id ∈ affected.channels

variable {encoder}

theorem foldl_absorb_of_fixed (hfixed : encoder.expandAffected affected = affected) :
    encoder.egress.artifacts.artifacts.foldl Affected.absorb affected =
      affected := by
  refine antisymm_of Affected.Extends ?_ (encoder.extends_absorbed affected)
  conv_rhs => rw [← hfixed]
  exact ⟨foldl_grows isPrefix_pushNew _ _, foldl_grows isPrefix_extendWithSubmission _ _⟩

theorem replayClosed_of_fixed (hfixed : encoder.expandAffected affected = affected) :
    encoder.ReplayClosed affected := by
  have habsorbed := foldl_absorb_of_fixed hfixed
  have hexpand := hfixed
  unfold expandAffected at hexpand
  rw [habsorbed] at hexpand
  have hchans := congrArg Affected.channels hexpand
  have hartifacts := congrArg Affected.artifacts hexpand
  refine ⟨?_, ?_, ?_⟩
  · intro artifact hitem haffected
    have hstep := step_eq_of_foldl_eq Affected.extends_absorb habsorbed hitem
    have hguard : (artifact.channelIds.any (· ∈ affected.channels) ||
        decide (artifact.id ∈ affected.artifacts)) = true := by
      simpa using haffected
    rw [Affected.absorb, if_pos hguard] at hstep
    have hids := congrArg Affected.artifacts hstep
    have hlists := congrArg Affected.channels hstep
    constructor
    · rw [← hids]
      exact mem_pushNew.mpr (.inr rfl)
    · intro channelId hmem
      rw [← hlists]
      exact mem_foldl_pushNew.mpr (.inr hmem)
  · intro entry hentry hshared
    have hstep := step_eq_of_foldl_eq isPrefix_extendWithSubmission hartifacts hentry
    rw [extendWithSubmission, if_pos (by simpa using hshared)] at hstep
    intro artifactId hmem
    rw [← hstep]
    exact mem_foldl_pushNew.mpr (.inr hmem)
  · intro front channel back hsplit hchan other hother
    have hreplayed : other ∈ encoder.channels.dropWhile
        fun channel => decide (channel.id ∉ affected.channels) := by
      rw [hsplit, dropWhile_append]
      split
      · rw [dropWhile_cons_of_neg (by simpa using hchan)]
        exact mem_cons_of_mem _ hother
      · exact mem_append_right _ (mem_cons_of_mem _ hother)
    rw [← hchans]
    exact mem_foldl_pushNew.mpr (.inr (mem_map_of_mem hreplayed))

variable (channel : BatcherChannel externals.brotli)

theorem affectedFrom_replayClosed : encoder.ReplayClosed (encoder.affectedFrom channel) := by
  have hcands : encoder.Candidates channel.id { channels := [channel.id], artifacts := [] } :=
    ⟨nodup_singleton _, nodup_nil, by simp, by simp⟩
  exact replayClosed_of_fixed (closeAffected_fixed _ hcands (by omega))

/-- A replay cuts the FIFO at the first affected channel. -/
theorem invalidateChannel_eq {channelIdx : Nat} (hidx : channelIdx < encoder.channels.length) :
    ∃ affected front first back, encoder.ReplayClosed affected ∧
      encoder.channels = front ++ first :: back ∧
      first.id ∈ affected.channels ∧
      (∀ channel ∈ front, channel.id ∉ affected.channels) ∧
      encoder.invalidateChannel channelIdx =
        { encoder with
          egress := encoder.egress.invalidateArtifacts affected.artifacts
          channels := front
          blockCursor := min encoder.blockCursor first.blockStart } := by
  have hfound : ∃ index, encoder.channels.findIdx? (fun channel =>
      channel.id ∈ (encoder.affectedFrom
        (encoder.channels[channelIdx])).channels) = some index := by
    rw [← Option.isSome_iff_exists, findIdx?_isSome, any_eq_true]
    exact ⟨_, getElem_mem hidx, decide_eq_true
      ((extends_closeAffected _ _).1.subset (mem_singleton_self _))⟩
  obtain ⟨index, hindex⟩ := hfound
  obtain ⟨hlt, hfirst, hbefore⟩ := findIdx?_eq_some_iff_getElem.mp hindex
  refine ⟨encoder.affectedFrom (encoder.channels[channelIdx]),
    encoder.channels.take index, encoder.channels[index],
    encoder.channels.drop (index + 1), affectedFrom_replayClosed _, ?_,
    of_decide_eq_true hfirst, ?_, ?_⟩
  · rw [← drop_eq_getElem_cons hlt, take_append_drop]
  · intro channel hchan
    obtain ⟨position, hposition, rfl⟩ := mem_take_iff_getElem.mp hchan
    simpa using hbefore position (by omega)
  · simp [invalidateChannel, getElem?_eq_getElem hidx, hindex, getElem?_eq_getElem hlt]

end BatchEncoder

end BaseChain
