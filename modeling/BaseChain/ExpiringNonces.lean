/-
Replay protection of transactions without a nonce: the nonce manager remembers the
replay hashes it accepted, with their deadlines, in a ring of fixed size.
-/
import BaseChain.RingBuffer
import BaseChain.RollupConfig
import Mathlib.Data.Finset.Card
import Mathlib.Data.Set.Card

namespace BaseChain

open Function List

/-- The part of the nonce manager's storage that replay protection uses. -/
structure NonceManagerStorage where
  expiringNonceSeen : B256 → Nat
  expiringNonceRing : Nat → B256
  expiringNonceRingPtr : Nat

inductive NonceManagerError where
  | invalidExpiringNonceExpiry
  | expiringNonceReplay
  | expiringNonceSetFull
deriving DecidableEq

/-- A replay hash and its deadline in milliseconds, offered in a block with a
timestamp in seconds. -/
structure ExpiringNonce where
  timestamp : Nat
  hash : B256
  validBefore : Nat

namespace NonceManagerStorage

def empty : NonceManagerStorage := ⟨fun _ => 0, fun _ => default, 0⟩

def replayBufferCapacity : Nat := 300000

def nonceFreeExpiryWindow : Nat := 30000

variable (timestamp : Nat)

/-- The time of a block in milliseconds. -/
def blockMillis : Nat := saturatingMul (min timestamp u64Max) 1000

variable (storage : NonceManagerStorage)

def isExpiringNonceSeen (hash : B256) (now : Nat) :
    Bool :=
  let expiry := storage.expiringNonceSeen hash
  expiry ≠ 0 && now < expiry

/-- Forget the hash that a slot held; an empty slot holds none. -/
def reclaim (seen : B256 → Nat) (oldHash : B256) : B256 → Nat :=
  if oldHash ≠ default then update seen oldHash 0 else seen

variable (entry : ExpiringNonce)

def checkAndMarkExpiringNonce : Except NonceManagerError NonceManagerStorage :=
  let now := blockMillis entry.timestamp
  if entry.validBefore ≤ now || saturatingAdd now nonceFreeExpiryWindow < entry.validBefore then
    .error .invalidExpiringNonceExpiry
  else if storage.isExpiringNonceSeen entry.hash now then
    .error .expiringNonceReplay
  else
    let ptr := storage.expiringNonceRingPtr
    let oldHash := storage.expiringNonceRing ptr
    if oldHash ≠ default && storage.isExpiringNonceSeen oldHash now then
      .error .expiringNonceSetFull
    else
      let incremented := (ptr + 1) % 2 ^ 32
      .ok
        { expiringNonceRing :=
            update storage.expiringNonceRing ptr entry.hash,
          expiringNonceSeen := update (reclaim storage.expiringNonceSeen oldHash)
              entry.hash entry.validBefore,
          expiringNonceRingPtr := if replayBufferCapacity ≤ incremented then 0 else incremented }

def accepts : Bool := (storage.checkAndMarkExpiringNonce entry).isOk

/-- The storage after a call; a refused one is rolled back. -/
def perform :
    NonceManagerStorage :=
  match storage.checkAndMarkExpiringNonce entry with
  | .ok after => after
  | .error _ => storage

def run (entries : List ExpiringNonce) :
    NonceManagerStorage :=
  entries.foldl perform storage

/-- The entries that are accepted, in order. -/
def accepted (storage : NonceManagerStorage) : List ExpiringNonce → List ExpiringNonce
  | [] => []
  | entry :: entries =>
    if storage.accepts entry then
      entry :: accepted (storage.perform entry) entries
    else accepted (storage.perform entry) entries

variable {storage after : NonceManagerStorage} {entry : ExpiringNonce} {hash : B256}

theorem isExpiringNonceSeen_eq_false {now : Nat} : storage.isExpiringNonceSeen hash now = false ↔
      storage.expiringNonceSeen hash ≤ now := by
  unfold isExpiringNonceSeen
  simp only [Bool.and_eq_false_iff, decide_eq_false_iff_not, not_not, not_lt]
  constructor
  · rintro (hzero | hexpired)
    · exact hzero ▸ Nat.zero_le now
    · exact hexpired
  · exact .inr

/-- What an accepted call checks and writes. -/
structure Accepts (storage : NonceManagerStorage) (entry : ExpiringNonce)
    (after : NonceManagerStorage) : Prop where
  unexpired : blockMillis entry.timestamp < entry.validBefore
  expired : storage.expiringNonceSeen entry.hash ≤ blockMillis entry.timestamp
  reclaimed : storage.expiringNonceRing storage.expiringNonceRingPtr = default ∨
      storage.expiringNonceSeen (storage.expiringNonceRing storage.expiringNonceRingPtr) ≤
        blockMillis entry.timestamp
  seen : after.expiringNonceSeen = update (reclaim storage.expiringNonceSeen
      (storage.expiringNonceRing storage.expiringNonceRingPtr))
      entry.hash entry.validBefore
  ring : after.expiringNonceRing = update storage.expiringNonceRing
    storage.expiringNonceRingPtr entry.hash
  pointer : storage.expiringNonceRingPtr < replayBufferCapacity → after.expiringNonceRingPtr =
      Ring.next replayBufferCapacity storage.expiringNonceRingPtr

theorem checkAndMarkExpiringNonce_ok
    (hcheck : storage.checkAndMarkExpiringNonce entry = .ok after) :
    Accepts storage entry after := by
  unfold checkAndMarkExpiringNonce at hcheck
  dsimp only at hcheck
  split at hcheck
  · cases hcheck
  rename_i hwindow
  split at hcheck
  · cases hcheck
  rename_i hseen
  split at hcheck
  · cases hcheck
  rename_i hold
  cases hcheck
  constructor
  case unexpired =>
    simp only [Bool.or_eq_true, decide_eq_true_eq, not_or] at hwindow
    exact lt_of_not_ge hwindow.1
  case expired => exact isExpiringNonceSeen_eq_false.mp (Bool.eq_false_iff.mpr hseen)
  case reclaimed =>
    simp only [Bool.and_eq_true, decide_eq_true_eq, not_and, Bool.not_eq_true] at hold
    by_cases hempty : storage.expiringNonceRing storage.expiringNonceRingPtr = default
    · exact .inl hempty
    · exact .inr (isExpiringNonceSeen_eq_false.mp (hold hempty))
  case seen => rfl
  case ring => rfl
  case pointer =>
    intro hbelow
    have hfits : storage.expiringNonceRingPtr + 1 < 2 ^ 32 := by
      unfold replayBufferCapacity at hbelow
      omega
    rw [Nat.mod_eq_of_lt hfits]
    rfl

/-- A call is accepted with its effects, or changes nothing. -/
theorem perform_cases (storage : NonceManagerStorage) (entry : ExpiringNonce) :
    (storage.accepts entry = true ∧ Accepts storage entry (storage.perform entry)) ∨
      storage.accepts entry = false ∧ storage.perform entry = storage := by
  unfold accepts perform
  cases hcheck : storage.checkAndMarkExpiringNonce entry with
  | ok => exact .inl ⟨rfl, checkAndMarkExpiringNonce_ok hcheck⟩
  | error => exact .inr ⟨rfl, rfl⟩

theorem Accepts.seen_of_ne (haccepts : Accepts storage entry after) (hne : hash ≠ entry.hash) :
    after.expiringNonceSeen hash = storage.expiringNonceSeen hash ∨
      after.expiringNonceSeen hash = 0 ∧ hash ≠ default ∧
        hash = storage.expiringNonceRing storage.expiringNonceRingPtr := by
  rw [haccepts.seen, update_of_ne hne]
  unfold reclaim
  split
  · rename_i hheld
    by_cases hold : hash = storage.expiringNonceRing storage.expiringNonceRingPtr
    · subst hold
      exact .inr ⟨update_self _ _ _, hheld, rfl⟩
    · exact .inl (update_of_ne hold _ _)
  · exact .inl rfl

/-- An entry changes only when its deadline has come. -/
theorem perform_changed (storage : NonceManagerStorage) (entry : ExpiringNonce)
    (hchanged : (storage.perform entry).expiringNonceSeen hash ≠ storage.expiringNonceSeen hash) :
    storage.expiringNonceSeen hash ≤ blockMillis entry.timestamp := by
  rcases perform_cases storage entry with ⟨-, haccepts⟩ | ⟨-, hsame⟩
  · by_cases hhash : hash = entry.hash
    · exact hhash ▸ haccepts.expired
    · rcases haccepts.seen_of_ne hhash with hkept | ⟨-, hheld, rfl⟩
      · exact absurd hkept hchanged
      · exact haccepts.reclaimed.resolve_left hheld
  · rw [hsame] at hchanged
    exact absurd rfl hchanged

theorem blockMillis_mono {earlier later : Nat} (hle : earlier ≤ later) :
    blockMillis earlier ≤ blockMillis later := by
  unfold blockMillis saturatingMul
  omega

theorem blockMillis_le : blockMillis timestamp ≤ timestamp * 1000 := by
  unfold blockMillis saturatingMul
  omega

variable (entries : List ExpiringNonce)

/-- An entry stays as long as no call comes at or after its deadline. -/
theorem run_keeps (hbefore : ∀ entry ∈ entries,
      blockMillis entry.timestamp < storage.expiringNonceSeen hash) :
    (storage.run entries).expiringNonceSeen hash = storage.expiringNonceSeen hash := by
  induction entries generalizing storage with
  | nil => rfl
  | cons entry entries ih =>
    have hstep : (storage.perform entry).expiringNonceSeen hash =
        storage.expiringNonceSeen hash := by
      by_contra hchanged
      exact absurd (storage.perform_changed entry hchanged)
        (not_le.mpr (hbefore entry mem_cons_self))
    have hrest := @ih (storage.perform entry) (by
      intro other hother
      rw [hstep]
      exact hbefore other (mem_cons_of_mem entry hother))
    exact hrest.trans hstep

/-- Until its deadline, an accepted hash is refused. -/
theorem Accepts.refuses (haccepts : Accepts storage entry after)
    (between : List ExpiringNonce) {later : ExpiringNonce}
    (htimes : ∀ other ∈ between, other.timestamp ≤ later.timestamp)
    (hhash : later.hash = entry.hash)
    (hbefore : blockMillis later.timestamp < entry.validBefore) :
    (after.run between).accepts later = false := by
  have hseen : after.expiringNonceSeen entry.hash = entry.validBefore := by
    rw [haccepts.seen, update_self]
  have hkept : (after.run between).expiringNonceSeen entry.hash = entry.validBefore := by
    rw [← hseen]
    apply run_keeps
    intro other hother
    rw [hseen]
    exact lt_of_le_of_lt (blockMillis_mono (htimes other hother)) hbefore
  rcases perform_cases (after.run between) later with ⟨-, hagain⟩ | ⟨hrefused, -⟩
  · have hexpired := hagain.expired
    rw [hhash, hkept] at hexpired
    exact absurd hexpired (not_le.mpr hbefore)
  · exact hrefused

/-- The storage after the entries of a history were accepted. -/
structure Tracks (storage : NonceManagerStorage) (history : List ExpiringNonce) : Prop where
  ring : Ring.Holds replayBufferCapacity default storage.expiringNonceRing
    storage.expiringNonceRingPtr (history.map ExpiringNonce.hash)
  recorded : ∀ hash, storage.expiringNonceSeen hash ≠ 0 → ∃ entry ∈ history, entry.hash = hash ∧
      entry.validBefore = storage.expiringNonceSeen hash
  referenced : ∀ hash, storage.expiringNonceSeen hash ≠ 0 →
    ∃ slot < replayBufferCapacity, storage.expiringNonceRing slot = hash

variable {history : List ExpiringNonce} (htracks : Tracks storage history)

include htracks in
theorem Tracks.pointer_lt : storage.expiringNonceRingPtr < replayBufferCapacity := by
  rw [htracks.ring.pointer]
  exact Nat.mod_lt _ (by decide)

include htracks in
theorem Tracks.accept (hhashes : ∀ entry ∈ history, entry.hash ≠ default)
    (haccepts : Accepts storage entry after) :
    Tracks after (history ++ [entry]) := by
  constructor
  case ring =>
    rw [haccepts.ring, haccepts.pointer htracks.pointer_lt, map_append]
    exact htracks.ring.push (by decide) entry.hash
  case recorded =>
    intro hash hseen
    by_cases hhash : hash = entry.hash
    · subst hhash
      refine ⟨entry, mem_concat_self, rfl, ?_⟩
      rw [haccepts.seen, update_self]
    · rcases haccepts.seen_of_ne hhash with hkept | ⟨hcleared, -, -⟩
      · rw [hkept] at hseen ⊢
        obtain ⟨recorded, hmember, hsame⟩ := htracks.recorded hash hseen
        exact ⟨recorded, mem_append_left [entry] hmember, hsame⟩
      · exact absurd hcleared hseen
  case referenced =>
    intro hash hseen
    rw [haccepts.ring]
    by_cases hhash : hash = entry.hash
    · subst hhash
      exact ⟨_, htracks.pointer_lt, update_self _ _ _⟩
    · rcases haccepts.seen_of_ne hhash with hkept | ⟨hcleared, -, -⟩
      · have hbefore := hseen
        rw [hkept] at hbefore
        obtain ⟨slot, hslot, rfl⟩ := htracks.referenced hash hbefore
        refine ⟨slot, hslot, update_of_ne ?_ _ _⟩
        -- the written slot was reclaimed, so its old hash is not seen any more
        rintro rfl
        obtain ⟨recorded, hmember, hsame, -⟩ := htracks.recorded _ hbefore
        have hheld := hsame ▸ hhashes recorded hmember
        rw [haccepts.seen, update_of_ne hhash, reclaim, if_pos hheld, update_self] at hseen
        exact hseen rfl
      · exact absurd hcleared hseen

theorem accepted_concat : storage.accepted (entries ++ [entry]) =
      if (storage.run entries).accepts entry then
        storage.accepted entries ++ [entry]
      else storage.accepted entries := by
  induction entries generalizing storage with
  | nil => rfl
  | cons first entries ih =>
    have hrun : storage.run (first :: entries) = (storage.perform first).run entries := rfl
    rw [cons_append, accepted, accepted, ih, hrun]
    split
    · split
      · rfl
      · rfl
    · rfl

theorem mem_of_mem_accepted {entries : List ExpiringNonce}
    (hmember : entry ∈ storage.accepted entries) : entry ∈ entries := by
  induction entries generalizing storage with
  | nil => cases hmember
  | cons first entries ih =>
    rw [accepted] at hmember
    split at hmember
    · rcases mem_cons.mp hmember with rfl | hlater
      · exact mem_cons_self
      · exact mem_cons_of_mem first (ih hlater)
    · exact mem_cons_of_mem first (ih hmember)

theorem tracks_empty : Tracks empty [] := ⟨Ring.Holds.nil, fun _ hseen => absurd rfl hseen,
    fun _ hseen => absurd rfl hseen⟩

/-- Every run from the empty storage tracks what it accepted. -/
theorem tracks_run (hhashes : ∀ entry ∈ entries, entry.hash ≠ default) :
    Tracks (empty.run entries) (empty.accepted entries) := by
  induction entries using List.reverseRecOn with
  | nil => exact tracks_empty
  | append_singleton entries entry ih =>
    have htracks := ih fun other hother => hhashes other (mem_append_left [entry] hother)
    have hstep : empty.run (entries ++ [entry]) =
        (empty.run entries).perform entry := foldl_concat _ _ _ _
    rw [hstep, accepted_concat]
    rcases perform_cases (empty.run entries) entry with ⟨hok, haccepts⟩ | ⟨hrefused, hsame⟩
    · rw [if_pos hok]
      apply htracks.accept _ haccepts
      intro other hother
      exact hhashes other (mem_append_left [entry] (mem_of_mem_accepted hother))
    · rw [hrefused, hsame]
      exact htracks

include htracks in
/-- The seen entries all stand in the ring, so they are no more than its slots. -/
theorem Tracks.seen_encard : { hash | storage.expiringNonceSeen hash ≠ 0 }.encard ≤
      replayBufferCapacity := by
  let held := (Finset.range replayBufferCapacity).image storage.expiringNonceRing
  have hsubset : { hash | storage.expiringNonceSeen hash ≠ 0 } ⊆ (held : Set B256) := by
    intro hash hseen
    obtain ⟨slot, hslot, hhash⟩ := htracks.referenced hash hseen
    exact Finset.mem_coe.mpr (Finset.mem_image.mpr ⟨slot, Finset.mem_range.mpr hslot, hhash⟩)
  calc { hash | storage.expiringNonceSeen hash ≠ 0 }.encard
      ≤ (held : Set B256).encard := Set.encard_le_encard hsubset
    _ = held.card := Set.encard_coe_eq_coe_finsetCard held
    _ ≤ replayBufferCapacity := by
        have hcard := Finset.card_image_le (s := Finset.range replayBufferCapacity)
          (f := storage.expiringNonceRing)
        rw [Finset.card_range] at hcard
        exact_mod_cast hcard

include htracks in
/-- A full ring still holds the entry of `replayBufferCapacity` acceptances
before. -/
theorem Tracks.full (hequal : ∀ first ∈ history, ∀ second ∈ history,
      first.hash = second.hash → first.validBefore = second.validBefore)
    (hfull : storage.checkAndMarkExpiringNonce entry = .error .expiringNonceSetFull) :
    ∃ oldest, replayBufferCapacity ≤ history.length ∧
      history[history.length - replayBufferCapacity]? = some oldest ∧
      blockMillis entry.timestamp < oldest.validBefore := by
  unfold checkAndMarkExpiringNonce at hfull
  dsimp only at hfull
  split at hfull
  · cases hfull
  split at hfull
  · cases hfull
  split at hfull
  · rename_i hold
    obtain ⟨hheld, hseen⟩ := Bool.and_eq_true_iff.mp hold
    obtain ⟨hlength, holdest⟩ := htracks.ring.oldest (of_decide_eq_true hheld)
    rw [length_map] at hlength holdest
    rw [List.getElem?_map] at holdest
    obtain ⟨oldest, hmember, hhash⟩ := Option.map_eq_some_iff.mp holdest
    refine ⟨oldest, hlength, hmember, ?_⟩
    obtain ⟨hsome, hlive⟩ := Bool.and_eq_true_iff.mp hseen
    obtain ⟨recorded, hrecorded, hsame, hdeadline⟩ := htracks.recorded _ (of_decide_eq_true hsome)
    rw [hequal oldest (mem_of_getElem? hmember) recorded hrecorded
      (hhash.trans hsame.symm), hdeadline]
    exact of_decide_eq_true hlive
  · cases hfull

/-- Whatever is offered at times that do not go back, an accepted hash is not
accepted again before its deadline, entries are dropped at their deadlines only,
and the ring refers to all of them. -/
theorem expiring_nonces_protected (entries : List ExpiringNonce)
    (hhashes : ∀ entry ∈ entries, entry.hash ≠ default)
    (htimes : entries.Pairwise fun earlier later =>
      earlier.timestamp ≤ later.timestamp) :
    (∀ before first between later rest,
      entries = before ++ first :: (between ++ later :: rest) →
      (empty.run before).accepts first = true → later.hash = first.hash →
      later.timestamp * 1000 < first.validBefore →
      (empty.run (before ++ first :: between)).accepts later = false) ∧
    (∀ before entry rest, entries = before ++ entry :: rest → ∀ hash,
      (empty.run (before ++ [entry])).expiringNonceSeen hash ≠
        (empty.run before).expiringNonceSeen hash →
      (empty.run before).expiringNonceSeen hash ≤
        blockMillis entry.timestamp) ∧
    (∀ before rest, entries = before ++ rest →
      (∀ hash, (empty.run before).expiringNonceSeen hash ≠ 0 →
        ∃ slot < replayBufferCapacity,
          (empty.run before).expiringNonceRing slot = hash) ∧
      { hash | (empty.run before).expiringNonceSeen hash ≠ 0 }.encard ≤
        replayBufferCapacity ∧
      (empty.run before).expiringNonceRingPtr < replayBufferCapacity) ∧
    ((∀ first ∈ entries, ∀ second ∈ entries, first.hash = second.hash →
        first.validBefore = second.validBefore) →
      ∀ before entry rest, entries = before ++ entry :: rest →
        (empty.run before).checkAndMarkExpiringNonce entry =
          .error .expiringNonceSetFull →
        ∃ oldest, replayBufferCapacity ≤ (empty.accepted before).length ∧
          (empty.accepted before)[(empty.accepted before).length -
            replayBufferCapacity]? = some oldest ∧
          blockMillis entry.timestamp < oldest.validBefore) := by
  refine ⟨?_, ?_, ?_, ?_⟩
  · rintro before first between later rest rfl hfirst hhash hdeadline
    have hsorted := (List.pairwise_cons.mp (List.pairwise_append.mp htimes).2.1).2
    have hlater : ∀ other ∈ between, other.timestamp ≤ later.timestamp :=
      fun other hother => (List.pairwise_append.mp hsorted).2.2 other hother
        later List.mem_cons_self
    have hrun : empty.run (before ++ first :: between) =
        ((empty.run before).perform first).run between := List.foldl_append
    rw [hrun]
    rcases perform_cases (empty.run before) first with
      ⟨-, haccepts⟩ | ⟨hrefused, -⟩
    · exact haccepts.refuses between hlater hhash (Nat.lt_of_le_of_lt (blockMillis_le _) hdeadline)
    · rw [hfirst] at hrefused
      cases hrefused
  · rintro before entry rest rfl hash hchanged
    apply perform_changed
    simpa [run] using hchanged
  · rintro before rest rfl
    have htracks := tracks_run before fun entry hentry =>
      hhashes entry (List.mem_append_left rest hentry)
    exact ⟨htracks.referenced, htracks.seen_encard, htracks.pointer_lt⟩
  · rintro hequal before entry rest rfl hfull
    have hmember : ∀ other ∈ empty.accepted before,
        other ∈ before ++ entry :: rest := fun other hother =>
      List.mem_append_left _ (mem_of_mem_accepted hother)
    have htracks := tracks_run before fun other hother =>
      hhashes other (List.mem_append_left _ hother)
    exact htracks.full (fun first hfirst second hsecond =>
      hequal first (hmember first hfirst) second (hmember second hsecond)) hfull

def sampleEntry : ExpiringNonce where
  timestamp
  hash := ⟨List.replicate 32 1, rfl⟩
  validBefore := 1500

/-- The same hash in the next block, before its deadline. -/
theorem expiring_nonces_protected_sample :
    empty.accepts (sampleEntry 0) = true ∧
      (empty.run [sampleEntry 0]).accepts (sampleEntry 1) = false := by
  have haccepted : empty.accepts (sampleEntry 0) = true := by decide
  refine ⟨haccepted, ?_⟩
  exact (expiring_nonces_protected [sampleEntry 0, sampleEntry 1] (by decide)
    (by decide)).1 [] _ [] _ [] rfl haccepted rfl (by decide)

end NonceManagerStorage

end BaseChain
