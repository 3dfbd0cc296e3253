/-
The totals of a pool agree with its transactions: size, transactions of a sender
and references to an address.
-/
import BaseChain.TwoDNoncePool
import Mathlib.Data.Nat.SuccPred

namespace BaseChain

open Function Table PoolTransaction

/-- A count that is kept only while it is not zero. -/
def present (count : Nat) : Option Nat := if count = 0 then none else some count

@[simp] theorem present_zero : present 0 = none := rfl

@[simp] theorem present_succ (count : Nat) : present (count + 1) = some (count + 1) :=
  if_neg (Nat.succ_ne_zero count)

theorem present_eq_some {count kept : Nat} :
    present count = some kept ↔ count = kept ∧ 0 < count := by
  cases count with
  | zero => simp
  | succ count =>
    constructor
    · intro hsame
      exact ⟨Option.some.inj hsame, Nat.succ_pos count⟩
    · rintro ⟨rfl, -⟩
      rfl

namespace PoolTransaction

variable (transaction : PoolTransaction)

/-- How often a transaction refers to an address, as its sender or sponsor. -/
def references (address : Address) : Nat := (if transaction.sender = address then 1 else 0) +
    if transaction.sponsor = some address then 1 else 0

theorem sponsor_ne_sender : transaction.sponsor ≠ some transaction.sender := by
  intro hsponsor
  obtain ⟨limit, hlimit, hpayer⟩ := Option.map_eq_some_iff.mp hsponsor
  have hother := (Option.filter_eq_some_iff.mp hlimit).2
  simp [hpayer] at hother

/-- A count that is changed at the sender and then at the sponsor is changed once for
every reference. -/
theorem iterate_references (change : Nat → Nat) (count : Address → Nat) (address : Address) :
    (let sent := update count transaction.sender (change (count transaction.sender))
     transaction.sponsor.elim sent fun payer => update sent payer (change (sent payer))) address =
      change^[transaction.references address] (count address) := by
  have hsender := transaction.sponsor_ne_sender
  unfold references
  cases hsponsor : transaction.sponsor with
  | none =>
    by_cases haddr : transaction.sender = address
    · simp [← haddr]
    · simp [haddr, update_of_ne (Ne.symm haddr)]
  | some payer =>
    have hne : payer ≠ transaction.sender := fun hsame => hsender (hsponsor.trans (hsame ▸ rfl))
    by_cases haddr : transaction.sender = address
    · subst haddr
      simp [hne, Ne.symm hne]
    · by_cases hpays : payer = address
      · subst hpays
        simp [haddr, hne]
      · simp [haddr, hpays, update_of_ne (Ne.symm haddr), update_of_ne (Ne.symm hpays)]

end PoolTransaction

variable {senderIds : SidecarSenderIds}

namespace SidecarSenderIds

variable {count : Address → Nat} {address : Address} {id : Nat}

/-- Every address with references has one id, with as many references as
counted. -/
structure Counts (senderIds : SidecarSenderIds) (count : Address → Nat) : Prop where
  references : ∀ address, (senderIds.ids.lookup address).map Prod.snd = present (count address)
  named : ∀ id address, senderIds.addresses.lookup id = some address ↔
    ∃ references, senderIds.ids.lookup address = some (id, references)

section

variable (hcounts : senderIds.Counts count)
include hcounts

theorem Counts.congr {other : Address → Nat} (hsame : ∀ address, count address = other address) :
    senderIds.Counts other := by
  refine ⟨fun address => ?_, hcounts.named⟩
  rw [← hsame]
  exact hcounts.references address

theorem Counts.lookup_eq_some
    {references : Nat} (hid : senderIds.ids.lookup address = some (id, references)) :
    count address = references ∧ 0 < count address := by
  have hrefs := hcounts.references address
  rw [hid] at hrefs
  exact present_eq_some.mp hrefs.symm

theorem Counts.exists_id (hpositive : 0 < count address) :
    ∃ id, senderIds.ids.lookup address = some (id, count address) := by
  have hrefs := hcounts.references address
  rw [present, if_neg (Nat.pos_iff_ne_zero.mp hpositive)] at hrefs
  obtain ⟨⟨id, references⟩, hid, rfl⟩ := Option.map_eq_some_iff.mp hrefs
  exact ⟨id, hid⟩

theorem Counts.lookup_eq_none (hid : senderIds.ids.lookup address = none) : count address = 0 := by
  by_contra hpositive
  obtain ⟨id, hfound⟩ := hcounts.exists_id (Nat.pos_iff_ne_zero.mpr hpositive)
  rw [hid] at hfound
  cases hfound

theorem Counts.references_of_lookup {ids : Table Address (Nat × Nat)}
    {entry : Option (Nat × Nat)} {next : Nat}
    (hids : ∀ other, ids.lookup other = if other = address then entry
      else senderIds.ids.lookup other)
    (hentry : entry.map Prod.snd = present next) (other : Address) :
    (ids.lookup other).map Prod.snd = present (update count address next other) := by
  rw [hids]
  by_cases hother : other = address
  · subst hother
    rw [if_pos rfl, update_self, hentry]
  · rw [if_neg hother, update_of_ne hother]
    exact hcounts.references other

/-- Another number of references under the same id. -/
theorem Counts.recount {references next : Nat}
    (hheld : senderIds.ids.lookup address = some (id, references)) (hnext : 0 < next) :
    Counts { senderIds with ids := senderIds.ids.insert address (id, next) }
      (update count address next) := by
  refine ⟨hcounts.references_of_lookup (lookup_insert _ _ · _)
    (present_eq_some.mpr ⟨rfl, hnext⟩).symm, fun name other => ?_⟩
  rw [hcounts.named, lookup_insert]
  by_cases hother : other = address
  · subst hother
    rw [hheld]
    simp
  · rw [if_neg hother]

/-- One reference more.  A new id must not be in use. -/
theorem Counts.acquire (address : Address)
    (hfresh : senderIds.addresses.lookup senderIds.nextId = none) :
    (senderIds.acquire address).2.Counts (update count address (count address + 1)) ∧
      (senderIds.acquire address).2.addresses.lookup (senderIds.acquire address).1 = some address ∧
      ∀ id other, senderIds.addresses.lookup id = some other →
        (senderIds.acquire address).2.addresses.lookup id = some other := by
  unfold SidecarSenderIds.acquire
  cases hid : senderIds.ids.lookup address with
  | some entry =>
    obtain ⟨id, references⟩ := entry
    obtain ⟨hcount, -⟩ := hcounts.lookup_eq_some hid
    rw [hcount]
    exact ⟨hcounts.recount hid (Nat.succ_pos references),
      (hcounts.named id address).mpr ⟨references, hid⟩, fun name other hname => hname⟩
  | none =>
    have hzero := hcounts.lookup_eq_none hid
    have hunused : ∀ name other, senderIds.addresses.lookup name = some other →
        name ≠ senderIds.nextId := by
      rintro name other hname rfl
      rw [hfresh] at hname
      cases hname
    rw [hzero]
    refine ⟨⟨hcounts.references_of_lookup (lookup_insert _ _ · _) rfl, fun name other => ?_⟩,
      Finmap.lookup_insert _, ?_⟩
    · rw [lookup_insert, lookup_insert]
      by_cases hname : name = senderIds.nextId
      · subst hname
        rw [if_pos rfl]
        by_cases hother : other = address
        · subst hother
          simp
        · rw [if_neg hother]
          constructor
          · intro hsame
            exact absurd (Option.some.inj hsame).symm hother
          · intro hheld
            exact absurd rfl (hunused _ _ ((hcounts.named _ _).mpr hheld))
      · rw [if_neg hname]
        by_cases hother : other = address
        · subst hother
          rw [hcounts.named, hid]
          simp [Ne.symm hname]
        · rw [if_neg hother]
          exact hcounts.named name other
    · intro name other hname
      rw [lookup_insert, if_neg (hunused name other hname)]
      exact hname

/-- One reference less.  Addresses that are still referred to keep their ids. -/
theorem Counts.release (hid : senderIds.addresses.lookup id = some address) :
    (senderIds.release id).Counts (update count address (count address - 1)) ∧
      ∀ name other, senderIds.addresses.lookup name = some other →
        0 < update count address (count address - 1) other →
        (senderIds.release id).addresses.lookup name = some other := by
  obtain ⟨references, hheld⟩ := (hcounts.named id address).mp hid
  obtain ⟨hcount, hpositive⟩ := hcounts.lookup_eq_some hheld
  have hname : ∀ name, senderIds.addresses.lookup name = some address → name = id := by
    intro name hname
    obtain ⟨kept, hkept⟩ := (hcounts.named name address).mp hname
    rw [hheld] at hkept
    exact (congrArg Prod.fst (Option.some.inj hkept)).symm
  unfold SidecarSenderIds.release
  rw [hid]
  dsimp only
  rw [hheld]
  dsimp only
  rw [hcount]
  split
  · rename_i hlast
    rw [hlast]
    refine ⟨⟨hcounts.references_of_lookup (lookup_erase _ _) rfl, fun name other => ?_⟩, ?_⟩
    · rw [lookup_erase, lookup_erase]
      by_cases hother : other = address
      · subst hother
        rw [if_pos rfl]
        by_cases hsame : name = id
        · rw [if_pos hsame]
          simp
        · rw [if_neg hsame]
          constructor
          · intro hused
            exact absurd (hname name hused) hsame
          · nofun
      · rw [if_neg hother]
        by_cases hsame : name = id
        · subst hsame
          rw [if_pos rfl]
          constructor
          · nofun
          · intro hused
            rw [(hcounts.named name other).mpr hused] at hid
            exact absurd (Option.some.inj hid) hother
        · rw [if_neg hsame]
          exact hcounts.named name other
    · intro name other hused hkept
      have hother : other ≠ address := by
        rintro rfl
        rw [update_self] at hkept
        cases hkept
      have hsame : name ≠ id := by
        rintro rfl
        rw [hid] at hused
        exact hother (Option.some.inj hused).symm
      rw [lookup_erase, if_neg hsame]
      exact hused
  · rename_i hmore
    exact ⟨hcounts.recount hheld (Nat.pos_iff_ne_zero.mpr hmore), fun name other hused _ => hused⟩

end

/-- Every id in use was handed out before the next one. -/
def Issued (senderIds : SidecarSenderIds) : Prop :=
  ∀ id address, senderIds.addresses.lookup id = some address → id < senderIds.nextId

theorem Issued.fresh (hissued : senderIds.Issued) :
    senderIds.addresses.lookup senderIds.nextId = none := by
  cases hused : senderIds.addresses.lookup senderIds.nextId with
  | none => rfl
  | some => exact absurd (hissued _ _ hused) (lt_irrefl _)

theorem Issued.acquire (hissued : senderIds.Issued) (address : Address)
    (hroom : senderIds.nextId + 1 < 2 ^ 64) :
    (senderIds.acquire address).2.Issued ∧
      (senderIds.acquire address).2.nextId ≤ senderIds.nextId + 1 := by
  unfold SidecarSenderIds.acquire
  split
  · exact ⟨hissued, Nat.le_succ _⟩
  · refine ⟨?_, Nat.mod_le _ _⟩
    intro id other hused
    rw [Nat.mod_eq_of_lt hroom]
    rw [lookup_insert] at hused
    split at hused
    · rename_i hsame
      rw [hsame]
      exact Nat.lt_succ_self _
    · exact Nat.lt_succ_of_lt (hissued id other hused)

theorem release_nextId (senderIds : SidecarSenderIds) (id : Nat) :
    (senderIds.release id).nextId = senderIds.nextId := by
  unfold release
  split
  · rfl
  split
  · rfl
  split
  · rfl
  · rfl

theorem Issued.release (hissued : senderIds.Issued) (id : Nat) : (senderIds.release id).Issued := by
  unfold SidecarSenderIds.release
  split
  · exact hissued
  split
  · exact hissued
  split
  · intro name address hused
    rw [lookup_erase] at hused
    split at hused
    · cases hused
    · exact hissued name address hused
  · exact hissued

end SidecarSenderIds

namespace SidecarUsage

variable {usage : SidecarUsage} {extra : Address → Nat}
  {hashes : Table TxHash PoolTransaction} {transaction : PoolTransaction}

/-- The ids of a transaction stand for its sender and its sponsor. -/
def Names (senderIds : SidecarSenderIds) (transaction : PoolTransaction) : Prop :=
  senderIds.addresses.lookup transaction.senderId = some transaction.sender ∧
    match transaction.sponsor with
    | none => transaction.authorityIds = none
    | some payer => ∃ payerId, transaction.authorityIds = some [payerId] ∧
        senderIds.addresses.lookup payerId = some payer

theorem Names.mono {other : SidecarSenderIds} (hnames : Names senderIds transaction)
    (hkept : ∀ id address, senderIds.addresses.lookup id = some address →
      0 < transaction.references address →
      other.addresses.lookup id = some address) :
    Names other transaction := by
  have hsender : 0 < transaction.references transaction.sender := by
    unfold references
    rw [if_pos rfl]
    exact Nat.succ_le_iff.mp (Nat.le_add_right 1 _)
  refine ⟨hkept _ _ hnames.1 hsender, ?_⟩
  have hauthority := hnames.2
  revert hauthority
  cases hsponsor : transaction.sponsor with
  | none => exact id
  | some =>
    rintro ⟨payerId, hids, hpayer⟩
    refine ⟨payerId, hids, hkept _ _ hpayer ?_⟩
    unfold references
    rw [hsponsor, if_pos rfl]
    exact Nat.succ_pos _

/-- The transactions of one sender. -/
def bySender (hashes : Table TxHash PoolTransaction) (sender : Address) : Nat :=
  total (fun transaction => if transaction.sender = sender then 1 else 0) hashes

/-- The references that the transactions make to an address. -/
def referencesTo (hashes : Table TxHash PoolTransaction) (address : Address) : Nat :=
  total (fun transaction => transaction.references address) hashes

/-- The totals agree with the pooled transactions; there may be references of a
transaction that is on its way into the pool. -/
structure Accounted (extra : Address → Nat)
    (hashes : Table TxHash PoolTransaction) (usage : SidecarUsage) : Prop where
  size : usage.size = total PoolTransaction.size hashes
  perSender : ∀ sender, usage.perSender.lookup sender = present (bySender hashes sender)
  counts : usage.senderIds.Counts fun address =>
    referencesTo hashes address + extra address
  names : ∀ hash transaction, hashes.lookup hash = some transaction →
    Names usage.senderIds transaction
  issued : usage.senderIds.Issued

theorem lookup_dropSender (perSender : Table Address Nat) (sender other : Address) {count : Nat}
    (hcount : perSender.lookup sender = present (count + 1)) :
    (dropSender perSender sender).lookup other =
      if other = sender then present count else perSender.lookup other := by
  rw [present_succ] at hcount
  unfold dropSender
  rw [hcount]
  dsimp only
  rw [Nat.add_sub_cancel]
  split
  · rename_i hlast
    rw [lookup_erase, hlast]
    rfl
  · rename_i hmore
    rw [lookup_insert, present, if_neg hmore]

/-- The ids after a transaction gave up its references. -/
theorem release_names {count : Address → Nat} (hcounts : senderIds.Counts count)
    (hnames : Names senderIds transaction)
    (henough : ∀ address, transaction.references address ≤ count address) :
    ((transaction.authorityIds.getD []).foldl SidecarSenderIds.release
        (senderIds.release transaction.senderId)).Counts
          (fun address => count address - transaction.references address) ∧
      ∀ id address, senderIds.addresses.lookup id = some address →
        0 < count address - transaction.references address →
        ((transaction.authorityIds.getD []).foldl SidecarSenderIds.release
          (senderIds.release transaction.senderId)).addresses.lookup id = some address := by
  obtain ⟨hsender, hauthority⟩ := hnames
  obtain ⟨hcounts, hkept⟩ := hcounts.release hsender
  have hrefs := fun address => (transaction.iterate_references Nat.pred count address).trans
    (Nat.pred_iterate _ _)
  have hne := transaction.sponsor_ne_sender
  revert hauthority hrefs
  cases hsponsor : transaction.sponsor with
  | none =>
    intro hids hrefs
    rw [hids]
    refine ⟨hcounts.congr hrefs, ?_⟩
    intro id address hid hpositive
    rw [← hrefs] at hpositive
    exact hkept id address hid hpositive
  | some payer =>
    rintro ⟨payerId, hids, hpayer⟩ hrefs
    replace hne : payer ≠ transaction.sender := fun hsame => hne (hsponsor.trans (hsame ▸ rfl))
    have hpositive := henough payer
    unfold references at hpositive
    rw [hsponsor, if_pos rfl, if_neg (Ne.symm hne)] at hpositive
    have hheld : 0 < update count transaction.sender (count transaction.sender - 1) payer := by
      rw [update_of_ne hne]
      exact hpositive
    obtain ⟨hcounts, hkeptBoth⟩ := hcounts.release (hkept payerId payer hpayer hheld)
    rw [hids]
    refine ⟨hcounts.congr hrefs, ?_⟩
    intro id address hid hmore
    rw [← hrefs] at hmore
    apply hkeptBoth id address _ hmore
    apply hkept id address hid
    by_cases haddr : address = payer
    · rwa [haddr]
    · dsimp only [Option.elim] at hmore
      rwa [update_of_ne haddr] at hmore

theorem Accounted.remove (hacct : Accounted extra hashes usage)
    (hpooled : hashes.lookup transaction.hash = some transaction) :
    Accounted extra (hashes.erase transaction.hash) (usage.remove transaction) := by
  have htotal : ∀ quantity : PoolTransaction → Nat, total quantity hashes =
      quantity transaction + total quantity (hashes.erase transaction.hash) :=
    fun quantity => total_erase quantity hpooled
  have hrefs : ∀ address, referencesTo hashes address = transaction.references address +
        referencesTo (hashes.erase transaction.hash) address :=
    fun address => htotal _
  obtain ⟨hcounts, hkept⟩ := release_names hacct.counts
    (hacct.names _ _ hpooled) (fun address => by
      rw [hrefs, add_assoc]
      exact Nat.le_add_right _ _)
  have hrest : ∀ address, referencesTo hashes address + extra address -
      transaction.references address =
        referencesTo (hashes.erase transaction.hash) address + extra address := by
    intro address
    rw [hrefs, add_assoc, Nat.add_sub_cancel_left]
  refine ⟨?_, ?_, hcounts.congr hrest, ?_, ?_⟩
  · show usage.size - transaction.size = _
    rw [hacct.size, htotal, Nat.add_sub_cancel_left]
  · intro sender
    have hsender : usage.perSender.lookup transaction.sender =
        present (bySender (hashes.erase transaction.hash) transaction.sender + 1) := by
      rw [hacct.perSender, bySender, htotal, if_pos rfl, add_comm]
      rfl
    show (dropSender usage.perSender transaction.sender).lookup sender = _
    rw [lookup_dropSender _ _ _ hsender]
    split
    · rename_i hsame
      rw [hsame]
    · rename_i hother
      rw [hacct.perSender, bySender, htotal, if_neg (Ne.symm hother), zero_add]
      rfl
  · intro hash other hother
    rw [lookup_erase] at hother
    split at hother
    · cases hother
    rename_i hhash
    apply (hacct.names hash other hother).mono
    intro id address hid hrefers
    apply hkept id address hid
    rw [hrest]
    have hless : other.references address ≤
        referencesTo (hashes.erase transaction.hash) address := by
      apply quantity_le_total fun other : PoolTransaction => other.references address
      rw [lookup_erase, if_neg hhash]
      exact hother
    omega
  · have hfold : ∀ (ids : List Nat) (senderIds : SidecarSenderIds), senderIds.Issued →
          (ids.foldl SidecarSenderIds.release senderIds).Issued := by
      intro ids
      induction ids with
      | nil => exact fun senderIds hissued => hissued
      | cons id ids ih => exact fun senderIds hissued => ih _ (hissued.release id)
    exact hfold _ _ (hacct.issued.release _)

/-- References from outside the pool keep their ids when a transaction leaves. -/
theorem Accounted.remove_names (hacct : Accounted extra hashes usage)
    (hpooled : hashes.lookup transaction.hash = some transaction)
    {other : PoolTransaction} (hnames : Names usage.senderIds other)
    (hextra : ∀ address, other.references address ≤ extra address) :
    Names (usage.remove transaction).senderIds other := by
  have hrefs : ∀ address, referencesTo hashes address = transaction.references address +
        referencesTo (hashes.erase transaction.hash) address :=
    fun address => total_erase _ hpooled
  obtain ⟨-, hkept⟩ := release_names hacct.counts
    (hacct.names _ _ hpooled) (fun address => by
      rw [hrefs, add_assoc]
      exact Nat.le_add_right _ _)
  apply hnames.mono
  intro id address hid hrefers
  apply hkept id address hid
  have hless := hextra address
  rw [hrefs]
  omega

/-- The next id is the same after a transaction left. -/
theorem remove_nextId (usage : SidecarUsage) (transaction : PoolTransaction) :
    (usage.remove transaction).senderIds.nextId = usage.senderIds.nextId := by
  have hfold : ∀ (ids : List Nat) (senderIds : SidecarSenderIds),
      (ids.foldl SidecarSenderIds.release senderIds).nextId = senderIds.nextId := by
    intro ids
    induction ids with
    | nil => exact fun senderIds => rfl
    | cons id ids ih =>
      intro senderIds
      exact (ih _).trans (senderIds.release_nextId id)
  exact (hfold _ _).trans (SidecarSenderIds.release_nextId _ _)

theorem Accounted.add (hacct : Accounted
      (fun address => transaction.references address + extra address) hashes usage)
    (hnames : Names usage.senderIds transaction)
    (hnew : hashes.lookup transaction.hash = none) :
    Accounted extra (hashes.insert transaction.hash transaction) (usage.add transaction) := by
  have htotal : ∀ quantity : PoolTransaction → Nat,
      total quantity (hashes.insert transaction.hash transaction) =
        quantity transaction + total quantity hashes :=
    fun quantity => total_insert quantity hnew transaction
  refine ⟨?_, ?_, ?_, ?_, hacct.issued⟩
  · show usage.size + transaction.size = _
    rw [hacct.size, htotal, add_comm]
  · intro sender
    show (usage.perSender.insert _ _).lookup sender = _
    rw [lookup_insert, bySender, htotal]
    split
    · rename_i hsame
      subst hsame
      unfold senderCount
      rw [hacct.perSender, if_pos rfl, add_comm 1]
      cases hcount : bySender hashes transaction.sender with
      | zero | succ count =>
        rw [bySender] at hcount
        rw [hcount]
        rfl
    · rename_i hother
      rw [hacct.perSender, if_neg (Ne.symm hother), zero_add]
      rfl
  · apply hacct.counts.congr
    intro address
    show referencesTo hashes address + (transaction.references address + extra address) = _
    rw [referencesTo, referencesTo, htotal]
    omega
  · intro hash other hother
    rw [lookup_insert] at hother
    split at hother
    · cases hother
      exact hnames
    · exact hacct.names hash other hother

end SidecarUsage

namespace TwoDNoncePool

open SidecarUsage

/-- Assigning ids changes nothing else about a transaction. -/
theorem acquireIds_eq (senderIds : SidecarSenderIds) (transaction : PoolTransaction) :
    ∃ senderId authorityIds after, acquireIds senderIds transaction =
      ({ transaction with senderId, authorityIds }, after) := by
  unfold acquireIds
  dsimp only
  split
  · exact ⟨_, _, _, rfl⟩
  · exact ⟨_, _, _, rfl⟩

theorem acquireIds_accounted {extra : Address → Nat}
    {hashes : Table TxHash PoolTransaction} {usage : SidecarUsage}
    (hacct : Accounted extra hashes usage) (transaction : PoolTransaction)
    (hroom : usage.senderIds.nextId + 2 < 2 ^ 64) :
    Accounted (fun address => transaction.references address + extra address)
        hashes { usage with
          senderIds := (acquireIds usage.senderIds transaction).2 } ∧
      Names (acquireIds usage.senderIds transaction).2 (acquireIds usage.senderIds transaction).1 ∧
      (acquireIds usage.senderIds transaction).2.nextId ≤ usage.senderIds.nextId + 2 := by
  obtain ⟨hcounts, hsender, hkept⟩ := hacct.counts.acquire transaction.sender hacct.issued.fresh
  obtain ⟨hissued, hnext⟩ := hacct.issued.acquire transaction.sender (by omega)
  have hrefs := fun address => ((transaction.iterate_references Nat.succ
    (fun address => referencesTo hashes address + extra address) address).trans
      (Nat.succ_iterate _ _)).trans (show _ = referencesTo hashes address +
        (transaction.references address + extra address) by omega)
  revert hrefs
  unfold acquireIds
  cases hsponsor : transaction.sponsor with
  | none =>
    intro hrefs
    refine ⟨⟨hacct.size, hacct.perSender, hcounts.congr hrefs, ?_, hissued⟩, ⟨hsender, ?_⟩,
      Nat.le_succ_of_le hnext⟩
    · intro hash other hother
      exact (hacct.names hash other hother).mono fun id address hid _ => hkept id address hid
    · show match transaction.sponsor with
        | none | some payer => _
      rw [hsponsor]
  | some payer =>
    intro hrefs
    obtain ⟨hcounts, hpayer, hkeptBoth⟩ := hcounts.acquire payer hissued.fresh
    obtain ⟨hissued, hlater⟩ := hissued.acquire payer (by omega)
    refine ⟨⟨hacct.size, hacct.perSender, hcounts.congr hrefs, ?_, hissued⟩,
      ⟨hkeptBoth _ _ hsender, ?_⟩, hlater.trans (Nat.succ_le_succ hnext)⟩
    · intro hash other hother
      exact (hacct.names hash other hother).mono fun id address hid _ =>
        hkeptBoth id address (hkept id address hid)
    · show match transaction.sponsor with
        | none | some payer => _
      rw [hsponsor]
      exact ⟨_, rfl, hpayer⟩

end TwoDNoncePool

end BaseChain
