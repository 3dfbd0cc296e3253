/-
A run of operations on a node answers as the finite map of its keys does, and the
commitment at the end of a run depends on that map alone.
-/
import BaseChain.TrieNodeRefinement

namespace BaseChain

open Patricia

/-- An operation on a key; `lookup` stands for `open`. -/
inductive TrieOp where
  | lookup (key : Nibbles)
  | insert (key : Nibbles) (value : Bytes)
  | delete (key : Nibbles)
deriving Repr, DecidableEq

namespace TrieOp

def key : TrieOp → Nibbles
  | .lookup key => key
  | .insert key _ => key
  | .delete key => key

/-- The operation on a finite map: what it returns, and the map after it. -/
def onMap (map : Nibbles → Option Bytes) :
    TrieOp → TrieNodeResult (Option Bytes) × (Nibbles → Option Bytes)
  | .lookup key => (.ok (map key), map)
  | .insert key value => (.ok none, Function.update map key (some value))
  | .delete key =>
    match map key with
    | none => (.error (.error .keyNotFound), map)
    | some _ => (.ok none, Function.update map key none)

/-- The operation on a node: what it returns, and the node after it. -/
def onNode (keccak : Bytes → B256) (fetcher : TrieNode.Provider) (fuel : Nat)
    (node : TrieNode) : TrieOp → TrieNodeResult (Option Bytes) × TrieNode
  | .lookup key => node.openAt keccak fetcher fuel key
  | .insert key value =>
    let (result, node) := node.insert keccak fetcher fuel key value
    (result.map fun _ => none, node)
  | .delete key =>
    let (result, node) := node.delete keccak fetcher fuel key
    (result.map fun _ => none, node)

/-- One operation after the other, with all that they return. -/
def run {α β : Type} (step : α → TrieOp → β × α) : α → List TrieOp → List β × α
  | state, [] => ([], state)
  | state, op :: ops =>
    let (result, state) := step state op
    let (results, state) := run step state ops
    (result :: results, state)

end TrieOp

namespace TrieNode

variable {keccak : Bytes → B256} {fetcher : Provider} {node : TrieNode} {trie : Trie}
  {length fuel : Nat} {map : Nibbles → Option Bytes}

theorem onNode_shows {op : TrieOp} (hshows : Shows keccak fetcher node (ofMap op.key.length map))
    (hfuel : 2 * op.key.length + 3 ≤ fuel) :
    (op.onNode keccak fetcher fuel node).1 = (op.onMap map).1 ∧
      Shows keccak fetcher (op.onNode keccak fetcher fuel node).2
        (ofMap op.key.length (op.onMap map).2) := by
  have hcanon := canonical_ofMap op.key.length map
  cases op with
  | lookup key =>
    dsimp only [TrieOp.key, TrieOp.onNode] at *
    obtain ⟨after, hopen, hafter⟩ := openAt_shows hcanon hshows rfl (.of_le hfuel node)
    rw [hopen]
    exact ⟨congrArg Except.ok (lookup_ofMap map), hafter⟩
  | insert key value =>
    dsimp only [TrieOp.key, TrieOp.onNode] at *
    obtain ⟨after, hinsert, hafter⟩ := insert_shows value hcanon hshows rfl (.of_le hfuel node)
    rw [hinsert]
    refine ⟨rfl, ?_⟩
    rwa [insert_ofMap] at hafter
  | delete key =>
    dsimp only [TrieOp.key, TrieOp.onNode, TrieOp.onMap] at *
    have hdelete := delete_shows hcanon hshows rfl (.of_le hfuel node)
    rw [delete_ofMap] at hdelete
    cases hkey : map key with
    | none =>
      rw [hkey] at hdelete
      obtain ⟨after, heq, hafter⟩ := hdelete
      rw [heq]
      exact ⟨rfl, hafter⟩
    | some =>
      rw [hkey] at hdelete
      obtain ⟨after, heq, hafter, -⟩ := hdelete
      rw [heq]
      exact ⟨rfl, hafter⟩

theorem run_shows {ops : List TrieOp} (hshows : Shows keccak fetcher node (ofMap length map))
    (hkeys : ∀ op ∈ ops, op.key.length = length) (hfuel : 2 * length + 3 ≤ fuel) :
    (TrieOp.run (fun node op => op.onNode keccak fetcher fuel node) node ops).1 =
        (TrieOp.run (fun map op => op.onMap map) map ops).1 ∧
      Shows keccak fetcher (TrieOp.run (fun node op => op.onNode keccak fetcher fuel node) node
          ops).2
        (ofMap length (TrieOp.run (fun map op => op.onMap map) map ops).2) := by
  induction ops generalizing node map with
  | nil => exact ⟨rfl, hshows⟩
  | cons op ops ih =>
    have hkey := hkeys op List.mem_cons_self
    subst hkey
    obtain ⟨hresult, hnext⟩ := onNode_shows hshows hfuel
    obtain ⟨hresults, hlast⟩ :=
      ih hnext fun later hlater => hkeys later (List.mem_cons_of_mem op hlater)
    exact ⟨congr (congrArg List.cons hresult) hresults, hlast⟩

/-- From any node that shows a canonical trie over keys of one length, whichever
of its long nodes are hidden, a run of operations on keys of that length returns
what the operations on the finite map return: the stored value or nothing,
success, or `KeyNotFound` exactly for a key that is absent.  The node at the end
shows the canonical trie of the map at the end. -/
theorem run_refines_map {ops : List TrieOp}
    (hcanonical : trie.Canonical length)
    (hshows : Shows keccak fetcher node trie)
    (hkeys : ∀ op ∈ ops, op.key.length = length)
    (hfuel : 2 * length + 3 ≤ fuel) :
    (TrieOp.run (fun node op => op.onNode keccak fetcher fuel node) node ops).1 =
        (TrieOp.run (fun map op => op.onMap map) trie.lookup ops).1 ∧
      ∃ after : Trie, after.Canonical length ∧
        Shows keccak fetcher
          (TrieOp.run (fun node op => op.onNode keccak fetcher fuel node) node
            ops).2 after ∧
        ∀ key, key.length = length → after.lookup key =
          (TrieOp.run (fun map op => op.onMap map) trie.lookup ops).2 key := by
  rw [← hcanonical.eq_ofMap] at hshows
  obtain ⟨hresults, hlast⟩ := run_shows hshows hkeys hfuel
  refine ⟨hresults, _, Patricia.canonical_ofMap _ _, hlast, ?_⟩
  rintro key rfl
  exact Patricia.lookup_ofMap _

def sampleKeccak (data : Bytes) : B256 := ⟨List.replicate 32 (UInt8.ofNat data.length), by simp⟩

variable (nibble : Nibble)

def sampleLeaf : Trie := .leaf [nibble] (List.replicate 8 3)

/-- Two keys of two nibbles. -/
def sampleTrie : Trie := .branch fun digit =>
    if digit = 1 then sampleLeaf 2 else if digit = 5 then sampleLeaf 7 else .empty

theorem sampleTrie_canonical : sampleTrie.Canonical 2 := by
  apply Patricia.Canonical.branch
  · intro digit
    split
    · exact .leaf rfl
    · split
      · exact .leaf rfl
      · exact .empty
  · exact ⟨1, 5, by decide, nofun, nofun⟩

def sampleProvider : Provider := fun _ => .ok (reveal sampleKeccak (ofTrie sampleTrie))

theorem fits_sampleLeaf : Fits (ofTrie (sampleLeaf nibble)) := by
  revert nibble
  simp only [sampleLeaf, ofTrie, Fits]
  decide +kernel

theorem known_sampleLeaf : Known sampleKeccak sampleProvider (sampleLeaf nibble) := by
  refine ⟨fun hlong => absurd hlong ?_, fits_sampleLeaf nibble⟩
  revert nibble
  decide +kernel

theorem fits_sampleTrie : Fits (ofTrie sampleTrie) := by
  intro index
  dsimp only
  split
  · split
    · exact fits_sampleLeaf 2
    · split
      · exact fits_sampleLeaf 7
      · trivial
  · trivial

theorem known_sampleTrie : Known sampleKeccak sampleProvider sampleTrie := by
  refine ⟨fun _ => ⟨by decide +kernel, ?_⟩, fits_sampleTrie, ?_⟩
  · intro node hdecode
    have hreveal := @decode_reveal sampleKeccak _ fits_sampleTrie
    cases hreveal.symm.trans hdecode
    rfl
  · intro digit
    dsimp only
    split
    · exact known_sampleLeaf 2
    · split
      · exact known_sampleLeaf 7
      · trivial

/-- Only the hash of the root is there. -/
def sampleRoot : TrieNode := .blinded ((ofTrie sampleTrie).blind sampleKeccak)

theorem shows_sampleRoot : Shows sampleKeccak sampleProvider sampleRoot sampleTrie :=
  .blinded (by decide +kernel) known_sampleTrie

theorem run_refines_map_sample :
    (TrieOp.run (fun node op => op.onNode sampleKeccak sampleProvider 7 node)
      sampleRoot [.lookup [1, 2], .delete [5, 7], .delete [5, 7],
        .insert [1, 3] [9], .lookup [1, 3]]).1 =
      [.ok (some (List.replicate 8 3)), .ok none, .error (.error .keyNotFound),
        .ok none, .ok (some [9])] :=
  (run_refines_map sampleTrie_canonical shows_sampleRoot (by decide) (by decide)).1

/-- The form that the operations keep: a stem on every extension and a branch
below it, two entries in every branch and none in its value slot.  What is hidden
is not looked at. -/
def Compact : TrieNode → Prop
  | .empty => True
  | .blinded _ => True
  | .leaf _ _ => True
  | .extension stem node =>
    stem ≠ [] ∧ Compact node ∧ ((∃ stack, node = .branch stack) ∨
        ∃ commitment, node = .blinded commitment)
  | .branch stack =>
    stack (Fin.last 16) = .empty ∧ (∀ index, Compact (stack index)) ∧
      ∃ first second, first ≠ second ∧ stack first ≠ .empty ∧ stack second ≠ .empty

theorem Shows.compact (hshows : Shows keccak fetcher node trie)
    (hcanon : trie.Canonical length) : Compact node := by
  induction hshows generalizing length with
  | empty | leaf | blinded hlong hknown => trivial
  | extension hnode ih =>
    cases hcanon with
    | extension hstem hlength hbranch =>
      refine ⟨hstem, ih hbranch, ?_⟩
      cases hnode with
      | branch => exact .inl ⟨_, rfl⟩
      | blinded => exact .inr ⟨_, rfl⟩
  | @branch stack children hkids hvalue ih =>
    cases hcanon with
    | branch hcanon hspread =>
      refine ⟨hvalue, ?_, ?_⟩
      · intro index
        cases index using Fin.lastCases with
        | last =>
          rw [hvalue]
          trivial
        | cast digit => exact ih digit (hcanon digit)
      · obtain ⟨first, second, hne, hfirst, hsecond⟩ := hspread
        exact ⟨first.castSucc, second.castSucc, fun hsame => hne (Fin.castSucc_inj.mp hsame),
          fun hempty => hfirst ((hkids first).eq_empty_iff.mp hempty),
          fun hempty => hsecond ((hkids second).eq_empty_iff.mp hempty)⟩

/-- Two runs that end in the same map end in the same commitment, from whichever
canonical tries they start, whatever is hidden in them and whatever providers
answer.  Both end in nodes that show one canonical trie. -/
theorem blind_eq_of_same_map {other : TrieNode} {otherTrie : Trie}
    {otherFetcher : Provider} {ops otherOps : List TrieOp}
    (hcanonical : trie.Canonical length)
    (hotherCanonical : otherTrie.Canonical length)
    (hshows : Shows keccak fetcher node trie)
    (hotherShows : Shows keccak otherFetcher other otherTrie)
    (hkeys : ∀ op ∈ ops, op.key.length = length)
    (hotherKeys : ∀ op ∈ otherOps, op.key.length = length)
    (hfuel : 2 * length + 3 ≤ fuel)
    (hmap : ∀ key : Nibbles, key.length = length →
      (TrieOp.run (fun map op => op.onMap map) trie.lookup ops).2 key =
        (TrieOp.run (fun map op => op.onMap map) otherTrie.lookup
          otherOps).2 key) :
    let last := (TrieOp.run
      (fun node op => op.onNode keccak fetcher fuel node) node ops).2
    let otherLast := (TrieOp.run
      (fun node op => op.onNode keccak otherFetcher fuel node) other otherOps).2
    last.blind keccak = otherLast.blind keccak ∧
      last.Compact ∧ otherLast.Compact ∧
      ∃ after : Trie, after.Canonical length ∧
        Shows keccak fetcher last after ∧
        Shows keccak otherFetcher otherLast after := by
  intro last otherLast
  rw [← hcanonical.eq_ofMap] at hshows
  rw [← hotherCanonical.eq_ofMap] at hotherShows
  have hlast := (run_shows hshows hkeys hfuel).2
  have hotherLast := (run_shows hotherShows hotherKeys hfuel).2
  rw [← Patricia.ofMap_congr hmap] at hotherLast
  have hafter := Patricia.canonical_ofMap length
    (TrieOp.run (fun map op => op.onMap map) trie.lookup ops).2
  exact ⟨hlast.blind_eq.trans hotherLast.blind_eq.symm, hlast.compact hafter,
    hotherLast.compact hafter, _, hafter, hlast, hotherLast⟩

/-- A deletion that is taken back, against no operation at all. -/
theorem blind_eq_of_same_map_sample :
    (TrieOp.run (fun node op => op.onNode sampleKeccak sampleProvider 7 node)
      sampleRoot [.delete [5, 7], .insert [5, 7] (List.replicate 8 3)]).2.blind
        sampleKeccak = sampleRoot.blind sampleKeccak := by
  refine (@blind_eq_of_same_map sampleKeccak sampleProvider _ _ 2 7 _ _
    sampleProvider _ [] sampleTrie_canonical sampleTrie_canonical
    shows_sampleRoot shows_sampleRoot (by decide) nofun (by decide) ?_).1
  intro key _
  by_cases hkey : key = [5, 7]
  · subst hkey
    rfl
  · exact (Function.update_of_ne hkey _ _).trans (Function.update_of_ne hkey _ _)

end TrieNode

end BaseChain
