/-
Open, insert and delete on a node do to the trie that it shows what the
operations on tries do.
-/
import BaseChain.TrieNodeShows

namespace BaseChain

open Function List Patricia

theorem exists_drop_cons {α : Type} {list : List α} {count : Nat} (hcount : count < list.length) :
    ∃ first rest, list.drop count = first :: rest :=
  ⟨_, _, drop_eq_getElem_cons hcount⟩

namespace TrieNode

variable {keccak : Bytes → B256} {fetcher : Provider} {node : TrieNode} {trie : Trie}

/-- Enough fuel for the keys of a length; a hidden node takes one step more. -/
def Enough (length fuel : Nat) : TrieNode → Prop
  | .blinded _ => 2 * length + 3 ≤ fuel
  | _ => 2 * length + 2 ≤ fuel

variable {length fuel : Nat}

theorem Enough.of_le (hfuel : 2 * length + 3 ≤ fuel) (node : TrieNode) :
    Enough length fuel node := by
  cases node with
  | blinded => exact hfuel
  | empty | leaf stem value | extension stem node | branch stack => exact Nat.le_of_succ_le hfuel

theorem Enough.of_revealed (hrevealed : ∀ commitment, node ≠ .blinded commitment)
    (hfuel : 2 * length + 2 ≤ fuel) : Enough length fuel node := by
  cases node with
  | blinded commitment => exact absurd rfl (hrevealed commitment)
  | empty | leaf stem value | extension stem node | branch stack => exact hfuel

theorem Enough.pos (henough : Enough length fuel node) : 2 * length + 2 ≤ fuel := by
  cases node with
  | blinded => exact Nat.le_of_succ_le henough
  | empty | leaf stem value | extension stem node | branch stack => exact henough

/-- Change one entry of a branch. -/
theorem Shows.update {stack : Fin 17 → TrieNode} {children : Nibble → Trie}
    (hkids : ∀ digit : Nibble, Shows keccak fetcher (stack digit.castSucc) (children digit))
    (hvalue : stack (Fin.last 16) = .empty) (digit : Nibble)
    (hnode : Shows keccak fetcher node trie) :
    (∀ other : Nibble, Shows keccak fetcher (update stack digit.castSucc node other.castSucc)
      (update children digit trie other)) ∧
      update stack digit.castSucc node (Fin.last 16) = .empty := by
  constructor
  · intro other
    by_cases hdigit : other = digit
    · subst hdigit
      rwa [update_self, update_self]
    · rw [update_of_ne hdigit, update_of_ne (fun hsame => hdigit (Fin.castSucc_inj.mp hsame))]
      exact hkids other
  · rw [update_of_ne (Fin.castSucc_ne_last digit).symm]
    exact hvalue

variable {path : Nibbles}

theorem openAt_shows (hcanon : trie.Canonical length)
    (hshows : Shows keccak fetcher node trie) (hpath : path.length = length)
    (hfuel : Enough length fuel node) :
    ∃ after, openAt keccak fetcher fuel node path =
      (.ok (trie.lookup path), after) ∧ Shows keccak fetcher after trie := by
  induction fuel generalizing node trie length path with
  | zero => exact absurd hfuel.pos (by omega)
  | succ fuel ih =>
    cases hshows with
    | empty => exact ⟨_, rfl, .empty⟩
    | leaf => exact ⟨_, rfl, .leaf⟩
    | @extension stem node trie hnode =>
      have hbound := hfuel.pos
      cases hcanon with
      | @extension _ rest _ children hstem hlength hbranch =>
        have hpos := length_pos_of_ne_nil hstem
        unfold openAt Patricia.lookup
        rw [if_neg (by omega)]
        split
        · obtain ⟨revealed, hunblind, hshows, hrevealed⟩ := hnode.unblind
          obtain ⟨after, hopen, hafter⟩ := ih hbranch hshows
            (show (path.drop stem.length).length = rest by rw [length_drop]; omega)
            (.of_le (by omega) _)
          rw [hunblind]
          dsimp only
          rw [hopen]
          exact ⟨_, rfl, .extension hafter⟩
        · exact ⟨_, rfl, .extension hnode⟩
    | @branch stack children hkids hvalue =>
      have hbound := hfuel.pos
      cases hcanon with
      | @branch length _ hcanon hspread =>
        cases path with
        | nil => cases hpath
        | cons digit =>
          obtain ⟨after, hopen, hafter⟩ := ih (hcanon digit)
            (hkids digit) (Nat.succ.inj hpath) (.of_le (by omega) _)
          obtain ⟨hstack, hlast⟩ := Shows.update hkids hvalue digit hafter
          rw [update_eq_self] at hstack
          unfold openAt Patricia.lookup
          rw [hopen]
          exact ⟨_, rfl, .branch hstack hlast⟩
    | blinded hlong hknown =>
      obtain ⟨revealed, hunblind, hshows, hrevealed⟩ := (Shows.blinded hlong hknown).unblind
      obtain ⟨after, hopen, hafter⟩ := ih hcanon hshows hpath
        (.of_revealed hrevealed (Nat.le_of_succ_le_succ hfuel))
      refine ⟨after, ?_, hafter⟩
      unfold openAt
      rw [hunblind]
      exact hopen

theorem shows_forkAt {shared : Nat} {first second : Nibble} {left right : TrieNode}
    {leftTrie rightTrie : Trie} (hshared : shared < path.length)
    (hleft : Shows keccak fetcher left leftTrie)
    (hright : Shows keccak fetcher right rightTrie) :
    Shows keccak fetcher (forkAt path shared first left second right)
      (fork (path.take shared) first leftTrie second rightTrie) := by
  obtain ⟨hfirst, hvalue⟩ := @Shows.update keccak fetcher left leftTrie
    (fun _ => .empty) (fun _ => .empty) (fun _ => .empty) rfl first hleft
  obtain ⟨hboth, hvalue⟩ := Shows.update hfirst hvalue second hright
  unfold forkAt fork
  by_cases hzero : shared = 0
  · subst hzero
    exact .branch hboth hvalue
  · have hstem : path.take shared ≠ [] := by
      intro hnil
      have hlength := congrArg List.length hnil
      rw [length_take, length_nil] at hlength
      omega
    rw [if_neg hzero, if_neg hstem]
    exact .extension (.branch hboth hvalue)

theorem insert_shows (value : Bytes) (hcanon : trie.Canonical length)
    (hshows : Shows keccak fetcher node trie) (hpath : path.length = length)
    (hfuel : Enough length fuel node) :
    ∃ after, insert keccak fetcher fuel node path value = (.ok (), after) ∧
      Shows keccak fetcher after (trie.insert path value) := by
  induction fuel generalizing node trie length path with
  | zero => exact absurd hfuel.pos (by omega)
  | succ fuel ih =>
    cases hshows with
    | empty => exact ⟨_, rfl, .leaf⟩
    | @leaf stem old =>
      cases hcanon with
      | leaf hlength =>
        unfold insert Patricia.insert
        dsimp only
        by_cases hsame : path = stem
        · rw [if_pos hsame, if_pos hsame]
          exact ⟨_, rfl, .leaf⟩
        · have hshared := sharedLength_lt (hpath.trans hlength.symm) hsame
          obtain ⟨first, stemRest, hstem⟩ := exists_drop_cons hshared
          have hshared := hshared.trans_eq (hlength.trans hpath.symm)
          obtain ⟨second, pathRest, hrest⟩ := exists_drop_cons hshared
          rw [if_neg hsame, if_neg hsame, hstem, hrest]
          exact ⟨_, rfl, shows_forkAt hshared .leaf .leaf⟩
    | @extension stem node trie hnode =>
      have hbound := hfuel.pos
      cases hcanon with
      | @extension _ rest _ children hstem hlength hbranch =>
        have hpos := length_pos_of_ne_nil hstem
        unfold insert Patricia.insert
        by_cases hall : Patricia.sharedLength path stem = stem.length
        · obtain ⟨after, hinsert, hafter⟩ := ih hbranch hnode
            (show (path.drop stem.length).length = rest by rw [length_drop]; omega)
            (.of_le (by omega) _)
          rw [if_pos hall, if_pos hall, hall, hinsert]
          exact ⟨_, rfl, .extension hafter⟩
        · have hshared := Nat.lt_of_le_of_ne (sharedLength_le_right path stem) hall
          obtain ⟨first, stemRest, hdrop⟩ := exists_drop_cons hshared
          have hshared : Patricia.sharedLength path stem < path.length := by omega
          obtain ⟨second, pathRest, hrest⟩ := exists_drop_cons hshared
          rw [if_neg hall, if_neg hall, hdrop, hrest]
          refine ⟨_, rfl, shows_forkAt hshared ?_ .leaf⟩
          cases stemRest with
          | nil => exact hnode
          | cons => exact .extension hnode
    | @branch stack children hkids hvalue =>
      have hbound := hfuel.pos
      cases hcanon with
      | @branch length _ hcanon hspread =>
        cases path with
        | nil => cases hpath
        | cons digit =>
          obtain ⟨after, hinsert, hafter⟩ := ih (hcanon digit)
            (hkids digit) (Nat.succ.inj hpath) (.of_le (by omega) _)
          obtain ⟨hstack, hlast⟩ := Shows.update hkids hvalue digit hafter
          unfold insert Patricia.insert
          rw [hinsert]
          exact ⟨_, rfl, .branch hstack hlast⟩
    | blinded hlong hknown =>
      obtain ⟨revealed, hunblind, hshows, hrevealed⟩ := (Shows.blinded hlong hknown).unblind
      obtain ⟨after, hinsert, hafter⟩ := ih hcanon hshows hpath
        (.of_revealed hrevealed (Nat.le_of_succ_le_succ hfuel))
      refine ⟨after, ?_, hafter⟩
      unfold insert
      rw [hunblind]
      exact hinsert

variable {stack : Fin 17 → TrieNode} {index : Fin 17}

theorem mem_nonEmptyChildren : index ∈ nonEmptyChildren stack ↔ stack index ≠ .empty := by
  simp only [nonEmptyChildren, mem_filter]
  cases stack index <;> simp [isEmpty]

/-- The one entry of a branch that is there. -/
theorem nonEmptyChildren_of_only (hindex : stack index ≠ .empty)
    (honly : ∀ other, other ≠ index → stack other = .empty) :
    nonEmptyChildren stack = [index] := by
  have hmem : ∀ other ∈ nonEmptyChildren stack, other = index := by
    intro other hother
    by_contra hne
    exact mem_nonEmptyChildren.mp hother (honly other hne)
  have hnodup : (nonEmptyChildren stack).Nodup := (nodup_finRange 17).filter _
  have hpres := mem_nonEmptyChildren.mpr hindex
  rcases hlist : nonEmptyChildren stack with _ | ⟨first, _ | ⟨second, rest⟩⟩
  · rw [hlist] at hpres
    cases hpres
  · rw [hmem first (by simp [hlist])]
  · rw [hlist, hmem first (by simp [hlist]), hmem second (by simp [hlist])] at hnodup
    simp at hnodup

/-- No entry is alone in a branch with two. -/
theorem nonEmptyChildren_of_spread {first second : Fin 17} (hne : first ≠ second)
    (hfirst : stack first ≠ .empty) (hsecond : stack second ≠ .empty) (index : Fin 17) :
    nonEmptyChildren stack ≠ [index] := by
  intro hlist
  have hfirst := mem_nonEmptyChildren.mpr hfirst
  have hsecond := mem_nonEmptyChildren.mpr hsecond
  rw [hlist, mem_singleton] at hfirst hsecond
  exact hne (hfirst.trans hsecond.symm)

variable {stem : Nibbles}

theorem collapseIfPossible_extension (hrevealed : ∀ commitment, node ≠ .blinded commitment)
    (hshows : Shows keccak fetcher node trie) :
    ∃ after, collapseIfPossible keccak fetcher (fuel + 1) (.extension stem node) = (.ok (), after) ∧
      Shows keccak fetcher after (trie.attach stem) ∧
      ∀ commitment, after ≠ .blinded commitment := by
  cases hshows with
  | empty => exact ⟨_, rfl, .empty, nofun⟩
  | leaf => exact ⟨_, rfl, .leaf, nofun⟩
  | extension hnode => exact ⟨_, rfl, .extension hnode, nofun⟩
  | branch hkids hvalue => exact ⟨_, rfl, .extension (.branch hkids hvalue), nofun⟩
  | blinded => exact absurd rfl (hrevealed _)

variable {children : Nibble → Trie}
  (hkids : ∀ digit : Nibble, Shows keccak fetcher (stack digit.castSucc) (children digit))

include hkids in
theorem stack_only (hvalue : stack (Fin.last 16) = .empty) {digit : Nibble}
    (honly : Only children digit) (other : Fin 17)
    (hother : other ≠ digit.castSucc) : stack other = .empty := by
  cases other using Fin.lastCases with
  | last => exact hvalue
  | cast other =>
    apply (hkids other).eq_empty_iff.mpr
    exact honly other (fun hsame => hother (congrArg Fin.castSucc hsame))

/-- A branch with one entry becomes what the entry is below its nibble. -/
theorem collapseIfPossible_lift {fuel : Nat} {stack : Fin 17 → TrieNode}
    {digit : Nibble} (hstack : nonEmptyChildren stack = [digit.castSucc])
    (hrevealed : ∀ commitment, stack digit.castSucc ≠ .blinded commitment)
    (hshows : Shows keccak fetcher (stack digit.castSucc) trie)
    (hne : trie ≠ .empty) :
    ∃ after, collapseIfPossible keccak fetcher (fuel + 1) (.branch stack) = (.ok (), after) ∧
      Shows keccak fetcher after (trie.attach [digit]) ∧
      ∀ commitment, after ≠ .blinded commitment := by
  have hlift : collapseIfPossible keccak fetcher (fuel + 1) (.branch stack) =
      liftChild digit.castSucc stack := by
    unfold collapseIfPossible
    dsimp only
    rw [hstack]
    dsimp only
    split
    · rename_i commitment hblinded
      exact absurd hblinded (hrevealed commitment)
    · rfl
  rw [hlift]
  unfold liftChild
  rw [dif_pos (show digit.castSucc.val < 16 from digit.isLt)]
  generalize stack digit.castSucc = node at hshows hrevealed
  cases hshows with
  | empty => exact absurd rfl hne
  | leaf => exact ⟨_, rfl, .leaf, nofun⟩
  | extension hnode => exact ⟨_, rfl, .extension hnode, nofun⟩
  | branch hkids hvalue => exact ⟨_, rfl, .extension (.branch hkids hvalue), nofun⟩
  | blinded => exact absurd rfl (hrevealed _)

include hkids in
theorem collapseIfPossible_branch (hvalue : stack (Fin.last 16) = .empty) {present : Nibble}
    (hpres : children present ≠ .empty) :
    ∃ after, collapseIfPossible keccak fetcher (fuel + 2) (.branch stack) = (.ok (), after) ∧
      Shows keccak fetcher after (join children) ∧
      ∀ commitment, after ≠ .blinded commitment := by
  rcases spread_or_only children present with hspread | ⟨digit, honly⟩
  · obtain ⟨first, second, hne, hfirst, hsecond⟩ := hspread
    have hmany := nonEmptyChildren_of_spread (fun hsame => hne (Fin.castSucc_inj.mp hsame))
      (fun hempty => hfirst ((hkids first).eq_empty_iff.mp hempty))
      (fun hempty => hsecond ((hkids second).eq_empty_iff.mp hempty))
    rw [join_of_spread ⟨first, second, hne, hfirst, hsecond⟩]
    refine ⟨.branch stack, ?_, .branch hkids hvalue, nofun⟩
    unfold collapseIfPossible
    dsimp only
    split
    · rename_i index hone
      exact absurd hone (hmany index)
    · rfl
  · have hdigit : children digit ≠ .empty := by
      by_cases hsame : present = digit
      · rwa [← hsame]
      · exact absurd (honly present hsame) hpres
    have hothers := stack_only hkids hvalue honly
    have hone := nonEmptyChildren_of_only
      (fun hempty => hdigit ((hkids digit).eq_empty_iff.mp hempty)) hothers
    rw [join_of_only honly]
    obtain ⟨child, hunblind, hshows, hrevealed⟩ := (hkids digit).unblind
    cases hnode : stack digit.castSucc with
    | blinded =>
      -- the entry is fetched, and the branch is looked at again
      have hupdated : nonEmptyChildren (update stack digit.castSucc child) = [digit.castSucc] := by
        apply nonEmptyChildren_of_only
        · rw [update_self]
          exact fun hempty => hdigit (hshows.eq_empty_iff.mp hempty)
        · intro other hother
          rw [update_of_ne hother]
          exact hothers other hother
      have hlift := @collapseIfPossible_lift keccak fetcher (children digit) fuel
        (update stack digit.castSucc child) digit hupdated
      rw [update_self] at hlift
      obtain ⟨after, hafter⟩ := hlift hrevealed hshows hdigit
      refine ⟨after, ?_, hafter.2⟩
      rw [← hafter.1]
      conv_lhs => unfold collapseIfPossible
      dsimp only
      rw [hone]
      dsimp only
      rw [hnode] at hunblind ⊢
      dsimp only
      rw [hunblind]
    | empty => exact collapseIfPossible_lift hone (by rw [hnode]; nofun) (hkids digit) hdigit
    | leaf stem value | extension stem node | branch entries =>
      exact collapseIfPossible_lift hone (by rw [hnode]; nofun) (hkids digit) hdigit

variable (keccak fetcher) in
/-- What a deletion comes to: the key is not found and the trie is as it was, or
the node shows the trie without the key. -/
def Deletes (trie : Trie) (outcome : TrieNodeResult Unit × TrieNode) : Option Trie → Prop
  | none => ∃ after, outcome = (.error (.error .keyNotFound), after) ∧
      Shows keccak fetcher after trie
  | some rest => ∃ after, outcome = (.ok (), after) ∧
      Shows keccak fetcher after rest ∧
      ∀ commitment, after ≠ .blinded commitment

theorem delete_extension (hshared : sharedLength path stem = stem.length)
    (hpath : stem.length ≠ path.length) (hdelete : Deletes keccak fetcher trie
      (delete keccak fetcher (fuel + 1) node (path.drop stem.length))
      (trie.delete (path.drop stem.length))) :
    Deletes keccak fetcher (.extension stem trie)
      (delete keccak fetcher (fuel + 2) (.extension stem node) path)
      ((Patricia.extension stem trie).delete path) := by
  conv in Patricia.delete (.extension _ _) _ => unfold Patricia.delete
  conv in delete _ _ _ (.extension _ _) _ => unfold delete
  rw [hshared, if_neg (lt_irrefl _), if_neg (lt_irrefl _), if_neg hpath, if_neg hpath]
  cases hresult : trie.delete (path.drop stem.length) with
  | none =>
    rw [hresult] at hdelete
    obtain ⟨after, heq, hafter⟩ := hdelete
    rw [heq]
    exact ⟨_, rfl, .extension hafter⟩
  | some =>
    rw [hresult] at hdelete
    obtain ⟨after, heq, hafter, hrevealed⟩ := hdelete
    rw [heq]
    exact collapseIfPossible_extension hrevealed hafter

include hkids in
theorem delete_branch (hvalue : stack (Fin.last 16) = .empty) (hspread : Spread children)
    (digit : Nibble) {rest : Nibbles} (hdelete : Deletes keccak fetcher (children digit)
      (delete keccak fetcher (fuel + 2) (stack digit.castSucc) rest)
      ((children digit).delete rest)) :
    Deletes keccak fetcher (.branch children)
      (delete keccak fetcher (fuel + 3) (.branch stack) (digit :: rest))
      ((Patricia.branch children).delete (digit :: rest)) := by
  conv in Patricia.delete (.branch _) _ => unfold Patricia.delete
  conv in delete _ _ _ (.branch _) _ => unfold delete
  cases hresult : (children digit).delete rest with
  | none =>
    rw [hresult] at hdelete
    obtain ⟨after, heq, hafter⟩ := hdelete
    obtain ⟨hstack, hlast⟩ := Shows.update hkids hvalue digit hafter
    rw [update_eq_self] at hstack
    rw [heq]
    exact ⟨_, rfl, .branch hstack hlast⟩
  | some =>
    rw [hresult] at hdelete
    obtain ⟨after, heq, hafter, hrevealed⟩ := hdelete
    obtain ⟨hstack, hlast⟩ := Shows.update hkids hvalue digit hafter
    obtain ⟨present, hother, hpres⟩ := hspread.beside digit
    rw [heq]
    apply collapseIfPossible_branch hstack hlast
    rw [update_of_ne hother]
    exact hpres

theorem delete_shows (hcanon : trie.Canonical length)
    (hshows : Shows keccak fetcher node trie) (hpath : path.length = length)
    (hfuel : Enough length fuel node) :
    Deletes keccak fetcher trie (delete keccak fetcher fuel node path) (trie.delete path) := by
  induction fuel generalizing node trie length path with
  | zero => exact absurd hfuel.pos (by omega)
  | succ fuel ih =>
    cases hshows with
    | empty => exact ⟨_, rfl, .empty⟩
    | @leaf stem value =>
      unfold delete Patricia.delete
      by_cases hsame : path = stem
      · rw [if_pos hsame, if_pos hsame]
        refine ⟨_, rfl, .empty, ?_⟩
        intro commitment hblinded
        cases hblinded
      · rw [if_neg hsame, if_neg hsame]
        exact ⟨_, rfl, .leaf⟩
    | @extension stem node trie hnode =>
      have hbound := hfuel.pos
      cases hcanon with
      | @extension _ rest _ children hstem hlength hbranch =>
        have hpos := length_pos_of_ne_nil hstem
        by_cases hshared : Patricia.sharedLength path stem = stem.length
        · have hrest := hbranch.length_pos
          obtain ⟨fuel, rfl⟩ := Nat.exists_eq_add_of_le' (show 1 ≤ fuel by omega)
          apply delete_extension hshared (by omega)
          apply ih hbranch hnode
          · show (path.drop stem.length).length = rest
            rw [length_drop]
            omega
          · exact .of_le (by omega) _
        · have hless := Nat.lt_of_le_of_ne (sharedLength_le_right path stem) hshared
          unfold delete Patricia.delete
          rw [if_pos hless, if_pos hless]
          exact ⟨_, rfl, .extension hnode⟩
    | @branch stack children hkids hvalue =>
      have hbound := hfuel.pos
      cases hcanon with
      | @branch length _ hcanon hspread =>
        cases path with
        | nil => cases hpath
        | cons digit =>
          obtain ⟨fuel, rfl⟩ := Nat.exists_eq_add_of_le' (show 2 ≤ fuel by omega)
          apply delete_branch hkids hvalue hspread
          exact ih (hcanon digit) (hkids digit) (Nat.succ.inj hpath) (.of_le (by omega) _)
    | blinded hlong hknown =>
      obtain ⟨revealed, hunblind, hshows, hrevealed⟩ := (Shows.blinded hlong hknown).unblind
      have hdelete := ih hcanon hshows hpath (.of_revealed hrevealed (Nat.le_of_succ_le_succ hfuel))
      unfold delete
      rw [hunblind]
      exact hdelete

end TrieNode

end BaseChain
