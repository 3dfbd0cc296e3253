/-
Patricia tries over keys of one length.  A map on such keys has one canonical
trie, built digit by digit; inserting into it and deleting from it give the
canonical trie of the changed map, so the trie does not depend on its history.
-/
import Mathlib.Data.List.Basic
import Mathlib.Logic.Function.Basic

namespace BaseChain

open Function List

inductive Patricia (σ β : Type) where
  | empty
  | leaf (stem : List σ) (value : β)
  | extension (stem : List σ) (node : Patricia σ β)
  | branch (children : σ → Patricia σ β)

namespace Patricia

variable {σ β : Type}

/-- Put a stem in front of a trie. -/
def attach (stem : List σ) : Patricia σ β → Patricia σ β
  | .empty => .empty
  | .leaf rest value => .leaf (stem ++ rest) value
  | .extension rest node => .extension (stem ++ rest) node
  | .branch children => .extension stem (.branch children)

@[simp] theorem attach_empty (stem : List σ) : attach stem (.empty : Patricia σ β) = .empty := rfl

theorem attach_attach (digit : σ) (stem : List σ) (trie : Patricia σ β) :
    attach [digit] (attach stem trie) = attach (digit :: stem) trie := by
  cases trie with
  | empty | leaf rest value | extension rest node | branch children => rfl

variable (children : σ → Patricia σ β)

/-- At least two children are there. -/
def Spread : Prop :=
  ∃ first second, first ≠ second ∧ children first ≠ .empty ∧ children second ≠ .empty

/-- No other child than one is there. -/
def Only (digit : σ) : Prop := ∀ other, other ≠ digit → children other = .empty

theorem spread_or_only (digit : σ) : Spread children ∨ ∃ only, Only children only := by
  by_cases hspread : Spread children
  · exact .inl hspread
  · refine .inr ?_
    by_cases hchild : ∃ first, children first ≠ .empty
    · obtain ⟨first, hfirst⟩ := hchild
      refine ⟨first, ?_⟩
      intro other hother
      by_contra hpres
      exact hspread ⟨first, other, hother.symm, hfirst, hpres⟩
    · refine ⟨digit, ?_⟩
      intro other _
      by_contra hpres
      exact hchild ⟨other, hpres⟩

variable {children : σ → Patricia σ β}

theorem Only.not_spread {digit : σ} (honly : Only children digit) : ¬ Spread children := by
  rintro ⟨first, second, hne, hfirst, hsecond⟩
  by_cases heq : first = digit
  · exact hsecond (honly second fun hsame => hne (heq.trans hsame.symm))
  · exact hfirst (honly first heq)

open Classical in
/-- The canonical trie over the digit in front of the tries of the children: a
branch only if there are two of them. -/
noncomputable def join (children : σ → Patricia σ β) : Patricia σ β :=
  if Spread children then .branch children
  else if h : ∃ digit, children digit ≠ .empty then
    attach [h.choose] (children h.choose)
  else .empty

theorem join_of_spread (hspread : Spread children) : join children = .branch children := by
  unfold join
  rw [if_pos hspread]

theorem join_of_only {children : σ → Patricia σ β} {digit : σ} (honly : Only children digit) :
    join children = attach [digit] (children digit) := by
  unfold join
  rw [if_neg honly.not_spread]
  split
  · rename_i hchild
    have hdigit : hchild.choose = digit := by
      by_contra hother
      exact hchild.choose_spec (honly _ hother)
    rw [hdigit]
  · rename_i hnone
    have hempty : children digit = .empty := by
      by_contra hpres
      exact hnone ⟨digit, hpres⟩
    rw [hempty, attach_empty]

theorem join_of_empty (hempty : ∀ digit, children digit = .empty) : join children = .empty := by
  unfold join
  rw [if_neg, dif_neg]
  · exact fun ⟨digit, hdigit⟩ => hdigit (hempty digit)
  · exact fun ⟨digit, _, _, hdigit, _⟩ => hdigit (hempty digit)

/-- The canonical trie of a map on the keys of one length. -/
noncomputable def ofMap : Nat → (List σ → Option β) → Patricia σ β
  | 0, map =>
    match map [] with
    | none => .empty
    | some value => .leaf [] value
  | length + 1, map =>
    join fun digit => ofMap length fun rest => map (digit :: rest)

theorem ofMap_succ (length : Nat) (map : List σ → Option β) : ofMap (length + 1) map =
      join fun digit => ofMap length fun rest => map (digit :: rest) := rfl

theorem ofMap_none (length : Nat) : ofMap length (fun _ => none : List σ → Option β) = .empty := by
  induction length with
  | zero => rfl
  | succ _ ih => exact join_of_empty fun _ => ih

variable {length : Nat}

/-- Only the keys of the length matter. -/
theorem ofMap_congr {map other : List σ → Option β}
    (hagree : ∀ key, key.length = length → map key = other key) :
    ofMap length map = ofMap length other := by
  induction length generalizing map other with
  | zero =>
    unfold ofMap
    rw [hagree [] rfl]
  | succ _ ih =>
    rw [ofMap_succ]
    congr 1
    funext digit
    apply ih
    intro rest hrest
    exact hagree (digit :: rest) (by rw [length_cons, hrest])

/-- Tries over keys of one length without redundant nodes. -/
inductive Canonical : Nat → Patricia σ β → Prop where
  | empty {length : Nat} : Canonical length .empty
  | leaf {length : Nat} {stem : List σ} {value : β}
      (hlength : stem.length = length) : Canonical length (.leaf stem value)
  | extension {length rest : Nat} {stem : List σ} {children : σ → Patricia σ β}
      (hstem : stem ≠ []) (hlength : stem.length + rest = length)
      (hnode : Canonical rest (.branch children)) :
      Canonical length (.extension stem (.branch children))
  | branch {length : Nat} {children : σ → Patricia σ β}
      (hchildren : ∀ digit, Canonical length (children digit))
      (hspread : Spread children) : Canonical (length + 1) (.branch children)

variable {trie : Patricia σ β}

theorem Canonical.attach (htrie : Canonical length trie) (digit : σ) :
    Canonical (length + 1) (attach [digit] trie) := by
  cases htrie with
  | empty => exact .empty
  | leaf hlength => exact .leaf (by simp [hlength])
  | extension _ _ hnode => exact .extension (cons_ne_nil _ _) (by simp; omega) hnode
  | branch hkids hspread =>
    exact .extension (cons_ne_nil _ _) (by simp; omega) (.branch hkids hspread)

theorem Canonical.stem_ne_nil (htrie : Canonical length trie) (node : Patricia σ β) :
    trie ≠ .extension [] node := by
  rintro rfl
  cases htrie with
  | extension hstem => exact hstem rfl

theorem canonical_ofMap (length : Nat) (map : List σ → Option β) :
    Canonical length (ofMap length map) := by
  induction length generalizing map with
  | zero =>
    unfold ofMap
    split
    · exact .empty
    · exact .leaf rfl
  | succ length ih =>
    rw [ofMap_succ]
    by_cases hdigit : Nonempty σ
    · obtain ⟨digit⟩ := hdigit
      rcases spread_or_only (fun digit => ofMap length fun rest => map (digit :: rest)) digit with
        hspread | ⟨only, honly⟩
      · rw [join_of_spread hspread]
        exact .branch (fun digit => ih _) hspread
      · rw [join_of_only honly]
        exact (ih _).attach only
    · rw [join_of_empty fun digit => absurd ⟨digit⟩ hdigit]
      exact .empty

section Operations

variable [DecidableEq σ]

def lookup : Patricia σ β → List σ → Option β
  | .empty, _ => none
  | .leaf stem value, path => if path = stem then some value else none
  | .extension stem node, path =>
    if path.take stem.length = stem then
      node.lookup (path.drop stem.length)
    else none
  | .branch _, [] => none
  | .branch children, digit :: rest => (children digit).lookup rest

theorem lookup_attach (trie : Patricia σ β) (digit other : σ) (rest : List σ) :
    (attach [digit] trie).lookup (other :: rest) =
      if other = digit then trie.lookup rest else none := by
  by_cases hdigit : other = digit
  · subst hdigit
    rw [if_pos rfl]
    cases trie with
    | empty => rfl
    | leaf stem value | extension stem node | branch children => simp [attach, lookup]
  · rw [if_neg hdigit]
    cases trie with
    | empty => rfl
    | leaf stem value | extension stem node | branch children => simp [attach, lookup, hdigit]

theorem lookup_join (children : σ → Patricia σ β) (digit : σ) (rest : List σ) :
    (join children).lookup (digit :: rest) = (children digit).lookup rest := by
  rcases spread_or_only children digit with hspread | ⟨only, honly⟩
  · rw [join_of_spread hspread]
    rfl
  · rw [join_of_only honly, lookup_attach]
    split
    · rename_i hdigit
      rw [hdigit]
    · rename_i hdigit
      rw [honly digit hdigit]
      rfl

variable (map : List σ → Option β)

theorem lookup_ofMap {key : List σ} : (ofMap key.length map).lookup key = map key := by
  induction key generalizing map with
  | nil =>
    simp only [length_nil, ofMap]
    split
    · rename_i hnone
      exact hnone.symm
    · rename_i value hsome
      rw [hsome]
      simp [lookup]
  | cons digit rest ih =>
    rw [length_cons, ofMap_succ, lookup_join]
    exact ih fun rest => map (digit :: rest)

theorem ofMap_attach (length : Nat) (trie : Patricia σ β) (digit : σ) :
    ofMap (length + 1) (attach [digit] trie).lookup =
      attach [digit] (ofMap length trie.lookup) := by
  rw [ofMap_succ]
  have hchild : ∀ other, ofMap length (fun rest => (attach [digit] trie).lookup (other :: rest)) =
        if other = digit then ofMap length trie.lookup else .empty := by
    intro other
    simp only [lookup_attach]
    split
    · rfl
    · exact ofMap_none length
  rw [@join_of_only _ _ _ digit]
  · rw [hchild, if_pos rfl]
  · intro other hother
    exact (hchild other).trans (if_neg hother)

/-- A canonical trie is the trie of its map. -/
theorem Canonical.eq_ofMap (htrie : Canonical length trie) : ofMap length trie.lookup = trie := by
  induction htrie with
  | empty => exact ofMap_none _
  | @leaf length stem value hlength =>
    subst hlength
    induction stem with
    | nil => simp [ofMap, lookup]
    | cons digit stem ih =>
      exact (ofMap_attach stem.length (.leaf stem value) digit).trans
        (congrArg (Patricia.attach [digit]) ih)
  | @extension length rest stem children hstem hlength hnode ih =>
    subst hlength
    induction stem with
    | nil => exact absurd rfl hstem
    | cons digit stem ihstem =>
      rw [length_cons, Nat.add_right_comm]
      cases stem with
      | nil =>
        rw [length_nil, Nat.zero_add]
        exact (ofMap_attach rest (.branch children) digit).trans
          (congrArg (Patricia.attach [digit]) ih)
      | cons next stem =>
        exact (ofMap_attach _ (.extension (next :: stem) (.branch children)) digit).trans
          (congrArg (Patricia.attach [digit]) (ihstem (cons_ne_nil _ _)))
  | @branch length children hkids hspread ih =>
    have hjoin : ofMap (length + 1) (Patricia.branch children).lookup = join children := by
      rw [ofMap_succ]
      congr 1
      funext digit
      exact ih digit
    rw [hjoin, join_of_spread hspread]

/-- The number of digits that two paths share. -/
def sharedLength : List σ → List σ → Nat
  | first :: path, second :: stem =>
    if first = second then sharedLength path stem + 1 else 0
  | _, _ => 0

/-- Two tries under different digits below a shared path. -/
def fork (shared : List σ) (first : σ) (left : Patricia σ β) (second : σ)
    (right : Patricia σ β) : Patricia σ β :=
  let node := branch (update
    (update (fun _ => .empty) first left) second right)
  if shared = [] then node else .extension shared node

/-- Insert a value; a path that is not of the trie's length may be ignored. -/
def insert : Patricia σ β → List σ → β → Patricia σ β
  | .empty, path, value => .leaf path value
  | .leaf stem old, path, value =>
    if path = stem then .leaf stem value
    else
      let shared := sharedLength path stem
      match stem.drop shared, path.drop shared with
      | first :: stemRest, second :: pathRest =>
        fork (path.take shared) first (.leaf stemRest old) second (.leaf pathRest value)
      | _, _ => .leaf stem old
  | .extension stem node, path, value =>
    let shared := sharedLength path stem
    if shared = stem.length then
      .extension stem (node.insert (path.drop shared) value)
    else
      match stem.drop shared, path.drop shared with
      | first :: stemRest, second :: pathRest =>
        fork (path.take shared) first
          (if stemRest = [] then node else .extension stemRest node) second
          (.leaf pathRest value)
      | _, _ => .extension stem node
  | .branch children, [], _ => .branch children
  | .branch children, digit :: rest, value =>
    .branch (update children digit ((children digit).insert rest value))

/-- Delete a key, if it is there. -/
noncomputable def delete : Patricia σ β → List σ → Option (Patricia σ β)
  | .empty, _ => none
  | .leaf stem _, path => if path = stem then some .empty else none
  | .extension stem node, path =>
    let shared := sharedLength path stem
    if shared < stem.length then none
    else if shared = path.length then some .empty
    else (node.delete (path.drop stem.length)).map (attach stem)
  | .branch _, [] => none
  | .branch children, digit :: rest =>
    ((children digit).delete rest).map fun child =>
      join (update children digit child)

@[simp] theorem sharedLength_cons_self (digit : σ) (path stem : List σ) :
    sharedLength (digit :: path) (digit :: stem) = sharedLength path stem + 1 := by
  simp [sharedLength]

theorem sharedLength_cons_ne {first second : σ} (hne : first ≠ second) (path stem : List σ) :
    sharedLength (first :: path) (second :: stem) = 0 := by
  simp [sharedLength, hne]

theorem sharedLength_le_right (path stem : List σ) : sharedLength path stem ≤ stem.length := by
  induction path generalizing stem with
  | nil => simp [sharedLength]
  | cons _ _ ih =>
    cases stem with
    | nil => simp [sharedLength]
    | cons _ stem =>
      unfold sharedLength
      split
      · have hrest := ih stem
        rw [length_cons]
        omega
      · omega

variable {path : List σ}

theorem sharedLength_lt {stem : List σ} (hlength : path.length = stem.length)
    (hne : path ≠ stem) : sharedLength path stem < stem.length := by
  induction path generalizing stem with
  | nil =>
    rw [eq_nil_of_length_eq_zero hlength.symm] at hne
    exact absurd rfl hne
  | cons _ _ ih =>
    cases stem with
    | nil => cases hlength
    | cons _ stem =>
      unfold sharedLength
      split
      · rename_i hsame
        have hrest := @ih stem (Nat.succ.inj hlength) (fun htails => hne (by rw [hsame, htails]))
        rw [length_cons]
        omega
      · exact Nat.succ_pos _

theorem fork_cons (digit : σ) (shared : List σ) (first : σ)
    (left : Patricia σ β) (second : σ) (right : Patricia σ β) :
    fork (digit :: shared) first left second right =
      attach [digit] (fork shared first left second right) := by
  cases shared with
  | nil | cons next shared => rfl

theorem insert_ne_empty (trie : Patricia σ β) (path : List σ) (value : β) :
    trie.insert path value ≠ .empty := by
  have hfork : ∀ (shared : List σ) first (left : Patricia σ β) second right,
      fork shared first left second right ≠ .empty := by
    intro shared first left second right
    unfold fork
    split
    · nofun
    · nofun
  cases trie with
  | empty => nofun
  | leaf =>
    unfold insert
    split
    · nofun
    · dsimp only
      split
      · exact hfork _ _ _ _ _
      · nofun
  | extension =>
    unfold insert
    dsimp only
    split
    · nofun
    · split
      · exact hfork _ _ _ _ _
      · nofun
  | branch =>
    cases path with
    | nil | cons digit rest => nofun

/-- Inserting below the first digit of a trie. -/
theorem insert_attach (htrie : trie ≠ .empty) (digit : σ) (path : List σ) (value : β) :
    (attach [digit] trie).insert (digit :: path) value =
      attach [digit] (trie.insert path value) := by
  cases trie with
  | empty => exact absurd rfl htrie
  | leaf =>
    simp only [attach, singleton_append, insert, sharedLength_cons_self,
      drop_succ_cons, cons.injEq, true_and]
    split
    · rfl
    split
    · exact fork_cons _ _ _ _ _ _
    · rfl
  | extension =>
    simp only [attach, singleton_append, insert, sharedLength_cons_self,
      drop_succ_cons, length_cons, Nat.add_right_cancel_iff]
    split
    · rfl
    split
    · exact fork_cons _ _ _ _ _ _
    · rfl
  | branch children =>
    have hshared : sharedLength (digit :: path) [digit] = 1 := by
      rw [sharedLength_cons_self]
      cases path <;> rfl
    have hbranch : ∃ others, (branch children).insert path value = .branch others := by
      cases path with
      | nil | cons next path => exact ⟨_, rfl⟩
    obtain ⟨others, hothers⟩ := hbranch
    rw [hothers]
    simp only [attach]
    unfold insert
    simp [hshared, hothers]

variable {other digit : σ}

/-- Inserting beside the first digit of a trie. -/
theorem insert_attach_ne (htrie : trie ≠ .empty)
    (hstem : ∀ node, trie ≠ .extension [] node) (hne : other ≠ digit) (path : List σ)
    (value : β) :
    (attach [digit] trie).insert (other :: path) value =
      .branch (update (update (fun _ => .empty) digit trie) other (.leaf path value)) := by
  cases trie with
  | empty => exact absurd rfl htrie
  | leaf => simp [attach, insert, sharedLength_cons_ne hne, hne, fork]
  | extension stem node =>
    have hnonempty : stem ≠ [] := by
      rintro rfl
      exact hstem node rfl
    simp [attach, insert, sharedLength_cons_ne hne, fork, hnonempty]
  | branch => simp [attach, insert, sharedLength_cons_ne hne, fork]

theorem Spread.beside (hspread : Spread children) (digit : σ) :
    ∃ other, other ≠ digit ∧ children other ≠ .empty := by
  obtain ⟨first, second, hne, hfirst, hsecond⟩ := hspread
  by_cases hsame : first = digit
  · exact ⟨second, fun hother => hne (hsame.trans hother.symm), hsecond⟩
  · exact ⟨first, hsame, hfirst⟩

omit [DecidableEq σ] in
theorem Canonical.length_pos (hcanon : Canonical length (.branch children)) : 0 < length := by
  cases hcanon with
  | branch => exact Nat.succ_pos _

theorem Spread.update {children : σ → Patricia σ β} (hspread : Spread children)
    (digit : σ) {trie : Patricia σ β} (htrie : trie ≠ .empty) :
    Spread (update children digit trie) := by
  have hkept : ∀ other, children other ≠ .empty →
      Function.update children digit trie other ≠ .empty := by
    intro other hother
    by_cases hdigit : other = digit
    · subst hdigit
      rwa [update_self]
    · rwa [update_of_ne hdigit]
  obtain ⟨first, second, hne, hfirst, hsecond⟩ := hspread
  exact ⟨first, second, hne, hkept first hfirst, hkept second hsecond⟩

theorem Only.update {children : σ → Patricia σ β} {digit : σ}
    (honly : Only children digit) (trie : Patricia σ β) :
    Only (update children digit trie) digit := by
  intro other hother
  rw [update_of_ne hother]
  exact honly other hother

theorem insert_join (hstems : ∀ digit node, children digit ≠ .extension [] node)
    (digit : σ) (path : List σ) (value : β) :
    (join children).insert (digit :: path) value = join (update children digit
        ((children digit).insert path value)) := by
  have hinserted := insert_ne_empty (children digit) path value
  rcases spread_or_only children digit with hspread | ⟨only, honly⟩
  · rw [join_of_spread hspread, join_of_spread (hspread.update digit hinserted)]
    rfl
  · rw [join_of_only honly]
    by_cases hempty : children only = .empty
    · have hall : ∀ other, children other = .empty := by
        intro other
        by_cases hother : other = only
        · rw [hother, hempty]
        · exact honly other hother
      have honly : Only children digit := fun other _ => hall other
      rw [join_of_only (honly.update _), update_self, hempty, hall digit]
      rfl
    · by_cases hdigit : digit = only
      · subst hdigit
        rw [join_of_only (honly.update _), update_self]
        exact insert_attach hempty digit path value
      · have hbeside : children digit = .empty := honly digit hdigit
        have hkids : update
            (update (fun _ => .empty) only (children only)) digit (.leaf path value) =
            update children digit (.leaf path value) := by
          congr 1
          funext other
          by_cases hother : other = only
          · rw [hother, update_self]
          · rw [update_of_ne hother, honly other hother]
        rw [insert_attach_ne hempty (hstems only) hdigit, hkids, hbeside, join_of_spread]
        · rfl
        · refine ⟨digit, only, hdigit, ?_, ?_⟩
          · rw [update_self]
            nofun
          · rwa [update_of_ne (Ne.symm hdigit)]

theorem update_cons (digit other : σ) (rest : List σ) (value : Option β) :
    (fun key => update map (digit :: rest) value (other :: key)) = if other = digit then
        update (fun key => map (digit :: key)) rest value
      else fun key => map (other :: key) := by
  funext key
  by_cases hdigit : other = digit
  · subst hdigit
    by_cases hkey : key = rest
    · subst hkey
      simp
    · simp [hkey]
  · simp [hdigit]

theorem ofMap_update_cons (length : Nat) (map : List σ → Option β) (digit : σ)
    (rest : List σ) (value : Option β) :
    ofMap (length + 1) (update map (digit :: rest) value) = join (update
        (fun other => ofMap length fun key => map (other :: key)) digit
        (ofMap length (update (fun key => map (digit :: key)) rest value))) := by
  rw [ofMap_succ]
  congr 1
  funext other
  rw [update_cons]
  by_cases hdigit : other = digit
  · subst hdigit
    rw [if_pos rfl, update_self]
  · rw [if_neg hdigit, update_of_ne hdigit]

/-- Inserting into the trie of a map gives the trie of the changed map. -/
theorem insert_ofMap (key : List σ) (value : β) : (ofMap key.length map).insert key value =
      ofMap key.length (update map key (some value)) := by
  induction key generalizing map with
  | nil =>
    simp only [length_nil, ofMap]
    split
    · rfl
    · simp [insert]
  | cons _ _ ih =>
    rw [length_cons, ofMap_update_cons, ofMap_succ, insert_join, ih]
    intro other node
    exact (canonical_ofMap _ _).stem_ne_nil node

/-- Deleting below the first digit of a trie. -/
theorem delete_attach (htrie : Canonical length trie) (digit : σ) (hpath : path.length = length) :
    (attach [digit] trie).delete (digit :: path) = (trie.delete path).map (attach [digit]) := by
  cases htrie with
  | empty => rfl
  | @leaf length stem value hlength =>
    simp only [attach, singleton_append, delete, cons.injEq, true_and]
    split
    · rfl
    · rfl
  | @extension length rest stem children hstem hlength hnode =>
    simp only [attach, singleton_append, delete, sharedLength_cons_self,
      length_cons, Nat.add_right_cancel_iff, Nat.add_lt_add_iff_right]
    split
    · rfl
    split
    · rfl
    rw [Option.map_map]
    congr 1
    funext node
    exact (attach_attach digit stem node).symm
  | @branch length children hkids hspread =>
    cases path with
    | nil => cases hpath
    | cons next path =>
      have hshared : sharedLength (digit :: next :: path) [digit] = 1 := by
        rw [sharedLength_cons_self]
        rfl
      simp only [attach]
      rw [delete]
      simp [hshared]

/-- Deleting beside the first digit of a trie. -/
theorem delete_attach_ne (trie : Patricia σ β) (hne : other ≠ digit) (path : List σ) :
    (attach [digit] trie).delete (other :: path) = none := by
  cases trie with
  | empty => rfl
  | leaf => simp [attach, delete, hne]
  | extension stem node | branch children => simp [attach, delete, sharedLength_cons_ne hne]

theorem delete_join (hkids : ∀ digit, Canonical path.length (children digit)) (digit : σ) :
    (join children).delete (digit :: path) = ((children digit).delete path).map fun child =>
        join (update children digit child) := by
  rcases spread_or_only children digit with hspread | ⟨only, honly⟩
  · rw [join_of_spread hspread]
    rfl
  · rw [join_of_only honly]
    by_cases hdigit : digit = only
    · subst hdigit
      rw [delete_attach (hkids digit) digit rfl]
      congr 1
      funext child
      rw [join_of_only (honly.update child), update_self]
    · rw [delete_attach_ne _ hdigit, honly digit hdigit]
      rfl

/-- Deleting from the trie of a map gives the trie of the changed map. -/
theorem delete_ofMap (key : List σ) : (ofMap key.length map).delete key =
      (map key).map fun _ => ofMap key.length (update map key none) := by
  induction key generalizing map with
  | nil =>
    simp only [length_nil, ofMap]
    split
    · rename_i hnone
      rw [hnone]
      rfl
    · rename_i value hsome
      rw [hsome]
      simp [delete]
  | cons digit rest ih =>
    simp only [length_cons, ofMap_update_cons]
    rw [ofMap_succ, delete_join fun other => canonical_ofMap _ _, ih]
    cases map (digit :: rest) with
    | none | some value => rfl

end Operations

end Patricia

end BaseChain
