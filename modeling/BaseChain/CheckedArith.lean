/-
Computations that stop with an error, and 64-bit arithmetic among them: an
operation that leaves its type stops the computation.
-/
import BaseChain.RollupConfig

namespace BaseChain

namespace Checked

variable {ε α β : Type} {first : Except ε α} {next : α → Except ε β}

theorem bind_ok {middle : α} (hfirst : first = .ok middle) : (first >>= next) = next middle := by
  rw [hfirst]
  rfl

variable {error : ε}

theorem bind_error (hfirst : first = .error error) : (first >>= next) = .error error := by
  rw [hfirst]
  rfl

variable {value : β}

theorem bind_eq_ok : (first >>= next) = .ok value ↔
      ∃ middle, first = .ok middle ∧ next middle = .ok value := by
  cases first with
  | error =>
    constructor
    · intro habsurd
      cases habsurd
    · rintro ⟨middle, habsurd, -⟩
      cases habsurd
  | ok middle =>
    constructor
    · intro hnext
      exact ⟨middle, rfl, hnext⟩
    · rintro ⟨other, hother, hnext⟩
      cases hother
      exact hnext

theorem bind_eq_error : (first >>= next) = .error error ↔ first = .error error ∨
        ∃ middle, first = .ok middle ∧ next middle = .error error := by
  cases first with
  | error =>
    constructor
    · intro hother
      cases hother
      exact .inl rfl
    · rintro (hother | ⟨middle, habsurd, -⟩)
      · cases hother
        rfl
      · cases habsurd
  | ok middle =>
    constructor
    · intro hnext
      exact .inr ⟨middle, rfl, hnext⟩
    · rintro (habsurd | ⟨other, hother, hnext⟩)
      · cases habsurd
      · cases hother
        exact hnext

theorem next_error_of_bind (hfirst : first ≠ .error error)
    (hbind : (first >>= next) = .error error) :
    ∃ middle, first = .ok middle ∧ next middle = .error error :=
  (bind_eq_error.mp hbind).resolve_left hfirst

theorem bind_ne_error (hfirst : first ≠ .error error)
    (hnext : ∀ middle, next middle ≠ .error error) :
    (first >>= next) ≠ .error error := by
  intro herror
  rcases bind_eq_error.mp herror with habsurd | ⟨middle, -, habsurd⟩
  · exact hfirst habsurd
  · exact hnext middle habsurd

theorem mapError_eq_ok {ε' : Type} {change : ε → ε'} {value : α} :
    first.mapError change = .ok value ↔ first = .ok value := by
  cases first with
  | error => exact ⟨nofun, nofun⟩
  | ok =>
    constructor
    · intro hvalue
      rw [Except.ok.inj hvalue]
    · intro hvalue
      rw [hvalue]
      rfl

/-- The state after a request; one that failed reverts. -/
def commit {σ : Type} (state : σ) : Except ε σ → σ
  | .ok after => after
  | .error _ => state

/-- Requests one after the other. -/
def run {σ ρ : Type} (perform : σ → ρ → Except ε σ) (state : σ) (requests : List ρ) : σ :=
  requests.foldl (fun state request => commit state (perform state request)) state

variable {ρ σ : Type} {state : σ} {motive : σ → Prop} {perform : σ → ρ → Except ε σ}

/-- What every successful request of a run keeps holds after it. -/
theorem run_invariant_of_mem {requests : List ρ}
    (hperf : ∀ request ∈ requests, ∀ {state after}, motive state →
      perform state request = .ok after → motive after) (hstart : motive state) :
    motive (run perform state requests) := by
  induction requests generalizing state with
  | nil => exact hstart
  | cons request rest ih =>
    apply ih (fun later hlater => hperf later (List.mem_cons_of_mem _ hlater))
    change motive (commit state (perform state request))
    cases hresult : perform state request with
    | ok => exact hperf request List.mem_cons_self hstart hresult
    | error => exact hstart

theorem run_invariant (hperf : ∀ {state request after}, motive state →
      perform state request = .ok after → motive after) (requests : List ρ)
    (hstart : motive state) :
    motive (run perform state requests) :=
  run_invariant_of_mem (fun _ _ _ _ => hperf) hstart

/-- Stop with an error unless a condition holds. -/
def ensure (condition : Prop) [Decidable condition] (error : ε) : Except ε Unit :=
  if condition then .ok () else .error error

variable {condition : Prop}

theorem ensure_eq_ok [Decidable condition] : ensure condition error = .ok () ↔ condition := by
  unfold ensure
  split
  · rename_i hcond
    exact ⟨fun _ => hcond, fun _ => rfl⟩
  · rename_i hcond
    exact ⟨nofun, fun hholds => absurd hholds hcond⟩

theorem ensure_bind_eq_ok [Decidable condition] {next : Unit → Except ε β} :
    (ensure condition error >>= next) = .ok value ↔ condition ∧ next () = .ok value := by
  rw [bind_eq_ok]
  constructor
  · rintro ⟨⟨⟩, hensure, hnext⟩
    exact ⟨ensure_eq_ok.mp hensure, hnext⟩
  · rintro ⟨hcond, hnext⟩
    exact ⟨(), ensure_eq_ok.mpr hcond, hnext⟩

/-- A guard made only under a condition. -/
theorem ensureIf_bind_eq_ok {needed : Prop} [Decidable needed] [Decidable condition]
    {next : Unit → Except ε β} :
    (if needed then ensure condition error >>= next else next ()) = .ok value ↔
      (needed → condition) ∧ next () = .ok value := by
  split
  · rename_i hneeded
    rw [ensure_bind_eq_ok, forall_prop_of_true hneeded]
  · rename_i hneeded
    exact (and_iff_right fun hholds => absurd hholds hneeded).symm

theorem ensure_bind_eq_error [Decidable condition] {other : ε}
    {next : Unit → Except ε β} (hother : error ≠ other) :
    (ensure condition error >>= next) = .error other ↔ condition ∧ next () = .error other := by
  unfold ensure
  split
  · rename_i hcond
    exact ⟨fun hnext => ⟨hcond, hnext⟩, fun hnext => hnext.2⟩
  · rename_i hcond
    constructor
    · intro herror
      exact absurd (Except.error.inj herror) hother
    · rintro ⟨hholds, -⟩
      exact absurd hholds hcond

variable (overflow : ε) (left right : Nat)

def add : Except ε Nat := if u64Max < left + right then .error overflow else .ok (left + right)

def sub : Except ε Nat := if left < right then .error overflow else .ok (left - right)

def mul : Except ε Nat := if u64Max < left * right then .error overflow else .ok (left * right)

/-- An element of a list; an index out of bounds stops the computation. -/
def get (missing : ε) (value : Option α) : Except ε α := match value with
  | none => .error missing
  | some value => .ok value

theorem get_some (missing : ε) (value : α) : get missing (some value) = .ok value := rfl

theorem get_eq_ok {missing : ε} {found : Option α} {value : α} :
    get missing found = .ok value ↔ found = some value := by
  cases found with
  | none => exact ⟨nofun, nofun⟩
  | some =>
    exact ⟨fun hvalue => congrArg some (Except.ok.inj hvalue),
      fun hvalue => congrArg Except.ok (Option.some.inj hvalue)⟩

variable {overflow : ε} {left right : Nat}

theorem add_eq_ok (hroom : left + right ≤ u64Max) : add overflow left right = .ok (left + right) :=
  if_neg (not_lt.mpr hroom)

theorem add_eq_error (hfull : u64Max < left + right) : add overflow left right = .error overflow :=
  if_pos hfull

theorem sub_eq_ok (hle : right ≤ left) : sub overflow left right = .ok (left - right) :=
  if_neg (not_lt.mpr hle)

theorem sub_eq_error (hlt : left < right) : sub overflow left right = .error overflow := if_pos hlt

theorem mul_eq_ok (hroom : left * right ≤ u64Max) : mul overflow left right = .ok (left * right) :=
  if_neg (not_lt.mpr hroom)

theorem add_bind_eq_error {next : Nat → Except ε β} :
    (add overflow left right >>= next) = .error overflow ↔ u64Max < left + right ∨
        left + right ≤ u64Max ∧ next (left + right) = .error overflow := by
  by_cases hfull : u64Max < left + right
  · rw [bind_error (add_eq_error hfull)]
    exact ⟨fun _ => .inl hfull, fun _ => rfl⟩
  · have hroom := le_of_not_gt hfull
    rw [bind_ok (add_eq_ok hroom)]
    exact ⟨fun hnext => .inr ⟨hroom, hnext⟩, fun hcase => (hcase.resolve_left hfull).2⟩

theorem add_bind_eq_ok {next : Nat → Except ε β} : (add overflow left right >>= next) = .ok value ↔
      left + right ≤ u64Max ∧ next (left + right) = .ok value := by
  by_cases hfull : u64Max < left + right
  · rw [bind_error (add_eq_error hfull)]
    constructor
    · intro habsurd
      cases habsurd
    · rintro ⟨hroom, -⟩
      exact absurd hfull (not_lt.mpr hroom)
  · have hroom := le_of_not_gt hfull
    rw [bind_ok (add_eq_ok hroom)]
    exact ⟨fun hnext => ⟨hroom, hnext⟩, fun hcase => hcase.2⟩

end Checked

end BaseChain
