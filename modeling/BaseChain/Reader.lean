/-
Readers take a value off the front of a byte string.  A reader is correct for a
written form when it reads the form back and leaves what follows, and exact when
it accepts nothing but written forms; both pass through sequencing and
repetition.
-/
import BaseChain.ByteString

namespace BaseChain

open List

abbrev Reader (ε : Type) := StateT Bytes (Except ε)

namespace Reader

variable {ε α β : Type} (error : ε)

def fail : Reader ε α := fun _ => .error error

/-- Run a reader a number of times. -/
def many (read : Reader ε α) : Nat → Reader ε (List α)
  | 0 => pure []
  | count + 1 => do
      let value ← read
      let values ← many read count
      return value :: values

/-- Take exactly `width` bytes. -/
def chunk (width : Nat) : Reader ε Bytes := fun buf =>
  if buf.length < width then .error error
  else .ok (buf.take width, buf.drop width)

/-- Take a byte array of a known width. -/
def fixed (width : Nat) : Reader ε (FixedBytes width) := fun buf =>
  if hshort : buf.length < width then .error error
  else .ok (⟨buf.take width, by
    rw [List.length_take, Nat.min_eq_left (Nat.le_of_not_lt hshort)]⟩,
    buf.drop width)

/-- The reader takes exactly `bytes` off any buffer that starts with them, and
returns `value`. -/
def Reads (read : Reader ε α) (bytes : Bytes) (value : α) : Prop :=
  ∀ rest, read (bytes ++ rest) = .ok (value, rest)

/-- Whatever the reader accepts is the written form of what it returns. -/
def Exact (read : Reader ε α) (write : α → Bytes) : Prop :=
  ∀ buf value rest, read buf = .ok (value, rest) → buf = write value ++ rest

variable {rest : Bytes} {read : Reader ε α} {next : α → Reader ε β} {buf : Bytes} {value : β}

theorem bind_eq_ok : (read >>= next) buf = .ok (value, rest) ↔
      ∃ first middle, read buf = .ok (first, middle) ∧ next first middle = .ok (value, rest) := by
  change (read buf >>= fun pair => next pair.1 pair.2) = _ ↔ _
  cases read buf with
  | error =>
    constructor
    · intro habsurd
      cases habsurd
    · rintro ⟨first, middle, habsurd, -⟩
      cases habsurd
  | ok pair =>
    constructor
    · intro hnext
      exact ⟨pair.1, pair.2, rfl, hnext⟩
    · rintro ⟨first, middle, hpair, hnext⟩
      cases hpair
      exact hnext

variable {error : ε}

/-- A sequence fails where one of its readers fails. -/
theorem bind_eq_error : (read >>= next) buf = .error error ↔
      read buf = .error error ∨ ∃ first middle,
        read buf = .ok (first, middle) ∧ next first middle = .error error := by
  change (read buf >>= fun pair => next pair.1 pair.2) = _ ↔ _
  cases read buf with
  | error =>
    constructor
    · intro hother
      cases hother
      exact .inl rfl
    · rintro (hother | ⟨first, middle, habsurd, -⟩)
      · cases hother
        rfl
      · cases habsurd
  | ok pair =>
    constructor
    · intro hnext
      exact .inr ⟨pair.1, pair.2, rfl, hnext⟩
    · rintro (habsurd | ⟨first, middle, hpair, hnext⟩)
      · cases habsurd
      · cases hpair
        exact hnext

theorem pure_eq_ok {value result : α} : (pure value : Reader ε α) buf = .ok (result, rest) ↔
      value = result ∧ buf = rest := by
  constructor
  · intro hpure
    cases hpure
    exact ⟨rfl, rfl⟩
  · rintro ⟨rfl, rfl⟩
    rfl

theorem bind_pure_eq_ok {f : α → β} {result : β} :
    (read >>= fun first => pure (f first)) buf = .ok (result, rest) ↔
      ∃ first, read buf = .ok (first, rest) ∧ f first = result := by
  simp only [bind_eq_ok, pure_eq_ok]
  constructor
  · rintro ⟨first, _, hread, heq, rfl⟩
    exact ⟨first, hread, heq⟩
  · rintro ⟨first, hread, heq⟩
    exact ⟨first, rest, hread, heq, rfl⟩

theorem Reads.pure (value : α) : Reads (Pure.pure value : Reader ε α) [] value := fun _ => rfl

variable {first : α} {front : Bytes}

theorem Reads.bind {back : Bytes} (hfirst : Reads read front first)
    (hnext : Reads (next first) back value) :
    Reads (read >>= next) (front ++ back) value := by
  intro rest
  rw [append_assoc, bind_eq_ok]
  exact ⟨first, back ++ rest, hfirst _, hnext rest⟩

theorem Reads.run_bind {result : Except ε (β × Bytes)} (hfirst : Reads read front first)
    (hnext : next first rest = result) :
    (read >>= next) (front ++ rest) = result := by
  change (read (front ++ rest) >>= fun pair => next pair.1 pair.2) = _
  rw [hfirst rest]
  exact hnext

variable {bytes : Bytes}

/-- The last read of a sequence, with the value built from it. -/
theorem Reads.map (hread : Reads read bytes first) (f : α → β) :
    Reads (read >>= fun value => Pure.pure (f value)) bytes (f first) := by
  rw [← append_nil bytes]
  exact hread.bind (Reads.pure (f first))

variable {values : List α} {write : α → Bytes}

theorem Reads.many (hread : ∀ value ∈ values, Reads read (write value) value) :
    Reads (many read values.length) (values.flatMap write) values := by
  induction values with
  | nil => exact Reads.pure []
  | cons value values ih =>
    have hvalues := ih fun other hother => hread other (mem_cons_of_mem _ hother)
    rw [flatMap_cons, ← append_nil (values.flatMap write)]
    exact (hread value mem_cons_self).bind (hvalues.bind (Reads.pure (value :: values)))

section

variable {count : Nat} (hmany : many read count buf = .ok (values, rest))
include hmany

theorem many_length : values.length = count := by
  induction count generalizing buf rest values with
  | zero =>
    obtain ⟨rfl, -⟩ := pure_eq_ok.mp hmany
    rfl
  | succ count ih =>
    obtain ⟨value, middle, hvalue, hmany⟩ := bind_eq_ok.mp hmany
    obtain ⟨tail, htail, rfl⟩ := bind_pure_eq_ok.mp hmany
    rw [length_cons, ih htail]

theorem many_eq_ok (hexact : Exact read write) :
    values.length = count ∧ buf = values.flatMap write ++ rest := by
  refine ⟨many_length hmany, ?_⟩
  induction count generalizing buf values with
  | zero =>
    obtain ⟨rfl, rfl⟩ := pure_eq_ok.mp hmany
    rfl
  | succ count ih =>
    obtain ⟨value, middle, hvalue, hmany⟩ := bind_eq_ok.mp hmany
    obtain ⟨tail, htail, rfl⟩ := bind_pure_eq_ok.mp hmany
    rw [hexact _ _ _ hvalue, ih htail, flatMap_cons, append_assoc]

theorem many_forall {good : α → Prop}
    (hgood : ∀ buf value rest, read buf = .ok (value, rest) → good value) :
    ∀ value ∈ values, good value := by
  induction count generalizing buf values with
  | zero =>
    obtain ⟨rfl, -⟩ := pure_eq_ok.mp hmany
    intro value hvalue
    cases hvalue
  | succ count ih =>
    obtain ⟨first, middle, hfirst, hmany⟩ := bind_eq_ok.mp hmany
    obtain ⟨tail, htail, rfl⟩ := bind_pure_eq_ok.mp hmany
    intro value hvalue
    rcases mem_cons.mp hvalue with rfl | hmem
    · exact hgood _ _ _ hfirst
    · exact ih htail value hmem

end

variable {width : Nat}

theorem chunk_reads (error : ε) (hwidth : bytes.length = width) :
    Reads (chunk error width) bytes bytes := by
  intro rest
  have hroom : ¬ (bytes ++ rest).length < width := by
    rw [length_append]
    omega
  rw [chunk, if_neg hroom, ← hwidth, take_left, drop_left]

theorem chunk_eq_ok (hchunk : chunk error width buf = .ok (bytes, rest)) :
    bytes.length = width ∧ buf = bytes ++ rest := by
  unfold chunk at hchunk
  split at hchunk
  · cases hchunk
  rename_i hroom
  cases hchunk
  constructor
  · rw [length_take, Nat.min_eq_left (le_of_not_gt hroom)]
  · exact (take_append_drop width buf).symm

theorem fixed_reads (error : ε) (bytes : FixedBytes width) :
    Reads (fixed error width) bytes.val bytes := by
  intro rest
  have hroom : ¬ (bytes.val ++ rest).length < width := by
    rw [length_append, bytes.length_val]
    omega
  have htake : (bytes.val ++ rest).take width = bytes.val := take_left' bytes.length_val
  have hdrop : (bytes.val ++ rest).drop width = rest := drop_left' bytes.length_val
  rw [fixed, dif_neg hroom]
  congr 2
  exact FixedBytes.ext htake

theorem fixed_exact (error : ε) (width : Nat) : Exact (fixed error width) (·.val) := by
  intro buf bytes rest hfixed
  unfold fixed at hfixed
  split at hfixed
  · cases hfixed
  · cases hfixed
    exact (take_append_drop width buf).symm

end Reader

end BaseChain
