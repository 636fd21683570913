import Mathlib.Algebra.Group.Nat.Defs
import Mathlib.Data.List.Basic

/-!
# Computations that may panic

A computation reads an environment, logs the events it causes and ends with a
value or with a panic. `usize` values are natural numbers below 2^64; a build
with overflow checks panics where one without them wraps around. `wp` says that a
run ends without a panic; the `ok_` lemmas invert a run that has ended.
-/

namespace CudaTrace.Base

inductive Panic where
  | overflow
  | outOfRange
  | divideByZero
  | capacity
  deriving DecidableEq

/-- What a computation runs in: the build profile and the rest of the world. -/
structure World (σ : Type) where
  overflowChecks : Bool
  state : σ

structure Run (τ α : Type) where
  outcome : Except Panic α
  log : List τ

def Checked (σ τ α : Type) : Type := World σ → Run τ α

namespace Checked
variable {σ τ α β : Type}

def ret (v : α) : Checked σ τ α := fun _ => ⟨.ok v, []⟩

def panic (p : Panic) : Checked σ τ α := fun _ => ⟨.error p, []⟩

def andThen (d : Checked σ τ α) (f : α → Checked σ τ β) : Checked σ τ β := fun w =>
  match (d w).outcome with
  | .ok v => ⟨(f v w).outcome, (d w).log ++ (f v w).log⟩
  | .error p => ⟨.error p, (d w).log⟩

instance : Monad (Checked σ τ) where
  pure := ret
  bind := andThen

/-- An answer of the world, with the event of asking for it. -/
def ask (event : τ) (answer : σ → α) : Checked σ τ α := fun w => ⟨.ok (answer w.state), [event]⟩

/-! ### Arithmetic, slices and indices -/

def usizeLimit : ℕ := 2 ^ 64

/-- The result of an operation whose exact value is `n`, wrapped to `r` without checks. -/
def usize (inRange : Prop) [Decidable inRange] (n r : ℕ) : Checked σ τ ℕ := fun w =>
  if inRange then ⟨.ok n, []⟩
  else if w.overflowChecks then ⟨.error .overflow, []⟩
  else ⟨.ok r, []⟩

def add (a b : ℕ) : Checked σ τ ℕ := usize (a + b < usizeLimit) (a + b) ((a + b) % usizeLimit)

def sub (a b : ℕ) : Checked σ τ ℕ := usize (b ≤ a) (a - b) ((usizeLimit + a - b) % usizeLimit)

def mul (a b : ℕ) : Checked σ τ ℕ := usize (a * b < usizeLimit) (a * b) ((a * b) % usizeLimit)

def div (a b : ℕ) : Checked σ τ ℕ := if b = 0 then panic .divideByZero else ret (a / b)

def rem (a b : ℕ) : Checked σ τ ℕ := if b = 0 then panic .divideByZero else ret (a % b)

/-- `v >> k` of a `w` bit value. -/
def shiftRight {w : ℕ} (v : BitVec w) (k : ℕ) : Checked σ τ (BitVec w) := fun world =>
  if k < w then ⟨.ok (v >>> k), []⟩
  else if world.overflowChecks then ⟨.error .overflow, []⟩
  else ⟨.ok (v >>> (k % w)), []⟩

/-- A buffer of `n` bytes; no buffer is larger than `isize::MAX`. -/
def allocate (n : ℕ) : Checked σ τ Unit := if n < 2 ^ 63 then ret () else panic .capacity

/-- `&xs[..n]`. -/
def prefixOf (xs : List α) (n : ℕ) : Checked σ τ (List α) :=
  if n ≤ xs.length then ret (xs.take n) else panic .outOfRange

/-- `xs[i]`. -/
def index (xs : List α) (i : ℕ) : Checked σ τ α :=
  match xs[i]? with
  | some x => ret x
  | none => panic .outOfRange

/-- One computation for each element, in order. -/
def forEach (f : α → Checked σ τ β) : List α → Checked σ τ (List β)
  | [] => ret []
  | x :: xs => do
    let y ← f x
    let ys ← forEach f xs
    return y :: ys

/-- A loop over a list with an accumulator. -/
def foldEach (f : β → α → Checked σ τ β) (acc : β) : List α → Checked σ τ β
  | [] => ret acc
  | x :: xs => do
    let next ← f acc x
    foldEach f next xs

/-! ### What is known of the result -/

/-- The computation ends without a panic, with a value that satisfies `Q`. -/
def wp (d : Checked σ τ α) (w : World σ) (Q : α → Prop) : Prop :=
  ∃ v, (d w).outcome = .ok v ∧ Q v

/-- No panic. -/
def Safe (d : Checked σ τ α) (w : World σ) : Prop := d.wp w fun _ => True

variable {w : World σ} {Q : α → Prop}

@[simp] theorem wp_pure {v : α} : wp (pure v : Checked σ τ α) w Q ↔ Q v := by
  simp [wp, pure, ret]

@[simp] theorem wp_ret {v : α} : wp (ret v : Checked σ τ α) w Q ↔ Q v := by simp [wp, ret]

@[simp] theorem wp_panic {p : Panic} : wp (panic p : Checked σ τ α) w Q ↔ False := by
  simp [wp, panic]

@[simp] theorem wp_bind {d : Checked σ τ β} {f : β → Checked σ τ α} :
    wp (d >>= f) w Q ↔ wp d w fun v => wp (f v) w Q := by
  simp only [wp, bind, andThen]
  cases (d w).outcome with
  | error p => simp
  | ok v => simp

@[simp] theorem wp_ask {event : τ} {answer : σ → α} :
    wp (ask event answer : Checked σ τ α) w Q ↔ Q (answer w.state) := by
  simp [wp, ask]

@[simp] theorem wp_ite {c : Prop} [Decidable c] {d e : Checked σ τ α} :
    wp (if c then d else e) w Q ↔ (c → wp d w Q) ∧ (¬ c → wp e w Q) := by
  split <;> simp_all

theorem wp_usize {c : Prop} [Decidable c] {n r : ℕ} {Q : ℕ → Prop} :
    wp (usize c n r : Checked σ τ ℕ) w Q ↔
      (c ∧ Q n) ∨ (¬ c ∧ w.overflowChecks = false ∧ Q r) := by
  simp only [wp, usize]
  by_cases hc : c
  · simp [hc]
  · cases hw : w.overflowChecks with
    | true => simp [hc]
    | false => simp [hc]

/-- Arithmetic that stays in range is the same in every build. -/
theorem wp_usize_inRange {c : Prop} [Decidable c] {n r : ℕ} {Q : ℕ → Prop} (h : c) :
    wp (usize c n r : Checked σ τ ℕ) w Q ↔ Q n := by
  simp [wp_usize, h]

theorem wp_add {a b : ℕ} {Q : ℕ → Prop} (h : a + b < usizeLimit) :
    wp (add a b : Checked σ τ ℕ) w Q ↔ Q (a + b) := by
  exact wp_usize_inRange h

theorem wp_sub {a b : ℕ} {Q : ℕ → Prop} (h : b ≤ a) :
    wp (sub a b : Checked σ τ ℕ) w Q ↔ Q (a - b) := by
  exact wp_usize_inRange h

theorem wp_mul {a b : ℕ} {Q : ℕ → Prop} (h : a * b < usizeLimit) :
    wp (mul a b : Checked σ τ ℕ) w Q ↔ Q (a * b) := by
  exact wp_usize_inRange h

theorem wp_div {a b : ℕ} {Q : ℕ → Prop} (h : b ≠ 0) :
    wp (div a b : Checked σ τ ℕ) w Q ↔ Q (a / b) := by
  simp [div, h]

theorem wp_rem {a b : ℕ} {Q : ℕ → Prop} (h : b ≠ 0) :
    wp (rem a b : Checked σ τ ℕ) w Q ↔ Q (a % b) := by
  simp [rem, h]

theorem wp_shiftRight {n : ℕ} {v : BitVec n} {k : ℕ} {Q : BitVec n → Prop} (h : k < n) :
    wp (shiftRight v k : Checked σ τ (BitVec n)) w Q ↔ Q (v >>> k) := by
  simp [wp, shiftRight, h]

@[simp] theorem wp_allocate {n : ℕ} {Q : Unit → Prop} :
    wp (allocate n : Checked σ τ Unit) w Q ↔ n < 2 ^ 63 ∧ Q () := by
  by_cases h : n < 2 ^ 63
  · rw [allocate, if_pos h, wp_ret]
    exact ⟨fun hq => ⟨h, hq⟩, And.right⟩
  · rw [allocate, if_neg h, wp_panic]
    exact ⟨False.elim, fun hq => h hq.1⟩

theorem wp_index {xs : List β} {i : ℕ} {Q : β → Prop} (h : i < xs.length) :
    wp (index xs i : Checked σ τ β) w Q ↔ Q xs[i] := by
  simp [index, h]

@[simp] theorem wp_prefixOf {xs : List β} {n : ℕ} {Q : List β → Prop} :
    wp (prefixOf xs n : Checked σ τ (List β)) w Q ↔ n ≤ xs.length ∧ Q (xs.take n) := by
  by_cases h : n ≤ xs.length
  · simp [prefixOf, h]
  · simp [prefixOf, h]

theorem Safe.of_wp {d : Checked σ τ α} (h : wp d w Q) : Safe d w := by
  obtain ⟨v, hv, _⟩ := h
  exact ⟨v, hv, trivial⟩

theorem wp_mono {d : Checked σ τ α} {P : α → Prop} (h : wp d w P) (hPQ : ∀ v, P v → Q v) :
    wp d w Q := by
  obtain ⟨v, hv, hP⟩ := h
  exact ⟨v, hv, hPQ v hP⟩

theorem safe_bind {d : Checked σ τ β} {f : β → Checked σ τ α} (hd : Safe d w)
    (hf : ∀ v, Safe (f v) w) : Safe (d >>= f) w := by
  simp only [Safe, wp_bind]
  exact wp_mono hd fun v _ => hf v

theorem safe_pure (v : α) : Safe (pure v : Checked σ τ α) w := by
  simp [Safe]

theorem safe_forEach {f : β → Checked σ τ α} {xs : List β} (h : ∀ x ∈ xs, Safe (f x) w) :
    Safe (forEach f xs) w := by
  induction xs with
  | nil => simp [Safe, forEach]
  | cons x xs ih =>
    have hx := h x (by simp)
    have hxs := ih fun y hy => h y (by simp [hy])
    exact safe_bind hx fun _ => safe_bind hxs fun _ => safe_pure _

/-- The invariant counts the elements that have been processed. -/
theorem wp_foldEach {f : β → α → Checked σ τ β} {I : ℕ → β → Prop} {xs : List α} {k : ℕ} {acc : β}
    (hacc : I k acc)
    (hstep : ∀ n b, n < k + xs.length → I n b → ∀ x ∈ xs, wp (f b x) w (I (n + 1))) :
    wp (foldEach f acc xs) w (I (k + xs.length)) := by
  induction xs generalizing k acc with
  | nil => simpa [foldEach] using hacc
  | cons x xs ih =>
    have hx := hstep k acc (by simp) hacc x (by simp)
    simp only [foldEach, wp_bind]
    refine wp_mono hx fun next hnext => ?_
    have hrest := ih hnext fun n b hn hb y hy =>
      hstep n b (by simp only [List.length_cons]; omega) hb y (by simp [hy])
    simpa [Nat.add_assoc, Nat.add_comm 1] using hrest

/-! ### Runs that have ended -/

@[simp] theorem ok_pure {u v : α} :
    ((pure u : Checked σ τ α) w).outcome = .ok v ↔ u = v := by
  simp [pure, ret]

@[simp] theorem ok_bind {d : Checked σ τ β} {f : β → Checked σ τ α} {v : α} :
    ((d >>= f) w).outcome = .ok v ↔ ∃ u, (d w).outcome = .ok u ∧ (f u w).outcome = .ok v := by
  simp only [bind, andThen]
  cases (d w).outcome with
  | error p => simp
  | ok u => simp

@[simp] theorem ok_ask {event : τ} {answer : σ → α} {v : α} :
    ((ask event answer : Checked σ τ α) w).outcome = .ok v ↔ answer w.state = v := by
  simp [ask]

theorem ok_prefixOf {xs ys : List α} {n : ℕ}
    (h : ((prefixOf xs n : Checked σ τ (List α)) w).outcome = .ok ys) :
    n ≤ xs.length ∧ ys = xs.take n := by
  unfold prefixOf at h
  split at h
  · rename_i hle
    exact ⟨hle, (Except.ok.inj h).symm⟩
  · cases h

theorem ok_index {xs : List α} {i : ℕ} {x : α}
    (h : ((index xs i : Checked σ τ α) w).outcome = .ok x) : xs[i]? = some x := by
  cases hx : xs[i]? with
  | none => simp [index, hx, panic] at h
  | some y => simpa [index, hx, ret] using h

theorem ok_forEach {f : α → Checked σ τ β} {xs : List α} {ys : List β}
    (h : ((forEach f xs) w).outcome = .ok ys) {i : ℕ} {y : β} (hy : ys[i]? = some y) :
    ∃ x, xs[i]? = some x ∧ ((f x) w).outcome = .ok y := by
  induction xs generalizing ys i with
  | nil =>
    cases h
    simp at hy
  | cons x xs ih =>
    simp only [forEach, ok_bind, ok_pure] at h
    obtain ⟨z, hz, rest, hrest, rfl⟩ := h
    cases i with
    | zero =>
      rw [List.getElem?_cons_zero, Option.some.injEq] at hy
      rw [hy] at hz
      exact ⟨x, rfl, hz⟩
    | succ i => exact ih hrest hy

theorem ok_foldEach {f : β → α → Checked σ τ β} {I : β → Prop} {xs : List α} {acc r : β}
    (h : ((foldEach f acc xs) w).outcome = .ok r) (hacc : I acc)
    (hstep : ∀ b x b', x ∈ xs → I b → ((f b x) w).outcome = .ok b' → I b') : I r := by
  induction xs generalizing acc with
  | nil =>
    cases h
    exact hacc
  | cons x xs ih =>
    simp only [foldEach, ok_bind] at h
    obtain ⟨next, hnext, hrest⟩ := h
    have hkeep : I next := hstep acc x next List.mem_cons_self hacc hnext
    exact ih hrest hkeep fun b y b' hy => hstep b y b' (List.mem_cons_of_mem _ hy)

/-! ### The events of a run -/

/-- Every event of the run satisfies `P`. -/
def Only (P : τ → Prop) (d : Checked σ τ α) (w : World σ) : Prop := ∀ e ∈ (d w).log, P e

/-- A computation without events. -/
def Silent (d : Checked σ τ α) : Prop := ∀ w, (d w).log = []

@[simp] theorem mem_log_ask {event e : τ} {answer : σ → α} :
    e ∈ ((ask event answer : Checked σ τ α) w).log ↔ e = event := by
  simp [ask]

@[simp] theorem mem_log_bind {d : Checked σ τ β} {f : β → Checked σ τ α} {e : τ} :
    e ∈ ((d >>= f) w).log ↔
      e ∈ (d w).log ∨ ∃ v, (d w).outcome = .ok v ∧ e ∈ (f v w).log := by
  simp only [bind, andThen]
  cases (d w).outcome with
  | error p => simp
  | ok v => simp

theorem only_ask {P : τ → Prop} {event : τ} {answer : σ → α} (h : P event) :
    Only P (ask event answer : Checked σ τ α) w := by
  intro e he
  rw [mem_log_ask] at he
  rwa [he]

theorem only_bind {P : τ → Prop} {d : Checked σ τ β} {f : β → Checked σ τ α} (hd : Only P d w)
    (hf : ∀ v, (d w).outcome = .ok v → Only P (f v) w) : Only P (d >>= f) w := by
  intro e he
  rcases mem_log_bind.mp he with he | ⟨v, hv, he⟩
  · exact hd e he
  · exact hf v hv e he

theorem only_mono {P R : τ → Prop} {d : Checked σ τ α} (h : Only P d w) (hPR : ∀ e, P e → R e) :
    Only R d w :=
  fun e he => hPR e (h e he)

theorem Silent.only {d : Checked σ τ α} (h : Silent d) (P : τ → Prop) : Only P d w := by
  intro e he
  simp [h w] at he

theorem silent_pure (v : α) : Silent (pure v : Checked σ τ α) := fun _ => rfl

theorem silent_bind {d : Checked σ τ β} {f : β → Checked σ τ α} (hd : Silent d)
    (hf : ∀ v, Silent (f v)) : Silent (d >>= f) := by
  intro w
  simp only [bind, andThen]
  cases (d w).outcome with
  | error p => simp [hd w]
  | ok v => simp [hd w, hf v w]

theorem silent_usize (c : Prop) [Decidable c] (n r : ℕ) :
    Silent (usize c n r : Checked σ τ ℕ) := by
  intro w
  unfold usize
  split_ifs <;> rfl

theorem silent_shiftRight {n : ℕ} (v : BitVec n) (k : ℕ) :
    Silent (shiftRight v k : Checked σ τ (BitVec n)) := by
  intro w
  unfold shiftRight
  split_ifs <;> rfl

theorem silent_div (a b : ℕ) : Silent (div a b : Checked σ τ ℕ) := by
  unfold div
  split
  · exact fun _ => rfl
  · exact silent_pure _

theorem silent_rem (a b : ℕ) : Silent (rem a b : Checked σ τ ℕ) := by
  unfold rem
  split
  · exact fun _ => rfl
  · exact silent_pure _

theorem silent_allocate (n : ℕ) : Silent (allocate n : Checked σ τ Unit) := by
  unfold allocate
  split
  · exact silent_pure _
  · exact fun _ => rfl

theorem silent_prefixOf (xs : List β) (n : ℕ) : Silent (prefixOf xs n : Checked σ τ (List β)) := by
  unfold prefixOf
  split
  · exact silent_pure _
  · exact fun _ => rfl

theorem silent_index (xs : List β) (i : ℕ) : Silent (index xs i : Checked σ τ β) := by
  unfold index
  split
  · exact silent_pure _
  · exact fun _ => rfl

theorem silent_forEach {f : β → Checked σ τ α} (h : ∀ x, Silent (f x)) (xs : List β) :
    Silent (forEach f xs) := by
  induction xs with
  | nil => exact silent_pure _
  | cons x xs ih => exact silent_bind (h x) fun _ => silent_bind ih fun _ => silent_pure _

theorem silent_foldEach {f : β → α → Checked σ τ β} (h : ∀ b x, Silent (f b x)) (xs : List α) :
    ∀ acc, Silent (foldEach f acc xs) := by
  induction xs with
  | nil => exact fun acc => silent_pure acc
  | cons x xs ih => exact fun acc => silent_bind (h acc x) ih

/-! ### Results of wrapping arithmetic -/

theorem ok_add {a b n : ℕ} (h : ((add a b : Checked σ τ ℕ) w).outcome = .ok n) :
    n = (a + b) % usizeLimit := by
  unfold add usize at h
  split at h
  · rename_i hlt
    rw [Nat.mod_eq_of_lt hlt]
    simpa using h.symm
  · split at h
    · simp at h
    · simpa using h.symm

theorem ok_mul {a b n : ℕ} (h : ((mul a b : Checked σ τ ℕ) w).outcome = .ok n) :
    n = (a * b) % usizeLimit := by
  unfold mul usize at h
  split at h
  · rename_i hlt
    rw [Nat.mod_eq_of_lt hlt]
    simpa using h.symm
  · split at h
    · simp at h
    · simpa using h.symm

theorem ok_div {a b n : ℕ} (h : ((div a b : Checked σ τ ℕ) w).outcome = .ok n) : n = a / b := by
  unfold div at h
  split at h
  · simp [Checked.panic] at h
  · simpa [Checked.ret] using h.symm

theorem ok_sub {a b n : ℕ} (ha : a < usizeLimit)
    (h : ((sub a b : Checked σ τ ℕ) w).outcome = .ok n) :
    n = (usizeLimit + a - b) % usizeLimit := by
  unfold sub usize at h
  split at h
  · rename_i hle
    have hn : n = a - b := by simpa using h.symm
    have hsplit : usizeLimit + a - b = usizeLimit + (a - b) := by omega
    rw [hsplit, Nat.add_mod_left, Nat.mod_eq_of_lt (by omega)]
    exact hn
  · split at h
    · simp at h
    · simpa using h.symm

end Checked
end CudaTrace.Base
