import Mathlib.Data.List.Basic
import Mathlib.Logic.Function.Basic

/-!
# A table kept up to date through a channel

Senders, one for each key, post records into one first-in first-out channel. The
reader applies each record to the entry of the record's key. `InStep` says that
the records under way to an entry turn it into what their sender means it to be.
-/

namespace CudaTrace.Base

variable {κ μ ε : Type*} [DecidableEq κ] {key : μ → κ} {apply : μ → ε → ε}

/-- One record applied to the entry of its key. -/
def applyAt (key : μ → κ) (apply : μ → ε → ε) (table : κ → ε) (msg : μ) : κ → ε :=
  Function.update table (key msg) (apply msg (table (key msg)))

def applyAll (key : μ → κ) (apply : μ → ε → ε) (msgs : List μ) (table : κ → ε) : κ → ε :=
  msgs.foldl (applyAt key apply) table

theorem applyAt_eq (table : κ → ε) (msg : μ) (k : κ) :
    applyAt key apply table msg k = if key msg = k then apply msg (table k) else table k := by
  by_cases h : key msg = k
  · subst h
    rw [if_pos rfl, applyAt, Function.update_self]
  · rw [if_neg h, applyAt, Function.update_of_ne (Ne.symm h)]

theorem applyAll_append (l r : List μ) (table : κ → ε) :
    applyAll key apply (l ++ r) table = applyAll key apply r (applyAll key apply l table) :=
  List.foldl_append

/-- An entry depends on its own records alone. -/
theorem applyAll_eq (msgs : List μ) (table : κ → ε) (k : κ) :
    applyAll key apply msgs table k =
      (msgs.filter (key · = k)).foldl (fun e msg => apply msg e) (table k) := by
  induction msgs generalizing table with
  | nil => rfl
  | cons msg msgs ih =>
    have hstep : applyAll key apply (msg :: msgs) table =
        applyAll key apply msgs (applyAt key apply table msg) := rfl
    rw [hstep, ih, applyAt_eq]
    by_cases h : key msg = k
    · rw [if_pos h, List.filter_cons_of_pos (by simpa using h), List.foldl_cons]
    · rw [if_neg h, List.filter_cons_of_neg (by simpa using h)]

theorem applyAll_of_ne {msgs : List μ} {table : κ → ε} {k : κ} (h : ∀ msg ∈ msgs, key msg ≠ k) :
    applyAll key apply msgs table k = table k := by
  have hnil : msgs.filter (key · = k) = [] := by
    rw [List.filter_eq_nil_iff]
    intro msg hmsg
    simpa using h msg hmsg
  rw [applyAll_eq, hnil, List.foldl_nil]

/-- A property of an entry that its own records keep. -/
theorem applyAll_induction (P : ε → Prop) {msgs : List μ} {table : κ → ε} {k : κ} (h0 : P (table k))
    (hs : ∀ msg ∈ msgs, key msg = k → ∀ e, P e → P (apply msg e)) :
    P (applyAll key apply msgs table k) := by
  induction msgs generalizing table with
  | nil => exact h0
  | cons msg msgs ih =>
    refine ih ?_ fun m hm => hs m (List.mem_cons_of_mem _ hm)
    rw [applyAt_eq]
    by_cases h : key msg = k
    · rw [if_pos h]
      exact hs msg List.mem_cons_self h _ h0
    · rw [if_neg h]
      exact h0

/-- Records and entries seen through maps that respect the keys and the updates. -/
theorem applyAll_map {μ' ε' : Type*} {key' : μ' → κ} {apply' : μ' → ε' → ε'} {f : μ → μ'} {h : ε → ε'}
    (hkey : ∀ m, key' (f m) = key m) (happly : ∀ m e, h (apply m e) = apply' (f m) (h e))
    (msgs : List μ) (table : κ → ε) (k : κ) :
    h (applyAll key apply msgs table k) = applyAll key' apply' (msgs.map f) (fun u => h (table u)) k := by
  induction msgs generalizing table with
  | nil => rfl
  | cons msg msgs ih =>
    have hstep : (fun u => h (applyAt key apply table msg u)) =
        applyAt key' apply' (fun u => h (table u)) (f msg) := by
      funext u
      rw [applyAt_eq, applyAt_eq, hkey]
      by_cases hu : key msg = u
      · rw [if_pos hu, if_pos hu, happly]
      · rw [if_neg hu, if_neg hu]
    rw [List.map_cons]
    show h (applyAll key apply msgs (applyAt key apply table msg) k) =
      applyAll key' apply' (msgs.map f) (applyAt key' apply' (fun u => h (table u)) (f msg)) k
    rw [ih, hstep]

/-- The records of another key can be left out. -/
theorem applyAll_filter_ne (msgs : List μ) (table : κ → ε) {k j : κ} (h : j ≠ k) :
    applyAll key apply (msgs.filter (key · ≠ j)) table k = applyAll key apply msgs table k := by
  have hsame : (msgs.filter (key · ≠ j)).filter (key · = k) = msgs.filter (key · = k) := by
    rw [List.filter_filter]
    refine List.filter_congr fun msg _ => ?_
    by_cases hk : key msg = k
    · simp [hk, h.symm]
    · simp [hk]
  rw [applyAll_eq, applyAll_eq, hsame]

/-! ### Senders and reader in step -/

/-- The sender of `k` has the records `out` still to send and means its entry to be `v`. -/
structure InStep (key : μ → κ) (apply : μ → ε → ε) (k : κ) (out queue : List μ) (table : κ → ε)
    (v : ε) : Prop where
  own : ∀ msg ∈ out, key msg = k
  view : applyAll key apply (queue ++ out) table k = v

namespace InStep

variable {k : κ} {out queue : List μ} {table : κ → ε} {v : ε}

/-- The sender posts a record that stands for the change it makes. -/
theorem post (h : InStep key apply k out queue table v) {msg : μ} {v' : ε} (hk : key msg = k)
    (hv : apply msg v = v') : InStep key apply k (out ++ [msg]) queue table v' := by
  refine ⟨fun m hm => ?_, ?_⟩
  · rcases List.mem_append.mp hm with hm | hm
    · exact h.own m hm
    · rw [List.mem_singleton.mp hm]
      exact hk
  · have hone : applyAll key apply [msg] (applyAll key apply (queue ++ out) table) k = v' := by
      rw [applyAll_eq, List.filter_cons_of_pos (by simpa using hk), List.filter_nil,
        List.foldl_cons, List.foldl_nil, h.view, hv]
    rw [← List.append_assoc, applyAll_append, hone]

/-- The first record of the sender enters the channel. -/
theorem send {msg : μ} (h : InStep key apply k (msg :: out) queue table v) :
    InStep key apply k out (queue ++ [msg]) table v := by
  refine ⟨fun m hm => h.own m (List.mem_cons_of_mem _ hm), ?_⟩
  rw [List.append_assoc, List.singleton_append]
  exact h.view

theorem send_other (h : InStep key apply k out queue table v) {msg : μ} (hk : key msg ≠ k) :
    InStep key apply k out (queue ++ [msg]) table v := by
  refine ⟨h.own, ?_⟩
  have hdrop : (queue ++ [msg] ++ out).filter (key · = k) = (queue ++ out).filter (key · = k) := by
    rw [List.append_assoc, List.singleton_append, List.filter_append, List.filter_append,
      List.filter_cons_of_neg (by simpa using hk)]
  rw [applyAll_eq, hdrop, ← applyAll_eq]
  exact h.view

/-- The reader applies the first `n` records of the channel. -/
theorem receive (h : InStep key apply k out queue table v) (n : ℕ) :
    InStep key apply k out (queue.drop n) (applyAll key apply (queue.take n) table) v := by
  refine ⟨h.own, ?_⟩
  rw [← applyAll_append, ← List.append_assoc, List.take_append_drop]
  exact h.view

/-- Another table with the same entry. -/
theorem congr (h : InStep key apply k out queue table v) {table' : κ → ε} (ht : table' k = table k) :
    InStep key apply k out queue table' v := by
  refine ⟨h.own, ?_⟩
  rw [applyAll_eq, ht, ← applyAll_eq]
  exact h.view

/-- Nothing is under way: the entry is what its sender means it to be. -/
theorem settled (h : InStep key apply k out queue table v) (hout : out = [])
    (hqueue : ∀ msg ∈ queue, key msg ≠ k) : table k = v := by
  have hview := h.view
  rw [hout, List.append_nil, applyAll_of_ne hqueue] at hview
  exact hview

end InStep

end CudaTrace.Base
