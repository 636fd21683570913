import Mathlib.Data.List.Basic

/-!
# Labelled transition systems

Runs of a labelled system, with a side condition on each step: `Reach ok` holds
the states of the runs whose every step satisfies `ok`, and `Trace ok obs` also
keeps what the steps were observed to do. One induction each gives the
invariant rule, the trace rule and the refinement of a monitor.
-/

namespace CudaTrace.Base

/-- Starting states and a step relation indexed by labels. -/
structure System (σ ℓ : Type*) where
  start : σ → Prop
  step : σ → ℓ → σ → Prop

namespace System

variable {σ ℓ ω μ : Type*}

/-- A system whose step is a partial function of state and label. -/
def ofPartial (start : σ → Prop) (f : σ → ℓ → Option σ) : System σ ℓ where
  start := start
  step s l s' := f s l = some s'

/-- States of the runs whose steps all satisfy `ok`. -/
inductive Reach (S : System σ ℓ) (ok : σ → ℓ → Prop) : σ → Prop
  | start {s} (h : S.start s) : Reach S ok s
  | step {s l s'} (h : Reach S ok s) (hok : ok s l) (hs : S.step s l s') : Reach S ok s'

/-- States of all runs. -/
abbrev Reachable (S : System σ ℓ) : σ → Prop := S.Reach fun _ _ => True

/-- Runs together with everything observed on the way. -/
inductive Trace (S : System σ ℓ) (ok : σ → ℓ → Prop) (obs : σ → ℓ → σ → List ω) :
    σ → List ω → Prop
  | start {s} (h : S.start s) : Trace S ok obs s []
  | step {s w l s'} (h : Trace S ok obs s w) (hok : ok s l) (hs : S.step s l s') :
      Trace S ok obs s' (w ++ obs s l s')

variable {S : System σ ℓ} {ok : σ → ℓ → Prop} {obs : σ → ℓ → σ → List ω}

/-- The invariant rule: true at the start and kept by each allowed step. -/
theorem Reach.invariant {Inv : σ → Prop} (h0 : ∀ s, S.start s → Inv s)
    (hs : ∀ s l s', Inv s → ok s l → S.step s l s' → Inv s') {s : σ}
    (h : S.Reach ok s) : Inv s := by
  induction h with
  | start h => exact h0 _ h
  | step _ hok hst ih => exact hs _ _ _ ih hok hst

theorem Reach.mono {ok' : σ → ℓ → Prop} (himp : ∀ s l, ok s l → ok' s l) {s : σ}
    (h : S.Reach ok s) : S.Reach ok' s := by
  induction h with
  | start h => exact .start h
  | step _ hok hst ih => exact .step ih (himp _ _ hok) hst

theorem Reach.reachable {s : σ} (h : S.Reach ok s) : S.Reachable s :=
  h.mono fun _ _ _ => trivial

theorem Trace.reach {s : σ} {w : List ω} (h : S.Trace ok obs s w) : S.Reach ok s := by
  induction h with
  | start h => exact .start h
  | step _ hok hst ih => exact .step ih hok hst

theorem Reach.trace {s : σ} (h : S.Reach ok s) : ∃ w, S.Trace ok obs s w := by
  induction h with
  | start h => exact ⟨[], .start h⟩
  | step _ hok hst ih =>
    obtain ⟨w, hw⟩ := ih
    exact ⟨_, .step hw hok hst⟩

/-- The trace rule: what an invariant makes each step show holds of everything observed. -/
theorem Trace.observed {Inv : σ → Prop} {P : ω → Prop} (h0 : ∀ s, S.start s → Inv s)
    (hs : ∀ s l s', Inv s → ok s l → S.step s l s' → Inv s' ∧ ∀ o ∈ obs s l s', P o) {s : σ}
    {w : List ω} (h : S.Trace ok obs s w) : ∀ o ∈ w, P o := by
  have hall : Inv s ∧ ∀ o ∈ w, P o := by
    induction h with
    | start h => exact ⟨h0 _ h, nofun⟩
    | step _ hok hst ih =>
      obtain ⟨hinv, hw⟩ := ih
      obtain ⟨hinv', hnew⟩ := hs _ _ _ hinv hok hst
      refine ⟨hinv', fun o ho => ?_⟩
      rcases List.mem_append.mp ho with ho | ho
      · exact hw o ho
      · exact hnew o ho
  exact hall.2

/-- The history rule: a property of the state and of everything observed, kept by each step. -/
theorem Trace.history {Inv : σ → List ω → Prop} (h0 : ∀ s, S.start s → Inv s [])
    (hs : ∀ s w l s', Inv s w → ok s l → S.step s l s' → Inv s' (w ++ obs s l s')) {s : σ}
    {w : List ω} (h : S.Trace ok obs s w) : Inv s w := by
  induction h with
  | start h => exact h0 _ h
  | step _ hok hst ih => exact hs _ _ _ _ ih hok hst

/-- Refinement of a monitor: when every step's observations take the monitor
along a relation `R`, the monitor accepts the whole trace. -/
theorem Trace.monitor {R : σ → μ → Prop} {f : μ → ω → Option μ} {m₀ : μ}
    (h0 : ∀ s, S.start s → R s m₀)
    (hs : ∀ s m l s', R s m → ok s l → S.step s l s' →
      ∃ m', (obs s l s').foldlM f m = some m' ∧ R s' m')
    {s : σ} {w : List ω} (h : S.Trace ok obs s w) :
    ∃ m, w.foldlM f m₀ = some m ∧ R s m := by
  induction h with
  | start h => exact ⟨m₀, rfl, h0 _ h⟩
  | step _ hok hst ih =>
    obtain ⟨m, hm, hR⟩ := ih
    obtain ⟨m', hm', hR'⟩ := hs _ _ _ _ hR hok hst
    refine ⟨m', ?_, hR'⟩
    rw [List.foldlM_append, hm]
    exact hm'

/-- A list of labels that executes from a reached state ends in a reached one. -/
theorem Reach.of_foldlM {g : σ → ℓ → Option σ}
    (hg : ∀ s l s', g s l = some s' → ok s l ∧ S.step s l s') {s s' : σ} {ls : List ℓ}
    (h : S.Reach ok s) (hr : ls.foldlM g s = some s') : S.Reach ok s' := by
  induction ls generalizing s with
  | nil =>
    obtain rfl : s = s' := Option.some.inj hr
    exact h
  | cons l ls ih =>
    rw [List.foldlM_cons] at hr
    obtain ⟨t, ht, hrest⟩ := Option.bind_eq_some_iff.mp hr
    obtain ⟨hok, hf⟩ := hg s l t ht
    exact ih (.step h hok hf) hrest

/-- `Reach.of_foldlM` with the observations made on the way. -/
theorem Trace.of_foldlM {g : σ → ℓ → Option σ}
    (hg : ∀ s l s', g s l = some s' → ok s l ∧ S.step s l s') {p q : σ × List ω} {ls : List ℓ}
    (h : S.Trace ok obs p.1 p.2)
    (hr : ls.foldlM (fun p l => (g p.1 l).map fun s' => (s', p.2 ++ obs p.1 l s')) p = some q) :
    S.Trace ok obs q.1 q.2 := by
  induction ls generalizing p with
  | nil =>
    obtain rfl : p = q := Option.some.inj hr
    exact h
  | cons l ls ih =>
    rw [List.foldlM_cons] at hr
    obtain ⟨p', hp', hrest⟩ := Option.bind_eq_some_iff.mp hr
    obtain ⟨s', hs', rfl⟩ := Option.map_eq_some_iff.mp hp'
    obtain ⟨hok, hf⟩ := hg p.1 l s' hs'
    exact ih (.step h hok hf) hrest

/-- `Reach.of_foldlM` for plain reachability. -/
theorem Reachable.of_foldlM {start : σ → Prop} {f : σ → ℓ → Option σ} {s s' : σ} {ls : List ℓ}
    (h : (ofPartial start f).Reachable s) (hr : ls.foldlM f s = some s') :
    (ofPartial start f).Reachable s' :=
  Reach.of_foldlM (fun _ _ _ hf => ⟨trivial, hf⟩) h hr

end System

end CudaTrace.Base
