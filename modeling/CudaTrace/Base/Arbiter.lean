import Mathlib.Data.List.Nodup

/-!
# One resource, handed on in order of arrival

A resource with at most one owner and a queue of parties waiting for it. When
the owner gives it up, waiters go on one after another until one of them takes
the resource; those before it go on without.
-/

namespace CudaTrace.Base

structure Arbiter (α : Type*) where
  owner : Option α
  queue : List α

namespace Arbiter

variable {α : Type*}

/-- One step; the list is that of the waiters which go on. A newcomer gets some
place in the queue and takes it from nobody. -/
inductive Step [DecidableEq α] : Arbiter α → List α → Arbiter α → Prop
  | skip (s) : Step s [] s
  | take (t) : Step ⟨none, []⟩ [] ⟨some t, []⟩
  | wait {o q r} (t) (ho : o ≠ t) (hq : t ∉ q ++ r) : Step ⟨some o, q ++ r⟩ [] ⟨some o, q ++ t :: r⟩
  | leave {o q} (t) : Step ⟨o, q⟩ [] ⟨o, q.filter (· ≠ t)⟩
  | close {o q} : Step ⟨some o, q⟩ q ⟨none, []⟩
  | pass {o woken t rest} : Step ⟨some o, woken ++ t :: rest⟩ (woken ++ [t]) ⟨some t, rest⟩

/-- A free resource has no waiters, and nobody waits twice or for what is its own. -/
structure Fair (s : Arbiter α) : Prop where
  idle : s.owner = none → s.queue = []
  once : s.queue.Nodup
  apart : ∀ o, s.owner = some o → o ∉ s.queue

theorem Step.fair [DecidableEq α] {s s' : Arbiter α} {woken : List α} (h : Step s woken s')
    (hs : s.Fair) : s'.Fair := by
  cases h with
  | skip => exact hs
  | take t => exact ⟨fun _ => rfl, List.nodup_nil, fun _ _ => List.not_mem_nil⟩
  | @wait o q r t ho hq =>
    refine ⟨nofun, List.nodup_middle.mpr (List.nodup_cons.mpr ⟨hq, hs.once⟩), ?_⟩
    intro o' ho' hm
    obtain rfl : o = o' := Option.some.inj ho'
    rcases List.mem_cons.mp (List.perm_middle.mem_iff.mp hm) with h | h
    · exact ho h
    · exact hs.apart o rfl h
  | leave t =>
    refine ⟨fun h => ?_, hs.once.filter _, fun o ho hm => ?_⟩
    · have hq := hs.idle h
      dsimp only at hq ⊢
      rw [hq, List.filter_nil]
    · exact hs.apart o ho (List.mem_of_mem_filter hm)
  | close => exact ⟨fun _ => rfl, List.nodup_nil, nofun⟩
  | @pass o woken t rest =>
    have hn : (t :: rest).Nodup := (List.nodup_append.mp hs.once).2.1
    refine ⟨nofun, hn.of_cons, ?_⟩
    intro o' ho'
    obtain rfl : t = o' := Option.some.inj ho'
    exact (List.nodup_cons.mp hn).1

/-- While somebody waits, somebody else owns the resource. -/
theorem Fair.blocked_by_owner {s : Arbiter α} (hs : s.Fair) {t : α} (ht : t ∈ s.queue) :
    ∃ o, s.owner = some o ∧ o ≠ t := by
  cases ho : s.owner with
  | none =>
    rw [hs.idle ho] at ht
    exact absurd ht List.not_mem_nil
  | some o =>
    refine ⟨o, rfl, ?_⟩
    rintro rfl
    exact hs.apart o ho ht

end Arbiter

end CudaTrace.Base
