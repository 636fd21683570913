import CudaTrace.Ptrace.Phase
import CudaTrace.Ptrace.Program

/-!
# Deadlocks of held tasks

A state is stuck when a task is held and all others wait, inside syscalls, for held tasks.
The tracer can bring a program into such a state, but only through the call that is being
captured.
-/

namespace CudaTrace.Ptrace
open CudaTrace.Base CudaTrace.Fgraph

variable {σ : Type*}

/-- Without the tracer: `t` is inside a call that cannot be completed. -/
def Program.Blocked (P : Program σ) (k : Tasks) (p : σ) (t : Pid) : Prop :=
  (∃ task c, k t = some task ∧ task.run = .kernel c) ∧ ∀ ret q, ¬ P.allows p (.complete t ret) q

/-- A task that does not exist has no record, so it owns no capture. -/
def Untracked (s : Sys) : Prop := ∀ t, s.tasks t = none → s.loop.states t = none

theorem Untracked.move {s : Sys} {m : Move} {k : Tasks} (h : Untracked s)
    (hexec : ∀ t, m = .exec t → ∀ task, s.tasks t = some task → task.tgid = t)
    (hm : s.tasks.move m = some k) : Untracked { s with tasks := k } := by
  obtain ⟨task, task', htask, -, hcase⟩ := move_cases hm
  intro t ht
  dsimp only at ht ⊢
  rcases hcase with ⟨rfl, -, -⟩ | ⟨u, child, how, thread, tgid, -, -, rfl⟩ |
    ⟨u, leader, death, rfl, hne, -⟩
  · exact h t (update_none ht).2
  · exact h t (update_none (update_none ht).2).2
  · exact absurd (hexec u rfl task htask) hne

theorem Untracked.handle {g : Globals} {s : Sys} {t : Pid} {env : Env} {status : I32} {k : Tasks}
    (h : Untracked s) (hc : Consistent s.loop) (hother : ∀ u, u ≠ t → k u = s.tasks u)
    (hself : k t = none → (loopIter g env t status s.loop).states t = none) :
    Untracked (s.handle g t env status k).1 := by
  obtain ⟨woken, own, ht, -, -⟩ := loopIter_turned g env t status hc
  intro u hu
  rw [handle_tasks ht u] at hu
  have hk : k u = none := by
    split at hu
    · exact Option.map_eq_none_iff.mp hu
    · exact hu
  by_cases hut : u = t
  · subst hut
    exact hself hk
  · have hnone : s.loop.states u = none := h u ((hother u hut).symm.trans hk)
    have hcall := ht.call hut
    rw [show (drained env s.loop).states u = none from hnone] at hcall
    exact Option.map_eq_none_iff.mp hcall

structure Pipe where
  reading : Bool
  written : Bool
  deriving DecidableEq

def readCall : Call := ⟨sysRead, .replicate 6 0⟩

/-- What happens to the pipe. A read is over only when something has been written. -/
def Pipe.next (p : Pipe) : Move → Option Pipe
  | .attachStop t => if t = 101 ∨ p.reading = false then some p else none
  | .enter t c =>
    if t = 101 then if c = writeCall then some p else none
    else if p.reading then none
    else if c = cloneCall then some p
    else if c = readCall then some { p with reading := true }
    else none
  | .spawn _ child _ _ => if p.reading = false ∧ child = 101 then some p else none
  | .complete t _ =>
    if t = 101 then some { p with written := true }
    else if p.reading = false ∨ p.written = true then some { p with reading := false }
    else none
  | _ => none

end CudaTrace.Ptrace
