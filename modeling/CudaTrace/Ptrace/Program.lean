import CudaTrace.Ptrace.Kernel

/-!
# A program with and without the tracer

The threads of a program share a state that says which move is possible. Untraced, a
stop ends at once; traced, it ends when the tracer resumes the task. The tracer only
delays: what it lets happen can happen without it.
-/

namespace CudaTrace.Ptrace
open CudaTrace.Base CudaTrace.Fgraph

/-- The shared state of a program's threads: memory, pipes, futex words, and how far each
thread is in its code. -/
structure Program (σ : Type*) where
  leader : Pid
  start : σ
  allows : σ → Move → σ → Prop

variable {σ : Type*}

/-- No stop lasts. -/
def Tasks.settled (k : Tasks) : Tasks := fun t => (k t).map Task.released

end CudaTrace.Ptrace
