import Mathlib.Data.List.Basic

/-!
# Scripts of requests

A script makes requests one at a time, and what it does next depends on the answers. A
device serves them and may pass through other states while it serves one. `points` lists
every state in which a run of a script can be observed before its end.
-/

namespace CudaTrace.Base

structure Device (σ : Type) {ρ : Type} (Ans : ρ → Type) where
  serve : σ → (r : ρ) → σ × Ans r
  during : σ → ρ → List σ

inductive Script {ρ : Type} (Ans : ρ → Type) (α : Type) where
  | done (a : α)
  | request (r : ρ) (next : Ans r → Script Ans α)

namespace Script
variable {σ ρ α β : Type} {Ans : ρ → Type}

def andThen : Script Ans α → (α → Script Ans β) → Script Ans β
  | done a, k => k a
  | request r next, k => request r fun answer => (next answer).andThen k

instance : Monad (Script Ans) where
  pure := done
  bind := andThen

theorem andThen_done (p : Script Ans α) : p.andThen done = p := by
  induction p with
  | done a => rfl
  | request r next ih => simp [andThen, ih]

theorem andThen_assoc {γ : Type} (p : Script Ans α) (k : α → Script Ans β)
    (l : β → Script Ans γ) : (p.andThen k).andThen l = p.andThen fun a => (k a).andThen l := by
  induction p with
  | done a => rfl
  | request r next ih => simp [andThen, ih]

instance : LawfulMonad (Script Ans) :=
  LawfulMonad.mk' (Script Ans) andThen_done (fun _ _ => rfl) andThen_assoc

/-- One request. -/
def perform (r : ρ) : Script Ans (Ans r) := request r done

variable (d : Device σ Ans)

def run : Script Ans α → σ → σ × α
  | done a, s => (s, a)
  | request r next, s => (next (d.serve s r).2).run (d.serve s r).1

/-- The states before each request and while it is served. -/
def points : Script Ans α → σ → List σ
  | done _, _ => []
  | request r next, s =>
    (s :: d.during s r) ++ (next (d.serve s r).2).points (d.serve s r).1

variable {d}

@[simp] theorem run_pure (a : α) (s : σ) : run d (pure a : Script Ans α) s = (s, a) := rfl

@[simp] theorem points_pure (a : α) (s : σ) : points d (pure a : Script Ans α) s = [] := rfl

@[simp] theorem run_perform (r : ρ) (s : σ) : run d (perform r : Script Ans _) s = d.serve s r := rfl

@[simp] theorem points_perform (r : ρ) (s : σ) :
    points d (perform r : Script Ans _) s = s :: d.during s r := by
  simp [perform, points]

theorem run_bind (p : Script Ans α) (k : α → Script Ans β) (s : σ) :
    run d (p >>= k) s = run d (k (run d p s).2) (run d p s).1 := by
  change run d (p.andThen k) s = _
  induction p generalizing s with
  | done a => rfl
  | request r next ih => simp [andThen, run, ih]

theorem points_bind (p : Script Ans α) (k : α → Script Ans β) (s : σ) :
    points d (p >>= k) s = points d p s ++ points d (k (run d p s).2) (run d p s).1 := by
  change points d (p.andThen k) s = _
  induction p generalizing s with
  | done a => rfl
  | request r next ih => simp [andThen, run, points, ih]

/-! ### What holds all the way -/

/-- Every request of the script satisfies `R`. -/
def Requests (R : ρ → Prop) : Script Ans α → Prop
  | done _ => True
  | request r next => R r ∧ ∀ answer, (next answer).Requests R

theorem requests_perform {R : ρ → Prop} {r : ρ} (h : R r) :
    Requests R (perform r : Script Ans _) :=
  ⟨h, fun _ => trivial⟩

theorem requests_bind {R : ρ → Prop} {p : Script Ans α} {k : α → Script Ans β}
    (hp : p.Requests R) (hk : ∀ a, (k a).Requests R) : Requests R (p >>= k) := by
  change (p.andThen k).Requests R
  induction p with
  | done a => exact hk a
  | request r next ih => exact ⟨hp.1, fun answer => ih answer (hp.2 answer)⟩

/-- What holds while requests of a kind are served holds all through a script of them. -/
theorem holds_throughout {R : ρ → Prop} {P : σ → Prop}
    (hserve : ∀ s r, R r → P s → P (d.serve s r).1 ∧ ∀ x ∈ d.during s r, P x)
    {p : Script Ans α} (hp : p.Requests R) {s : σ} (hs : P s) :
    P (run d p s).1 ∧ ∀ x ∈ points d p s, P x := by
  induction p generalizing s with
  | done a => exact ⟨hs, fun x hx => absurd hx List.not_mem_nil⟩
  | request r next ih =>
    obtain ⟨hafter, hduring⟩ := hserve s r hp.1 hs
    obtain ⟨hend, hrest⟩ := ih (d.serve s r).2 (hp.2 _) hafter
    refine ⟨hend, fun x hx => ?_⟩
    simp only [points, List.cons_append, List.mem_cons, List.mem_append] at hx
    rcases hx with rfl | hx | hx
    · exact hs
    · exact hduring x hx
    · exact hrest x hx

end Script

end CudaTrace.Base
