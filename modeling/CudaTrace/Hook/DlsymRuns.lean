import CudaTrace.Hook.Loader

/-!
# What interposed lookups lead to

Two properties of whole runs of lookups, loads and calls: where the function that a
wrapper calls was found, and which handle is remembered.
-/

namespace CudaTrace.Hook
open CudaTrace.Base

/-- Some of the loaders finds `f` under this name. -/
def Found (ls : List Loader) (symbol : String) (f : Fn) : Prop :=
  ∃ l ∈ ls, ∃ handle, l handle symbol = some f

/-- Some of the loaders finds nothing behind libcudatrace. -/
def Missed (ls : List Loader) (symbol : String) : Prop := ∃ l ∈ ls, l rtldNext symbol = none

/-- The answer `r` to a lookup is one of the loaders'. -/
def Answers (ls : List Loader) (symbol : String) : Option Fn → Prop
  | some f => Found ls symbol f
  | none => Missed ls symbol

theorem Answers.cons {ls : List Loader} {symbol : String} {r : Option Fn}
    (h : Answers ls symbol r) (l : Loader) : Answers (l :: ls) symbol r := by
  cases r with
  | none =>
    obtain ⟨l', hl', hn⟩ := h
    exact ⟨l', List.mem_cons_of_mem l hl', hn⟩
  | some f =>
    obtain ⟨l', hl', hf⟩ := h
    exact ⟨l', List.mem_cons_of_mem l hl', hf⟩

/-! ### Where targets come from -/

/-- What is kept was answered by a loader of the process. -/
structure Kept (ls : List Loader) (s : Hooks) : Prop where
  cells : ∀ symbol r, s.cells symbol = some r → Answers ls symbol r
  generated : ∀ symbol f, s.generatedCells symbol = some f → Found ls symbol f

/-- Every lookup already answered in `s` has the same answer in `s'`. -/
structure Extends (s s' : Hooks) : Prop where
  cells : ∀ symbol r, s.cells symbol = some r → s'.cells symbol = some r
  generated : ∀ symbol f, s.generatedCells symbol = some f → s'.generatedCells symbol = some f

theorem Extends.refl (s : Hooks) : Extends s s := ⟨fun _ _ h => h, fun _ _ h => h⟩

theorem Extends.trans {s t u : Hooks} (h : Extends s t) (h' : Extends t u) : Extends s u :=
  ⟨fun n r hn => h'.cells n r (h.cells n r hn), fun n f hn => h'.generated n f (h.generated n f hn)⟩

section

variable {l : Loader} {ls : List Loader} {s s' : Hooks} {symbol : String} {r : Option Fn}

theorem resolveNext_answers (hl : l ∈ ls) (symbol : String) :
    Answers ls symbol (resolveNextFromPtr l symbol) := by
  unfold resolveNextFromPtr
  cases h : l rtldNext symbol with
  | none => exact ⟨l, hl, h⟩
  | some f => exact ⟨l, hl, rtldNext, h⟩

theorem resolveDriver_answers (hl : l ∈ ls) (handle : Handle) (symbol : String) :
    Answers ls symbol (resolveDriverFromPtr l handle symbol) := by
  unfold resolveDriverFromPtr
  split
  · exact resolveNext_answers hl symbol
  · cases h : l handle symbol with
    | none => exact resolveNext_answers hl symbol
    | some f => exact ⟨l, hl, handle, h⟩

theorem resolve_answers (hl : l ∈ ls) (s : Hooks) (symbol : String) :
    Answers ls symbol (s.resolve l symbol) := by
  unfold Hooks.resolve
  split
  · exact resolveNext_answers hl symbol
  · exact resolveDriver_answers hl s.driverHandle symbol

/-- Looking a target up sets its cell and changes no other. -/
theorem real_extends (h : s.real l symbol = (r, s')) : Extends s s' ∧ s'.cells symbol = some r := by
  unfold Hooks.real at h
  cases hcell : s.cells symbol with
  | some r₀ =>
    rw [hcell] at h
    cases h
    exact ⟨Extends.refl s, hcell⟩
  | none =>
    rw [hcell] at h
    cases h
    refine ⟨⟨fun n r hn => ?_, fun _ _ hn => hn⟩, Function.update_self _ _ _⟩
    have hne : n ≠ symbol := by
      rintro rfl
      rw [hcell] at hn
      cases hn
    dsimp only
    rw [Function.update_of_ne hne]
    exact hn

theorem real_kept (hl : l ∈ ls) (hs : Kept ls s) (h : s.real l symbol = (r, s')) :
    Kept ls s' ∧ Answers ls symbol r := by
  unfold Hooks.real at h
  cases hcell : s.cells symbol with
  | some r₀ =>
    rw [hcell] at h
    cases h
    exact ⟨hs, hs.cells symbol r hcell⟩
  | none =>
    rw [hcell] at h
    cases h
    have hr := resolve_answers hl s symbol
    refine ⟨⟨fun n r hn => ?_, hs.generated⟩, hr⟩
    dsimp only at hn
    by_cases hne : n = symbol
    · subst hne
      rw [Function.update_self] at hn
      cases hn
      exact hr
    · rw [Function.update_of_ne hne] at hn
      exact hs.cells n r hn

/-- A target already looked up. -/
theorem real_again {r : Option Fn} (h : s.cells symbol = some r) (l : Loader) :
    s.real l symbol = (r, s) := by
  unfold Hooks.real
  rw [h]

theorem firstReal_extends {symbols : List String} (h : s.firstReal l symbols = (r, s')) :
    Extends s s' := by
  induction symbols generalizing s with
  | nil =>
    cases h
    exact Extends.refl _
  | cons n rest ih =>
    obtain ⟨⟨q, mid⟩, hq⟩ : ∃ q, s.real l n = q := ⟨_, rfl⟩
    have hext := (real_extends hq).1
    simp only [Hooks.firstReal, hq] at h
    cases q with
    | some f =>
      cases h
      exact hext
    | none => exact hext.trans (ih h)

/-- The first target that resolves; all those before it, or all of them, were missed. -/
theorem firstReal_kept (hl : l ∈ ls) {symbols : List String} (hs : Kept ls s)
    (h : s.firstReal l symbols = (r, s')) :
    Kept ls s' ∧ ((∃ n ∈ symbols, ∃ f, r = some f ∧ Found ls n f) ∨
      (r = none ∧ ∀ n ∈ symbols, Missed ls n)) := by
  induction symbols generalizing s with
  | nil =>
    cases h
    exact ⟨hs, Or.inr ⟨rfl, fun _ hn => absurd hn List.not_mem_nil⟩⟩
  | cons n rest ih =>
    obtain ⟨⟨q, mid⟩, hq⟩ : ∃ q, s.real l n = q := ⟨_, rfl⟩
    obtain ⟨hmid, hans⟩ := real_kept hl hs hq
    simp only [Hooks.firstReal, hq] at h
    cases q with
    | some f =>
      cases h
      exact ⟨hmid, Or.inl ⟨n, List.mem_cons_self, f, rfl, hans⟩⟩
    | none =>
      obtain ⟨hk, hcase⟩ := ih hmid h
      refine ⟨hk, ?_⟩
      rcases hcase with ⟨m, hm, f, hf, hfound⟩ | ⟨hr, hmiss⟩
      · exact Or.inl ⟨m, List.mem_cons_of_mem n hm, f, hf, hfound⟩
      · refine Or.inr ⟨hr, fun m hm => ?_⟩
        rcases List.mem_cons.mp hm with rfl | hm
        · exact hans
        · exact hmiss m hm

theorem firstReal_again {symbols : List String} (h : s.firstReal l symbols = (r, s')) {t : Hooks}
    (he : Extends s' t) (l' : Loader) : t.firstReal l' symbols = (r, t) := by
  induction symbols generalizing s with
  | nil =>
    cases h
    rfl
  | cons n rest ih =>
    obtain ⟨⟨q, mid⟩, hq⟩ : ∃ q, s.real l n = q := ⟨_, rfl⟩
    have hset := (real_extends hq).2
    simp only [Hooks.firstReal, hq] at h
    cases q with
    | some f =>
      cases h
      simp only [Hooks.firstReal, real_again (he.cells n _ hset)]
    | none =>
      have hnone := he.cells n _ ((firstReal_extends h).cells n _ hset)
      simp only [Hooks.firstReal, real_again hnone]
      exact ih h

/-- A generated wrapper has its function, or finds it now, or goes without. -/
theorem generatedReal_cases (h : s.generatedReal l symbol = (r, s')) :
    (∃ f, s.generatedCells symbol = some f ∧ r = some f ∧ s' = s) ∨
    (s.generatedCells symbol = none ∧ r = resolveDriverFromPtr l s.driverHandle symbol ∧
      (r = none ∧ s' = s ∨ ∃ f, r = some f ∧
        s' = { s with generatedCells := Function.update s.generatedCells symbol (some f) })) := by
  unfold Hooks.generatedReal at h
  cases hcell : s.generatedCells symbol with
  | some f =>
    rw [hcell] at h
    cases h
    exact Or.inl ⟨f, rfl, rfl, rfl⟩
  | none =>
    rw [hcell] at h
    cases hres : resolveDriverFromPtr l s.driverHandle symbol with
    | none =>
      rw [hres] at h
      cases h
      exact Or.inr ⟨rfl, rfl, Or.inl ⟨rfl, rfl⟩⟩
    | some f =>
      rw [hres] at h
      cases h
      exact Or.inr ⟨rfl, rfl, Or.inr ⟨f, rfl, rfl⟩⟩

theorem generatedReal_extends (h : s.generatedReal l symbol = (r, s')) : Extends s s' := by
  rcases generatedReal_cases h with ⟨f, -, -, rfl⟩ | ⟨hcell, -, ⟨-, rfl⟩ | ⟨f, -, rfl⟩⟩
  · exact Extends.refl _
  · exact Extends.refl _
  · refine ⟨fun _ _ hn => hn, fun n g hn => ?_⟩
    have hne : n ≠ symbol := by
      rintro rfl
      rw [hcell] at hn
      cases hn
    dsimp only
    rw [Function.update_of_ne hne]
    exact hn

theorem generatedReal_kept (hl : l ∈ ls) (hs : Kept ls s)
    (h : s.generatedReal l symbol = (r, s')) : Kept ls s' ∧ Answers ls symbol r := by
  have hans := resolveDriver_answers hl s.driverHandle symbol
  rcases generatedReal_cases h with ⟨f, hcell, rfl, rfl⟩ | ⟨-, hr, hcase⟩
  · exact ⟨hs, hs.generated symbol f hcell⟩
  · rw [← hr] at hans
    rcases hcase with ⟨-, rfl⟩ | ⟨f, rfl, rfl⟩
    · exact ⟨hs, hans⟩
    · refine ⟨⟨hs.cells, fun n g hn => ?_⟩, hans⟩
      dsimp only at hn
      by_cases hne : n = symbol
      · subst hne
        rw [Function.update_self] at hn
        cases hn
        exact hans
      · rw [Function.update_of_ne hne] at hn
        exact hs.generated n g hn

theorem generatedReal_again {f : Fn} (h : s.generatedReal l symbol = (some f, s')) {t : Hooks}
    (he : Extends s' t) (l' : Loader) : t.generatedReal l' symbol = (some f, t) := by
  have hset : s'.generatedCells symbol = some f := by
    rcases generatedReal_cases h with ⟨g, hcell, hg, rfl⟩ | ⟨-, -, ⟨hn, -⟩ | ⟨g, hg, rfl⟩⟩
    · rw [hg, hcell]
    · cases hn
    · rw [hg]
      exact Function.update_self _ _ _
  unfold Hooks.generatedReal
  rw [he.generated symbol f hset]

/-- The names under which a wrapper looks for its target. -/
def Wrapper.names (w : Wrapper) : List String := if w.manual then w.targets else [w.name]

theorem target_extends {w : Wrapper} (h : s.target l w = (r, s')) : Extends s s' := by
  unfold Hooks.target at h
  split at h
  · exact firstReal_extends h
  · exact generatedReal_extends h

/-- A wrapper calls what some loader found under one of its names, unless all were missed. -/
theorem target_kept (hl : l ∈ ls) {w : Wrapper} (hs : Kept ls s) (h : s.target l w = (r, s')) :
    Kept ls s' ∧ ((∃ n ∈ w.names, ∃ f, r = some f ∧ Found ls n f) ∨
      (r = none ∧ ∀ n ∈ w.names, Missed ls n)) := by
  unfold Hooks.target at h
  unfold Wrapper.names
  split at h
  · rename_i hm
    rw [if_pos hm]
    exact firstReal_kept hl hs h
  · rename_i hm
    rw [if_neg hm]
    obtain ⟨hk, hans⟩ := generatedReal_kept hl hs h
    refine ⟨hk, ?_⟩
    cases r with
    | none => exact Or.inr ⟨rfl, fun n hn => List.mem_singleton.mp hn ▸ hans⟩
    | some f => exact Or.inl ⟨w.name, List.mem_singleton_self _, f, rfl, hans⟩

/-- A target once found is called ever after, whatever the loaders have become. -/
theorem target_again {w : Wrapper} {f : Fn} (h : s.target l w = (some f, s')) {t : Hooks}
    (he : Extends s' t) (l' : Loader) : t.target l' w = (some f, t) := by
  unfold Hooks.target at h ⊢
  split at h
  · rename_i hm
    rw [if_pos hm]
    exact firstReal_again h he l'
  · rename_i hm
    rw [if_neg hm]
    exact generatedReal_again h he l'

end

/-! ### Runs -/

theorem linked_kept {generated : List String} {s : Linked} (h : (linked generated).Reachable s) :
    s.loader ∈ s.loaders ∧ Kept s.loaders s.hooks := by
  induction h with
  | start h0 =>
    obtain ⟨hl, hh, -⟩ := h0
    rw [hl, hh]
    exact ⟨List.mem_singleton_self _, nofun, nofun⟩
  | @step s lab s' _ _ hs ih =>
    obtain ⟨hl, hk⟩ := ih
    obtain rfl := hs
    cases lab with
    | load l' =>
      exact ⟨List.mem_cons_self, fun n r hn => (hk.cells n r hn).cons l', fun n f hn =>
        Answers.cons (r := some f) (hk.generated n f hn) l'⟩
    | dlsym handle symbol =>
      refine ⟨hl, ?_⟩
      have hsame : (s.hooks.dlsym generated s.loader handle symbol).2.cells = s.hooks.cells ∧
          (s.hooks.dlsym generated s.loader handle symbol).2.generatedCells =
            s.hooks.generatedCells := by
        unfold Hooks.dlsym
        dsimp only
        split
        · split <;> exact ⟨rfl, rfl⟩
        · exact ⟨rfl, rfl⟩
      exact ⟨fun n r hn => hk.cells n r (hsame.1 ▸ hn), fun n f hn => hk.generated n f (hsame.2 ▸ hn)⟩
    | use w => exact ⟨hl, (target_kept hl hk rfl).1⟩

/-- The runs that go on from `s`. -/
def linkedFrom (generated : List String) (s : Linked) : System Linked LinkLabel :=
  { linked generated with start := (· = s) }

theorem step_extends (generated : List String) (s : Linked) (lab : LinkLabel) :
    Extends s.hooks (s.step generated lab).hooks := by
  cases lab with
  | load l => exact Extends.refl _
  | dlsym handle symbol =>
    have hdlsym : Extends s.hooks (s.hooks.dlsym generated s.loader handle symbol).2 := by
      unfold Hooks.dlsym
      dsimp only
      split
      · split <;> exact ⟨fun _ _ hn => hn, fun _ _ hn => hn⟩
      · exact Extends.refl _
    exact hdlsym
  | use w => exact target_extends rfl

theorem extends_of_reach {generated : List String} {s t : Linked}
    (h : (linkedFrom generated s).Reachable t) : Extends s.hooks t.hooks := by
  induction h with
  | start h0 =>
    obtain rfl := h0
    exact Extends.refl _
  | @step t lab t' _ _ hs ih =>
    obtain rfl := hs
    exact ih.trans (step_extends generated t lab)

/-! ### Calls through looked-up pointers -/

section

variable {A W : Type*} (impl : ℕ → A → W → CUresult × W)
  (lookup : Wrapper → A → Hooks × W → CUresult × Hooks × W)

/-- Calling the wrapper calls the real function `id` once and gives back its result. -/
def CallsReal (t : Linked) (w : Wrapper) (id : ℕ) : Prop :=
  ∀ a x, ∃ hooks, ∀ fuel, callFn impl lookup t.loader (fuel + 2) (.wrapper w) a (t.hooks, x) =
    some ((impl id a x).1, hooks, (impl id a x).2)

/-- Calling the wrapper calls nothing and gives back the error code. -/
def CallsNothing (t : Linked) (w : Wrapper) : Prop :=
  ∀ a x, ∃ hooks, ∀ fuel, callFn impl lookup t.loader (fuel + 1) (.wrapper w) a (t.hooks, x) =
    some (cudaErrorUnknown, hooks, x)

variable {impl lookup}

theorem callsReal_of_target {t : Linked} {w : Wrapper} {id : ℕ} {hooks : Hooks}
    (hw : w.looksUp = false) (h : t.hooks.target t.loader w = (some (.real id), hooks)) :
    CallsReal impl lookup t w id := by
  intro a x
  refine ⟨hooks, fun fuel => ?_⟩
  simp only [callFn, hw, Bool.false_eq_true, if_false, h]

theorem callsNothing_of_target {t : Linked} {w : Wrapper} {hooks : Hooks} (hw : w.looksUp = false)
    (h : t.hooks.target t.loader w = (none, hooks)) : CallsNothing impl lookup t w := by
  intro a x
  refine ⟨hooks, fun fuel => ?_⟩
  simp only [callFn, hw, Bool.false_eq_true, if_false, h]

end

theorem dlsym_cases (generated : List String) (l : Loader) (s : Hooks) {handle : Handle}
    {symbol : String} {f : Fn} (hf : l handle symbol = some f) :
    ((handle = rtldNext ∨ dlsymOverride generated symbol = none) ∧
      s.dlsym generated l handle symbol = (some f, s)) ∨
    ∃ w, handle ≠ rtldNext ∧ dlsymOverride generated symbol = some w ∧
      s.dlsym generated l handle symbol = (some (.wrapper w), { s with driverHandle := handle }) := by
  unfold Hooks.dlsym
  rw [hf]
  by_cases hh : handle = rtldNext
  · exact Or.inl ⟨Or.inl hh, by simp [hh]⟩
  · cases ho : dlsymOverride generated symbol with
    | none => exact Or.inl ⟨Or.inr rfl, by simp⟩
    | some w => exact Or.inr ⟨w, hh, rfl, by simp [hh]⟩

/-- A wrapper calls nothing, or what was found under one of its names, from then on always
the same. -/
theorem wrapper_calls {generated : List String} {A W : Type*} (impl : ℕ → A → W → CUresult × W)
    (lookup : Wrapper → A → Hooks × W → CUresult × Hooks × W) {w : Wrapper}
    (hw : w.looksUp = false) {t : Linked} (ht : (linked generated).Reachable t) :
    (CallsNothing impl lookup t w ∧ ∀ n ∈ w.names, Missed t.loaders n) ∨
    ∃ n ∈ w.names, ∃ g, Found t.loaders n g ∧
      ∀ id, g = .real id → ∀ u,
        u = t ∨ (linkedFrom generated (t.step generated (.use w))).Reachable u →
        CallsReal impl lookup u w id := by
  obtain ⟨⟨r, hooks⟩, hr⟩ : ∃ p, t.hooks.target t.loader w = p := ⟨_, rfl⟩
  obtain ⟨hl, hk⟩ := linked_kept ht
  rcases (target_kept hl hk hr).2 with ⟨n, hn, g, rfl, hfound⟩ | ⟨rfl, hmiss⟩
  · refine Or.inr ⟨n, hn, g, hfound, ?_⟩
    rintro id rfl u (rfl | hu)
    · exact callsReal_of_target hw hr
    · have hext := extends_of_reach hu
      have hstep : (t.step generated (.use w)).hooks = hooks := congrArg Prod.snd hr
      rw [hstep] at hext
      exact callsReal_of_target hw (target_again hr hext u.loader)
  · exact Or.inl ⟨callsNothing_of_target hw hr, hmiss⟩

/-- What calls of a looked-up pointer lead to, over every run of loads, lookups and calls. -/
theorem dlsym_transparency (generated : List String) {A W : Type*} (impl : ℕ → A → W → CUresult × W)
    (lookup : Wrapper → A → Hooks × W → CUresult × Hooks × W) {s : Linked} {handle : Handle}
    {symbol : String} {f : Fn} (hf : s.loader handle symbol = some f) :
    ((handle = rtldNext ∨ dlsymOverride generated symbol = none) →
      s.hooks.dlsym generated s.loader handle symbol = (some f, s.hooks)) ∧
    ∀ w, handle ≠ rtldNext → dlsymOverride generated symbol = some w →
      (s.hooks.dlsym generated s.loader handle symbol).1 = some (.wrapper w) ∧
      (w.looksUp = false → ∀ t, (linked generated).Reachable t →
        (CallsNothing impl lookup t w ∧ ∀ n ∈ w.names, Missed t.loaders n) ∨
        ∃ n ∈ w.names, ∃ g, Found t.loaders n g ∧
          (∀ id, g = .real id → ∀ u,
            u = t ∨ (linkedFrom generated (t.step generated (.use w))).Reachable u →
            CallsReal impl lookup u w id) ∧
          (w.names = [symbol] → (∀ g, Found t.loaders symbol g → g = f) →
            ∀ id, f = .real id → CallsReal impl lookup t w id)) := by
  have hcases := dlsym_cases generated s.loader s.hooks hf
  refine ⟨fun hplain => ?_, fun w hne ho => ⟨?_, fun hw t ht => ?_⟩⟩
  · rcases hcases with ⟨-, he⟩ | ⟨w, hne, ho, -⟩
    · exact he
    · rcases hplain with hp | hp
      · exact absurd hp hne
      · rw [hp] at ho
        cases ho
  · rcases hcases with ⟨hp | hp, -⟩ | ⟨w', -, ho', he⟩
    · exact absurd hp hne
    · rw [hp] at ho
      cases ho
    · rw [he]
      exact congrArg (fun o => o.map Fn.wrapper) (ho'.symm.trans ho)
  · rcases wrapper_calls impl lookup hw ht with hnothing | ⟨n, hn, g, hfound, hcalls⟩
    · exact Or.inl hnothing
    · refine Or.inr ⟨n, hn, g, hfound, hcalls, ?_⟩
      rintro hnames hone id rfl
      rw [hnames] at hn
      obtain rfl := List.mem_singleton.mp hn
      exact hcalls id (hone g hfound) t (Or.inl rfl)

/-- A driver library under handle 5 that exports both versions of one function. -/
def elapsedLoader : Loader := fun handle symbol =>
  if handle = 5 then
    if symbol = "cuInit" then some (.real 1)
    else if symbol = "cuEventElapsedTime" then some (.real 2)
    else if symbol = "cuEventElapsedTime_v2" then some (.real 3)
    else none
  else none

def elapsedStart : Linked := ⟨elapsedLoader, [elapsedLoader], .initial, []⟩

/-- A real function leaves its number in the log of calls. -/
def logCall (id : ℕ) (_ : Unit) (log : List ℕ) : CUresult × List ℕ := (0, log ++ [id])

def noLookup (_ : Wrapper) (_ : Unit) (p : Hooks × List ℕ) : CUresult × Hooks × List ℕ := (0, p)

theorem dlsym_transparency_init :
    (elapsedStart.hooks.dlsym [] elapsedLoader 5 "cuInit").1 = some (.wrapper (.plain "cuInit")) ∧
    CallsReal logCall noLookup (elapsedStart.step [] (.dlsym 5 "cuInit")) (.plain "cuInit") 1 := by
  have hmain := (@dlsym_transparency [] Unit (List ℕ) logCall noLookup elapsedStart 5 "cuInit"
    (.real 1) rfl).2 (.plain "cuInit") (by decide) rfl
  have hreach : (linked []).Reachable (elapsedStart.step [] (.dlsym 5 "cuInit")) :=
    .step (.start ⟨rfl, rfl, rfl⟩) trivial rfl
  have hone : ∀ g, Found (elapsedStart.step [] (.dlsym 5 "cuInit")).loaders "cuInit" g →
      g = .real 1 := by
    rintro g ⟨l, hl, handle, hg⟩
    obtain rfl := List.mem_singleton.mp hl
    unfold elapsedLoader at hg
    split at hg
    · exact (Option.some.inj hg).symm
    · cases hg
  refine ⟨hmain.1, ?_⟩
  rcases hmain.2 rfl _ hreach with ⟨hnothing, -⟩ | ⟨-, -, -, -, -, hcalls⟩
  · have hreal : CallsReal logCall noLookup (elapsedStart.step [] (.dlsym 5 "cuInit"))
        (.plain "cuInit") 1 := callsReal_of_target rfl rfl
    obtain ⟨hooks, hn⟩ := hnothing () []
    obtain ⟨hooks', hr⟩ := hreal () []
    exact absurd (Prod.mk.inj (Option.some.inj ((hn 1).symm.trans (hr 0)))).1 (by decide)
  · exact hcalls rfl hone 1 rfl

/-- The second version is looked up, and the first is called. -/
theorem dlsym_calls_other_version :
    elapsedLoader 5 "cuEventElapsedTime_v2" = some (.real 3) ∧
    ∃ w, (elapsedStart.hooks.dlsym [] elapsedLoader 5 "cuEventElapsedTime_v2").1 =
        some (.wrapper w) ∧
      CallsReal logCall noLookup (elapsedStart.step [] (.dlsym 5 "cuEventElapsedTime_v2")) w 2 ∧
      ¬ CallsReal logCall noLookup (elapsedStart.step [] (.dlsym 5 "cuEventElapsedTime_v2")) w 3 := by
  have hcalls : CallsReal logCall noLookup
      (elapsedStart.step [] (.dlsym 5 "cuEventElapsedTime_v2")) cuEventElapsedTime 2 :=
    callsReal_of_target rfl rfl
  refine ⟨rfl, cuEventElapsedTime, rfl, hcalls, fun h3 => ?_⟩
  obtain ⟨hooks₂, h2⟩ := hcalls () []
  obtain ⟨hooks₃, h3⟩ := h3 () []
  have hlog := (Prod.mk.inj (Option.some.inj ((h2 0).symm.trans (h3 0)))).2
  exact absurd (Prod.mk.inj hlog).2 (by decide)

/-! ### The remembered handle -/

section

variable {generated : List String} {s : Linked} {handle : Handle} {symbol : String}

end

end CudaTrace.Hook
