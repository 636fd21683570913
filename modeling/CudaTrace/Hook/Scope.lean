import CudaTrace.Hook.Graph

/-!
# Traced calls (hook/mod.rs)

A `TraceScope` is open for the time of one hooked call. Entering it may open a
function-graph window, which the tracer learns from a record, and a span of the
call graph.
-/

namespace CudaTrace.Hook
open CudaTrace.Boot CudaTrace.Ptrace

/-- The sequence numbers handed out so far (`WINDOW_SEQ`), shared by all threads. -/
abbrev WindowSeq := String → Option U32

def nextFgraphWindowSeq (func : String) (seqs : WindowSeq) : U32 × WindowSeq :=
  let next := saturatingAddOne ((seqs func).getD 0)
  (next, Function.update seqs func (some next))

structure TraceScope where
  span : Option SpanToken
  fgraphWindowMatched : Bool
  deriving DecidableEq

def enterFgraphWindowIfMatched (image : Image) (gettid : Pid) (func : String) (seqs : WindowSeq)
    (t : Thread) : Bool × WindowSeq × Thread :=
  if !image.config.fgraphEnabled || !image.config.fgraphMatch func then (false, seqs, t)
  else
    let (seq, seqs) := nextFgraphWindowSeq func seqs
    let depth := saturatingAddOne t.fgraphWindowDepth
    (true, seqs,
      publishFgraphWindowEnter image gettid depth func seq { t with fgraphWindowDepth := depth })

def exitFgraphWindowIfNeeded (image : Image) (gettid : Pid) (matched : Bool) (t : Thread) : Thread :=
  if !matched then t
  else
    let depth := saturatingSubOne t.fgraphWindowDepth
    publishFgraphWindowExit image gettid depth { t with fgraphWindowDepth := depth }

/-- `TraceScope::enter_lazy`, after `ensure_started`. -/
def TraceScope.enterLazy (image : Image) (gettid : Pid) (clock : Clock) (domain : TraceDomain)
    (func args : String) (seqs : WindowSeq) (t : Thread) : TraceScope × WindowSeq × Thread :=
  if image.inTracerProcess then (⟨none, false⟩, seqs, t)
  else
    let blocked := t.hooksBlocked
    let (matched, seqs, t) :=
      if blocked then (false, seqs, t) else enterFgraphWindowIfMatched image gettid func seqs t
    if !image.config.traceEnabled domain || blocked then (⟨none, matched⟩, seqs, t)
    else (⟨some ⟨⟩, matched⟩, seqs, (graphEnter image gettid clock func args t.bypass).unbypass)

/-- `TraceScope::finish`. -/
def TraceScope.finish (scope : TraceScope) (image : Image) (gettid : Pid) (clock : Clock)
    (ret : String) (t : Thread) : Thread :=
  let t := exitFgraphWindowIfNeeded image gettid scope.fgraphWindowMatched t
  match scope.span with
  | some _ => (graphExit image gettid clock ret t.bypass).unbypass
  | none => t

/-! ### What a call does to the window of its thread -/

def Effect.windowMsg : Effect → Option FgraphWindowUpdate
  | .window msg => some msg
  | .depth _ | .line _ => none

/-- The window records a thread has still to send. -/
def Thread.windowOut (t : Thread) : List FgraphWindowUpdate := t.effects.filterMap Effect.windowMsg

/-- The cached id is not set, or right. -/
def Thread.KnowsTid (gettid : Pid) (t : Thread) : Prop := t.cachedTid = 0 ∨ t.cachedTid = gettid

/-- Nothing that concerns windows happens between `t` and `u`. -/
structure SameWindow (gettid : Pid) (t u : Thread) : Prop where
  depth : u.fgraphWindowDepth = t.fgraphWindowDepth
  out : u.windowOut = t.windowOut
  tid : t.KnowsTid gettid → u.KnowsTid gettid

namespace SameWindow

variable {gettid : Pid} {t u v : Thread}

theorem refl (t : Thread) : SameWindow gettid t t := ⟨rfl, rfl, id⟩

theorem trans (h : SameWindow gettid t u) (h' : SameWindow gettid u v) : SameWindow gettid t v :=
  ⟨h'.depth.trans h.depth, h'.out.trans h.out, h'.tid ∘ h.tid⟩

theorem perform (t : Thread) {e : Effect} (he : e.windowMsg = none) :
    SameWindow gettid t (t.perform e) := by
  refine ⟨rfl, ?_, id⟩
  simp [Thread.windowOut, Thread.perform, he]

theorem currentTid (t : Thread) : SameWindow gettid t (t.currentTid gettid).2 := by
  unfold Thread.currentTid
  split
  · exact refl t
  · dsimp only
    split
    · exact ⟨rfl, rfl, fun _ => Or.inr rfl⟩
    · exact refl t

theorem publishGraphDepth (image : Image) (depth : ℕ) (t : Thread) :
    SameWindow gettid t (publishGraphDepth image gettid depth t) := by
  unfold Hook.publishGraphDepth
  split
  · exact refl t
  · split
    · exact refl t
    · exact (currentTid t).trans (perform _ rfl)

theorem logOpenLine (cfg : Config) (tid : Pid) (toOpen : Option Frame) (t : Thread) :
    SameWindow gettid t (logOpenLine cfg tid toOpen t) := by
  cases toOpen with
  | none => exact refl t
  | some frame => exact perform t rfl

theorem graphEnter (image : Image) (clock : Clock) (func args : String) (t : Thread) :
    SameWindow gettid t (graphEnter image gettid clock func args t) := by
  have hstack : ∀ stack, SameWindow gettid t { t with stack := stack } := fun _ => ⟨rfl, rfl, id⟩
  exact (((hstack _).trans (publishGraphDepth image _ _)).trans (currentTid _)).trans
    ((logOpenLine _ _ _ _).trans (logOpenLine _ _ _ _))

theorem graphExit (image : Image) (clock : Clock) (ret : String) (t : Thread) :
    SameWindow gettid t (graphExit image gettid clock ret t) := by
  unfold Hook.graphExit
  split
  · exact refl t
  · rename_i frame stack _
    have hstack : SameWindow gettid t { t with stack := stack } := ⟨rfl, rfl, id⟩
    have htid := (hstack.trans (publishGraphDepth image stack.length _)).trans (currentTid _)
    dsimp only
    split
    · split
      · exact htid.trans (perform _ rfl)
      · exact (htid.trans (perform _ rfl)).trans (perform _ rfl)
    · exact htid.trans (perform _ rfl)

theorem bypass (t : Thread) : SameWindow gettid t t.bypass := ⟨rfl, rfl, id⟩

theorem unbypass (t : Thread) : SameWindow gettid t t.unbypass := ⟨rfl, rfl, id⟩

end SameWindow

theorem Thread.KnowsTid.currentTid {gettid : Pid} {t : Thread} (h : t.KnowsTid gettid) :
    (t.currentTid gettid).1 = gettid := by
  unfold Thread.currentTid
  split
  · rename_i hpos
    rcases h with h | h
    · rw [h] at hpos
      exact absurd hpos (by decide)
    · exact h
  · rfl

theorem windowOut_perform (t : Thread) (msg : FgraphWindowUpdate) :
    (t.perform (.window msg)).windowOut = t.windowOut ++ [msg] := by
  simp [Thread.windowOut, Thread.perform, Effect.windowMsg]

/-- The images that capture function graphs trace syscalls, and the window pipe is there. -/
structure WindowPipe (image : Image) : Prop where
  syscall : image.config.fgraphEnabled = true → image.config.trace.syscall = true
  opened : 0 ≤ image.fgraphWindowPipeWrFd.toInt

/-- The thread has gone one window deeper or up, and one record of it is to be sent. -/
structure MovesWindow (gettid : Pid) (depth : U64) (msg : FgraphWindowUpdate) (t u : Thread) :
    Prop where
  depth : u.fgraphWindowDepth = depth
  out : u.windowOut = t.windowOut ++ [msg]
  tid : u.KnowsTid gettid

theorem MovesWindow.trans {gettid : Pid} {depth : U64} {msg : FgraphWindowUpdate} {t u v : Thread}
    (h : MovesWindow gettid depth msg t u) (h' : SameWindow gettid u v) :
    MovesWindow gettid depth msg t v :=
  ⟨h'.depth.trans h.depth, h'.out.trans h.out, h'.tid h.tid⟩

section

variable {image : Image} {gettid : Pid} {t : Thread}

theorem publishes (hpipe : WindowPipe image) (ht : image.inTracerProcess = false)
    (hf : image.config.fgraphEnabled = true) (msg : FgraphWindowUpdate) (t : Thread) :
    publishFgraphWindowUpdate image msg t = t.perform (.window msg) := by
  have hfd : ¬ image.fgraphWindowPipeWrFd.toInt < 0 := not_lt.mpr hpipe.opened
  unfold publishFgraphWindowUpdate
  rw [ht, hf, hpipe.syscall hf, if_neg (by decide), if_neg hfd]

/-- A record published after the cached id was read. -/
theorem movesWindow (hpipe : WindowPipe image) (ht : image.inTracerProcess = false)
    (hf : image.config.fgraphEnabled = true) (hk : t.KnowsTid gettid) (depth : U64)
    (msg : Pid → FgraphWindowUpdate) :
    MovesWindow gettid depth (msg gettid) t
      (let (tid, t) := ({ t with fgraphWindowDepth := depth } : Thread).currentTid gettid
      publishFgraphWindowUpdate image (msg tid) t) := by
  have hk' : ({ t with fgraphWindowDepth := depth } : Thread).KnowsTid gettid := hk
  have hsame : SameWindow gettid { t with fgraphWindowDepth := depth } _ :=
    SameWindow.currentTid { t with fgraphWindowDepth := depth }
  dsimp only
  rw [hk'.currentTid, publishes hpipe ht hf]
  refine ⟨hsame.depth, ?_, hsame.tid hk⟩
  rw [windowOut_perform, hsame.out]
  rfl

theorem enterFgraphWindow_cases (hpipe : WindowPipe image) (ht : image.inTracerProcess = false)
    (hk : t.KnowsTid gettid) {func : String} {seqs seqs' : WindowSeq} {matched : Bool} {u : Thread}
    (h : enterFgraphWindowIfMatched image gettid func seqs t = (matched, seqs', u)) :
    (matched = false ∧ SameWindow gettid t u) ∨
    (matched = true ∧ image.config.fgraphEnabled = true ∧ ∃ seq, seqs' func = some seq ∧
      MovesWindow gettid (saturatingAddOne t.fgraphWindowDepth)
        ⟨gettid, clampU32 (saturatingAddOne t.fgraphWindowDepth).toNat, seq, fgraphWindowEventEnter,
          setFunc func⟩ t u) := by
  unfold enterFgraphWindowIfMatched at h
  split at h
  · cases h
    exact Or.inl ⟨rfl, SameWindow.refl t⟩
  · rename_i hmatch
    have hf : image.config.fgraphEnabled = true := by
      by_contra hf
      exact hmatch (by simp [hf])
    cases h
    refine Or.inr ⟨rfl, hf, _, Function.update_self _ _ _, ?_⟩
    exact movesWindow hpipe ht hf hk _ fun tid => ⟨tid, _, _, fgraphWindowEventEnter, setFunc func⟩

/-- Entering a scope opens a window if and only if the scope is matched. -/
theorem enterLazy_cases (hpipe : WindowPipe image) (hk : t.KnowsTid gettid) {clock : Clock}
    {domain : TraceDomain} {func args : String} {seqs seqs' : WindowSeq} {scope : TraceScope}
    {u : Thread}
    (h : TraceScope.enterLazy image gettid clock domain func args seqs t = (scope, seqs', u)) :
    (scope.fgraphWindowMatched = false ∧ SameWindow gettid t u) ∨
    (scope.fgraphWindowMatched = true ∧ image.inTracerProcess = false ∧
      image.config.fgraphEnabled = true ∧ ∃ seq, seqs' func = some seq ∧
      MovesWindow gettid (saturatingAddOne t.fgraphWindowDepth)
        ⟨gettid, clampU32 (saturatingAddOne t.fgraphWindowDepth).toNat, seq, fgraphWindowEventEnter,
          setFunc func⟩ t u) := by
  unfold TraceScope.enterLazy at h
  split at h
  · cases h
    exact Or.inl ⟨rfl, SameWindow.refl t⟩
  · rename_i ht
    have ht : image.inTracerProcess = false := by simpa using ht
    obtain ⟨⟨matched, seqs₁, t₁⟩, hinner⟩ : ∃ r, (if t.hooksBlocked then (false, seqs, t)
        else enterFgraphWindowIfMatched image gettid func seqs t) = r := ⟨_, rfl⟩
    have hspan : scope.fgraphWindowMatched = matched ∧ seqs' = seqs₁ ∧ SameWindow gettid t₁ u := by
      dsimp only at h
      rw [hinner] at h
      dsimp only at h
      split at h
      · cases h
        exact ⟨rfl, rfl, SameWindow.refl _⟩
      · cases h
        refine ⟨rfl, rfl, ?_⟩
        exact ((SameWindow.bypass t₁).trans (.graphEnter image clock func args _)).trans
          (.unbypass _)
    obtain ⟨rfl, rfl, hsame⟩ := hspan
    split at hinner
    · obtain ⟨hm, hrest⟩ := Prod.mk.inj hinner
      obtain ⟨-, rfl⟩ := Prod.mk.inj hrest
      exact Or.inl ⟨hm.symm, hsame⟩
    · rcases enterFgraphWindow_cases hpipe ht hk hinner with ⟨hm, hs⟩ |
        ⟨hm, hf, seq, hseq, hmove⟩
      · exact Or.inl ⟨hm, hs.trans hsame⟩
      · exact Or.inr ⟨hm, ht, hf, seq, hseq, hmove.trans hsame⟩

/-- Finishing a scope closes its window, if it has one. -/
theorem finish_cases (hpipe : WindowPipe image) (hk : t.KnowsTid gettid) (scope : TraceScope)
    (hs : scope.fgraphWindowMatched = true →
      image.inTracerProcess = false ∧ image.config.fgraphEnabled = true) (clock : Clock)
    (ret : String) :
    (scope.fgraphWindowMatched = false ∧
      SameWindow gettid t (scope.finish image gettid clock ret t)) ∨
    (scope.fgraphWindowMatched = true ∧
      MovesWindow gettid (saturatingSubOne t.fgraphWindowDepth)
        ⟨gettid, clampU32 (saturatingSubOne t.fgraphWindowDepth).toNat, 0, fgraphWindowEventExit,
          .replicate _ 0⟩ t (scope.finish image gettid clock ret t)) := by
  have hspan : ∀ u, SameWindow gettid u
      (match scope.span with
      | some _ => (graphExit image gettid clock ret u.bypass).unbypass
      | none => u) := by
    intro u
    cases scope.span with
    | none => exact SameWindow.refl u
    | some token =>
      exact ((SameWindow.bypass u).trans (.graphExit image clock ret _)).trans (.unbypass _)
  cases hm : scope.fgraphWindowMatched with
  | false =>
    have hsame := hspan t
    refine Or.inl ⟨rfl, ?_⟩
    unfold TraceScope.finish
    rw [hm]
    exact hsame
  | true =>
    obtain ⟨ht, hf⟩ := hs hm
    refine Or.inr ⟨rfl, ?_⟩
    unfold TraceScope.finish
    rw [hm]
    exact (movesWindow hpipe ht hf hk _ fun tid =>
      ⟨tid, _, 0, fgraphWindowEventExit, .replicate _ 0⟩).trans (hspan _)

end

end CudaTrace.Hook
