import CudaTrace.Base.CallForest
import CudaTrace.Hook.Scope

/-!
# What a traced call does to the graph of its thread (graph.rs)

While syscalls are traced a span is opened eagerly: its depth record and then its opening
line go out at once, and its closing sends the outer depth before the closing line.
-/

namespace CudaTrace.Hook
open CudaTrace.Base CudaTrace.Boot CudaTrace.Ptrace

/-! ### Nodes and their lines -/

structure SpanHead where
  func : String
  args : String
  startedTs : ℕ

structure SpanResult where
  ret : String
  elapsed : ℕ × String

/-- The text of a syscall line before its indentation, with the timestamp of its prefix. -/
structure SyscallLeaf where
  body : String
  startedTs : ℕ

abbrev SpanEvent := CallEvent SpanHead SpanResult SyscallLeaf

def Frame.head (f : Frame) : SpanHead := ⟨f.func, f.args, f.startedTs⟩

/-- The indentation that reaches the tracer, whose records hold a `u32`. -/
def shownDepth (depth : ℕ) : ℕ := min depth (2 ^ 32 - 1)

/-- How a thread's spans and syscalls are written. -/
def spanPrinter (cfg : Config) (tid : Pid) : Printer SpanHead SpanResult SyscallLeaf String where
  opening depth h := prependLeftMeta cfg (formatOpenLine depth h.func h.args) tid h.startedTs
  closing depth h r := prependLeftMeta cfg (formatCloseLine depth r.ret r.elapsed) tid h.startedTs
  leaf depth x := prependLeftMeta cfg (indent (shownDepth depth) ++ x.body) tid x.startedTs

/-! ### Threads -/

def Effect.text? : Effect → Option String
  | .line text => some text
  | .depth _ | .window _ => none

def Effect.depthMsg : Effect → Option DepthUpdate
  | .depth msg => some msg
  | .line _ | .window _ => none

/-- The lines a thread has still to write. -/
def Thread.textOut (t : Thread) : List String := t.effects.filterMap Effect.text?

/-- The depth records a thread has still to send. -/
def Thread.depthOut (t : Thread) : List DepthUpdate := t.effects.filterMap Effect.depthMsg

/-- Frames opened eagerly, each at its place. -/
def Eager : List Frame → Prop
  | [] => True
  | f :: rest => f.depth = rest.length ∧ f.enterPrinted = true ∧ Eager rest

/-- The image traces syscalls and has the write end of the depth pipe. -/
structure DepthPipe (image : Image) : Prop where
  application : image.inTracerProcess = false
  syscall : image.config.trace.syscall = true
  opened : 0 ≤ image.depthPipeWrFd.toInt

/-- No span was opened or closed between `t` and `u`. -/
structure SameSpans (gettid : Pid) (t u : Thread) : Prop where
  stack : u.stack = t.stack
  texts : u.textOut = t.textOut
  depths : u.depthOut = t.depthOut
  tid : t.KnowsTid gettid → u.KnowsTid gettid

/-- A span was opened or closed: the thread has one more record and one more line. -/
structure MovesSpan (gettid : Pid) (depth : ℕ) (text : String) (t u : Thread) : Prop where
  texts : u.textOut = t.textOut ++ [text]
  depths : u.depthOut = t.depthOut ++ [⟨gettid, clampU32 depth⟩]
  tid : u.KnowsTid gettid

namespace SameSpans

variable {gettid : Pid} {t u v : Thread}

theorem refl (t : Thread) : SameSpans gettid t t := ⟨rfl, rfl, rfl, id⟩

theorem trans (h : SameSpans gettid t u) (h' : SameSpans gettid u v) : SameSpans gettid t v :=
  ⟨h'.stack.trans h.stack, h'.texts.trans h.texts, h'.depths.trans h.depths, h'.tid ∘ h.tid⟩

theorem currentTid (t : Thread) : SameSpans gettid t (t.currentTid gettid).2 := by
  unfold Thread.currentTid
  split
  · exact refl t
  · dsimp only
    split
    · exact ⟨rfl, rfl, rfl, fun _ => Or.inr rfl⟩
    · exact refl t

theorem publishFgraphWindowUpdate (image : Image) (msg : FgraphWindowUpdate) (t : Thread) :
    SameSpans gettid t (publishFgraphWindowUpdate image msg t) := by
  unfold Hook.publishFgraphWindowUpdate
  split
  · exact refl t
  · split
    · exact refl t
    · refine ⟨rfl, ?_, ?_, id⟩
      · simp [Thread.textOut, Thread.perform, Effect.text?]
      · simp [Thread.depthOut, Thread.perform, Effect.depthMsg]

theorem enterWindow (image : Image) (func : String) (seqs : WindowSeq) (t : Thread) :
    SameSpans gettid t (enterFgraphWindowIfMatched image gettid func seqs t).2.2 := by
  unfold enterFgraphWindowIfMatched
  split
  · exact refl t
  · have hdepth : SameSpans gettid t
        { t with fgraphWindowDepth := saturatingAddOne t.fgraphWindowDepth } :=
      ⟨rfl, rfl, rfl, id⟩
    exact (hdepth.trans (currentTid _)).trans (publishFgraphWindowUpdate image _ _)

theorem exitWindow (image : Image) (matched : Bool) (t : Thread) :
    SameSpans gettid t (exitFgraphWindowIfNeeded image gettid matched t) := by
  unfold exitFgraphWindowIfNeeded
  split
  · exact refl t
  · have hdepth : SameSpans gettid t
        { t with fgraphWindowDepth := saturatingSubOne t.fgraphWindowDepth } :=
      ⟨rfl, rfl, rfl, id⟩
    exact (hdepth.trans (currentTid _)).trans (publishFgraphWindowUpdate image _ _)

theorem bypass (t : Thread) : SameSpans gettid t t.bypass := ⟨rfl, rfl, rfl, id⟩

theorem unbypass (t : Thread) : SameSpans gettid t t.unbypass := ⟨rfl, rfl, rfl, id⟩

end SameSpans

theorem markParent_eager {stack : List Frame} (h : Eager stack) :
    Eager (markParent stack).1 ∧ (markParent stack).1.map Frame.head = stack.map Frame.head ∧
      (markParent stack).2 = none := by
  cases stack with
  | nil => exact ⟨trivial, rfl, rfl⟩
  | cons parent rest =>
    obtain ⟨hdepth, hprinted, hrest⟩ := h
    by_cases hc : parent.hasChild
    · have hm : markParent (parent :: rest) = (parent :: rest, none) := if_pos hc
      rw [hm]
      exact ⟨⟨hdepth, hprinted, hrest⟩, rfl, rfl⟩
    · have hm : markParent (parent :: rest) =
          ({ parent with hasChild := true, enterPrinted := true } :: rest, none) := by
        rw [markParent, if_neg hc, if_pos hprinted]
      rw [hm]
      exact ⟨⟨hdepth, rfl, hrest⟩, rfl, rfl⟩

section

variable {image : Image} {gettid : Pid} {t : Thread}

/-- Publishing a depth and then reading the id again, as every opening and closing does. -/
theorem publishes_depth (hpipe : DepthPipe image) (hk : t.KnowsTid gettid) (depth : ℕ) :
    ∃ u, (publishGraphDepth image gettid depth t).currentTid gettid = (gettid, u) ∧
      u.stack = t.stack ∧ u.textOut = t.textOut ∧
      u.depthOut = t.depthOut ++ [⟨gettid, clampU32 depth⟩] ∧ u.KnowsTid gettid := by
  have hfd : ¬ image.depthPipeWrFd.toInt < 0 := not_lt.mpr hpipe.opened
  have hpub : publishGraphDepth image gettid depth t =
      (t.currentTid gettid).2.perform (.depth ⟨gettid, clampU32 depth⟩) := by
    have htid := hk.currentTid
    unfold publishGraphDepth
    rw [hpipe.application, hpipe.syscall, if_neg (by decide), if_neg hfd]
    generalize t.currentTid gettid = p at htid
    obtain ⟨tid, u⟩ := p
    cases htid
    rfl
  have hsame := @SameSpans.currentTid gettid t
  have hk' : (publishGraphDepth image gettid depth t).KnowsTid gettid := by
    rw [hpub]
    exact hsame.tid hk
  have hagain := @SameSpans.currentTid gettid (publishGraphDepth image gettid depth t)
  refine ⟨_, Prod.ext hk'.currentTid rfl, ?_, ?_, ?_, hagain.tid hk'⟩
  · rw [hagain.stack, hpub]
    exact hsame.stack
  · rw [hagain.texts, hpub, ← hsame.texts]
    simp [Thread.textOut, Thread.perform, Effect.text?]
  · rw [hagain.depths, hpub, ← hsame.depths]
    simp [Thread.depthOut, Thread.perform, Effect.depthMsg]

theorem textOut_line (t : Thread) (text : String) :
    (t.perform (.line text)).textOut = t.textOut ++ [text] := by
  simp [Thread.textOut, Thread.perform, Effect.text?]

theorem depthOut_line (t : Thread) (text : String) :
    (t.perform (.line text)).depthOut = t.depthOut := by
  simp [Thread.depthOut, Thread.perform, Effect.depthMsg]

/-- The head of the span that a call opens. -/
def Clock.head (cfg : Config) (clock : Clock) (func args : String) : SpanHead :=
  ⟨func, args, if cfg.leftMeta.includeTimestamp then clock.nowTimestamp else 0⟩

theorem graphEnter_opens (hpipe : DepthPipe image) (hk : t.KnowsTid gettid) (he : Eager t.stack)
    (clock : Clock) (func args : String) :
    MovesSpan gettid (t.stack.length + 1)
        ((spanPrinter image.config gettid).opening t.stack.length
          (clock.head image.config func args)) t
        (graphEnter image gettid clock func args t) ∧
      Eager (graphEnter image gettid clock func args t).stack ∧
      (graphEnter image gettid clock func args t).stack.map Frame.head =
        clock.head image.config func args :: t.stack.map Frame.head := by
  obtain ⟨heager, hheads, hnone⟩ := markParent_eager he
  have hlen : (markParent t.stack).1.length = t.stack.length := by
    have hmap := congrArg List.length hheads
    rwa [List.length_map, List.length_map] at hmap
  let frame : Frame := ⟨func, args, (markParent t.stack).1.length,
    if image.config.leftMeta.includeTimestamp then clock.nowTimestamp else 0, clock.instantNow,
    false, image.config.trace.syscall⟩
  have hk' : ({ t with stack := frame :: (markParent t.stack).1 } : Thread).KnowsTid gettid := hk
  obtain ⟨u, hu, hstack, htexts, hdepths, hku⟩ :=
    publishes_depth hpipe hk' ((markParent t.stack).1.length + 1)
  have hrun : graphEnter image gettid clock func args t =
      u.perform (openLine image.config gettid frame) := by
    have hu' : (publishGraphDepth image gettid ((markParent t.stack).1.length + 1)
        { t with stack := frame :: (markParent t.stack).1 }).currentTid gettid = (gettid, u) := hu
    unfold graphEnter
    dsimp only
    rw [hnone, hu']
    dsimp only
    rw [if_pos hpipe.syscall]
    rfl
  rw [hrun]
  refine ⟨⟨?_, ?_, hku⟩, ?_, ?_⟩
  · rw [openLine, textOut_line, htexts, ← hlen]
    rfl
  · rw [openLine, depthOut_line, hdepths, hlen]
    rfl
  · change Eager u.stack
    rw [hstack]
    exact ⟨rfl, hpipe.syscall, heager⟩
  · change u.stack.map Frame.head = _
    rw [hstack, List.map_cons, hheads]
    rfl

theorem graphExit_closes (hpipe : DepthPipe image) (hk : t.KnowsTid gettid) {frame : Frame}
    {rest : List Frame} (hs : t.stack = frame :: rest) (he : Eager t.stack) (clock : Clock)
    (ret : String) :
    MovesSpan gettid rest.length
        ((spanPrinter image.config gettid).closing rest.length frame.head
          ⟨ret, durationForConfig image.config (clock.instantNow - frame.startedAt)⟩) t
        (graphExit image gettid clock ret t) ∧
      (graphExit image gettid clock ret t).stack = rest := by
  rw [hs] at he
  obtain ⟨hdepth, hprinted, -⟩ := he
  have hk' : ({ t with stack := rest } : Thread).KnowsTid gettid := hk
  obtain ⟨u, hu, hstack, htexts, hdepths, hku⟩ := publishes_depth hpipe hk' rest.length
  have hrun : graphExit image gettid clock ret t =
      u.perform (closeLine image.config gettid frame ret
        (durationForConfig image.config (clock.instantNow - frame.startedAt))) := by
    unfold graphExit
    rw [hs]
    dsimp only
    rw [hu, hpipe.syscall, hprinted]
    rfl
  rw [hrun]
  refine ⟨⟨?_, ?_, hku⟩, hstack⟩
  · rw [closeLine, textOut_line, htexts, hdepth]
    rfl
  · rw [closeLine, depthOut_line, hdepths]
    rfl

/-- Entering a scope opens a span or leaves the graph as it is. -/
theorem enterLazy_spans (hpipe : DepthPipe image) (hk : t.KnowsTid gettid) (he : Eager t.stack)
    {clock : Clock} {domain : TraceDomain} {func args : String} {seqs seqs' : WindowSeq}
    {scope : TraceScope} {u : Thread}
    (h : TraceScope.enterLazy image gettid clock domain func args seqs t = (scope, seqs', u)) :
    (scope.span = none ∧ SameSpans gettid t u) ∨
    (scope.span = some ⟨⟩ ∧ image.config.traceEnabled domain = true ∧
      MovesSpan gettid (t.stack.length + 1)
        ((spanPrinter image.config gettid).opening t.stack.length
          (clock.head image.config func args)) t u ∧
      Eager u.stack ∧
      u.stack.map Frame.head = clock.head image.config func args :: t.stack.map Frame.head) := by
  unfold TraceScope.enterLazy at h
  rw [hpipe.application] at h
  obtain ⟨⟨matched, seqs₁, t₁⟩, hinner⟩ : ∃ r, (if t.hooksBlocked then (false, seqs, t)
      else enterFgraphWindowIfMatched image gettid func seqs t) = r := ⟨_, rfl⟩
  have hsame : SameSpans gettid t t₁ := by
    split at hinner
    · cases hinner
      exact SameSpans.refl t
    · have hwindow := @SameSpans.enterWindow gettid image func seqs t
      rw [hinner] at hwindow
      exact hwindow
  dsimp only at h
  rw [if_neg Bool.false_ne_true, hinner] at h
  dsimp only at h
  split at h
  · cases h
    exact Or.inl ⟨rfl, hsame⟩
  · rename_i hon
    have htrace : image.config.traceEnabled domain = true := by
      by_contra hoff
      exact hon (by simp [hoff])
    cases h
    have hsame' := hsame.trans (SameSpans.bypass t₁)
    have hopen := graphEnter_opens (t := t₁.bypass) hpipe (hsame'.tid hk)
      (hsame'.stack ▸ he) clock func args
    obtain ⟨hmove, heager, hheads⟩ := hopen
    have hlen : t₁.bypass.stack.length = t.stack.length := by rw [hsame'.stack]
    rw [hlen] at hmove
    rw [hsame'.stack] at hheads
    refine Or.inr ⟨rfl, htrace, ⟨?_, ?_, hmove.tid⟩, heager, hheads⟩
    · exact hmove.texts.trans (by rw [hsame'.texts])
    · exact hmove.depths.trans (by rw [hsame'.depths])

/-- Finishing a scope closes the innermost span, if the scope has opened one. -/
theorem finish_spans (hpipe : DepthPipe image) (hk : t.KnowsTid gettid) (he : Eager t.stack)
    (scope : TraceScope) (clock : Clock) (ret : String) :
    (∀ frame rest, t.stack = frame :: rest → scope.span = some ⟨⟩ →
      MovesSpan gettid rest.length
        ((spanPrinter image.config gettid).closing rest.length frame.head
          ⟨ret, durationForConfig image.config (clock.instantNow - frame.startedAt)⟩) t
        (scope.finish image gettid clock ret t) ∧
      (scope.finish image gettid clock ret t).stack = rest) ∧
    ((scope.span = none ∨ t.stack = []) →
      SameSpans gettid t (scope.finish image gettid clock ret t)) := by
  have hwindow := @SameSpans.exitWindow gettid image scope.fgraphWindowMatched t
  have hbypass := hwindow.trans (SameSpans.bypass _)
  constructor
  · intro frame rest hs hspan
    have hclose := graphExit_closes hpipe (hbypass.tid hk) (hbypass.stack.trans hs)
      (hbypass.stack ▸ he) clock ret
    obtain ⟨hmove, hstack⟩ := hclose
    unfold TraceScope.finish
    rw [hspan]
    exact ⟨⟨hmove.texts.trans (by rw [hbypass.texts]), hmove.depths.trans (by rw [hbypass.depths]),
      hmove.tid⟩, hstack⟩
  · intro hno
    unfold TraceScope.finish
    cases hspan : scope.span with
    | none => exact hwindow
    | some token =>
      have hs : t.stack = [] := by
        rcases hno with hno | hno
        · rw [hspan] at hno
          cases hno
        · exact hno
      have hempty := hbypass.stack.trans hs
      have hrun : graphExit image gettid clock ret
          (exitFgraphWindowIfNeeded image gettid scope.fgraphWindowMatched t).bypass =
          (exitFgraphWindowIfNeeded image gettid scope.fgraphWindowMatched t).bypass := by
        unfold graphExit
        rw [hempty]
      dsimp only
      rw [hrun]
      exact hbypass.trans (SameSpans.unbypass _)

end

end CudaTrace.Hook
