import CudaTrace.Base.LazyForest
import CudaTrace.Base.Transition
import CudaTrace.Hook.Spans

/-!
# The printed call graph (graph.rs, hook/mod.rs)

One thread enters and finishes calls of any domain, some of them behind the re-entry guard.
The calls that are traced form a forest, which is printed while it grows: eagerly when
syscalls are traced, lazily otherwise.
-/

namespace CudaTrace.Hook
open CudaTrace.Base CudaTrace.Boot CudaTrace.Ptrace

/-! ### Calls and their lines -/

/-- A call at its entry; `startedAt` is the `Instant`. -/
structure CallHead where
  func : String
  args : String
  startedTs : ℕ
  startedAt : ℕ

/-- The end of a call, at the `Instant` `finishedAt`. -/
structure CallReturn where
  ret : String
  finishedAt : ℕ

abbrev CallForest := OpenForest CallHead CallReturn Empty

def Frame.call (f : Frame) : CallHead := ⟨f.func, f.args, f.startedTs, f.startedAt⟩

def Clock.call (cfg : Config) (clock : Clock) (func args : String) : CallHead :=
  ⟨func, args, if cfg.leftMeta.includeTimestamp then clock.nowTimestamp else 0, clock.instantNow⟩

def callElapsed (cfg : Config) (h : CallHead) (r : CallReturn) : ℕ × String :=
  durationForConfig cfg (r.finishedAt - h.startedAt)

/-- How a thread's calls are written. -/
def callPrinter (cfg : Config) (tid : Pid) : LazyPrinter CallHead CallReturn String where
  eager := cfg.trace.syscall
  opening depth h := prependLeftMeta cfg (formatOpenLine depth h.func h.args) tid h.startedTs
  closing depth h r :=
    prependLeftMeta cfg (formatCloseLine depth r.ret (callElapsed cfg h r)) tid h.startedTs
  single depth h r :=
    prependLeftMeta cfg (formatLeafLine depth h.func h.args r.ret (callElapsed cfg h r)) tid
      h.startedTs

/-! ### Frames and open calls -/

/-- The frames are those of the open calls; `hasChild` is the innermost one's. -/
def Stands (cfg : Config) :
    List Frame → List (Calls CallHead CallReturn × CallHead) → Bool → Prop
  | [], [], _ => True
  | f :: frames, (_, h) :: outer, hasChild =>
    f.call = h ∧ f.depth = outer.length ∧ f.hasChild = hasChild ∧
      f.enterPrinted = (cfg.trace.syscall || hasChild) ∧ Stands cfg frames outer true
  | [], _ :: _, _ | _ :: _, [], _ => False

namespace Stands
variable {cfg : Config} {frames : List Frame} {hasChild : Bool}
  {opens : List (Calls CallHead CallReturn × CallHead)}

theorem length (h : Stands cfg frames opens hasChild) : frames.length = opens.length := by
  induction frames generalizing opens hasChild with
  | nil =>
    cases opens with
    | nil => rfl
    | cons o outer => exact h.elim
  | cons f frames ih =>
    cases opens with
    | nil => exact h.elim
    | cons o outer => rw [List.length_cons, List.length_cons, ih h.2.2.2.2]

/-- The first child of a call that has not been opened yet opens it. -/
theorem markParent (h : Stands cfg frames opens hasChild) (tid : Pid) :
    Stands cfg (markParent frames).1 opens true ∧
      ∀ t : Thread, (logOpenLine cfg tid (Hook.markParent frames).2 t).textOut =
        t.textOut ++ (callPrinter cfg tid).parentLine opens hasChild := by
  cases frames with
  | nil =>
    cases opens with
    | nil => exact ⟨trivial, fun t => (List.append_nil _).symm⟩
    | cons o outer => exact h.elim
  | cons f frames =>
    cases opens with
    | nil => exact h.elim
    | cons o outer =>
      obtain ⟨before, head⟩ := o
      obtain ⟨hcall, hdepth, hchild, hprinted, hrest⟩ := h
      cases hasChild with
      | true =>
        have hm : Hook.markParent (f :: frames) = (f :: frames, none) := if_pos hchild
        rw [hm]
        refine ⟨⟨hcall, hdepth, hchild, hprinted, hrest⟩, fun t => ?_⟩
        rw [LazyPrinter.parentLine, if_pos (Bool.or_true _), List.append_nil]
        rfl
      | false =>
        rw [Bool.or_false] at hprinted
        have hm : Hook.markParent (f :: frames) =
            ({ f with hasChild := true, enterPrinted := true } :: frames,
              if f.enterPrinted then none else some f) := if_neg (by rw [hchild]; decide)
        rw [hm]
        refine ⟨⟨hcall, hdepth, rfl, (Bool.or_true _).symm, hrest⟩, fun t => ?_⟩
        have heager : (callPrinter cfg tid).eager = cfg.trace.syscall := rfl
        rw [LazyPrinter.parentLine, heager, hprinted]
        cases cfg.trace.syscall with
        | true => exact (List.append_nil _).symm
        | false =>
          show (t.perform (openLine cfg tid f)).textOut =
            t.textOut ++ [(callPrinter cfg tid).opening outer.length head]
          rw [openLine, textOut_line, hdepth, ← hcall]
          rfl

end Stands

/-! ### Opening and closing a call -/

/-- The image sends depth records. -/
def publishesDepth (image : Image) : Bool :=
  !image.inTracerProcess && image.config.trace.syscall && decide (0 ≤ image.depthPipeWrFd.toInt)

/-- What the thread has sent of its depth after reaching `depth`. -/
def depthRecord (image : Image) (tid : Pid) (depth : ℕ) : List DepthUpdate :=
  if publishesDepth image then [⟨tid, clampU32 depth⟩] else []

section

variable {image : Image} {gettid : Pid} {t : Thread}

theorem publishGraphDepth_eq (hk : t.KnowsTid gettid) (depth : ℕ) :
    ∃ u, (publishGraphDepth image gettid depth t).currentTid gettid = (gettid, u) ∧
      u.stack = t.stack ∧ u.textOut = t.textOut ∧
      u.depthOut = t.depthOut ++ depthRecord image gettid depth ∧ u.KnowsTid gettid := by
  cases hp : publishesDepth image with
  | true =>
    have hpipe : DepthPipe image := by
      simp only [publishesDepth, Bool.and_eq_true, Bool.not_eq_true', decide_eq_true_eq] at hp
      exact ⟨hp.1.1, hp.1.2, hp.2⟩
    obtain ⟨u, hu, hstack, htexts, hdepths, htid⟩ := publishes_depth hpipe hk depth
    exact ⟨u, hu, hstack, htexts, by rw [hdepths, depthRecord, if_pos hp], htid⟩
  | false =>
    have hpub : publishGraphDepth image gettid depth t = t := by
      unfold publishGraphDepth
      split
      · rfl
      · rename_i hon
        split
        · rfl
        · rename_i hfd
          have hall : publishesDepth image = true := by
            simp only [Bool.or_eq_true, Bool.not_eq_true', not_or, Bool.not_eq_true,
              Bool.not_eq_false] at hon
            simp [publishesDepth, hon, not_lt.mp hfd]
          rw [hp] at hall
          cases hall
    have hsame := @SameSpans.currentTid gettid t
    rw [hpub]
    exact ⟨_, Prod.ext hk.currentTid rfl, hsame.stack, hsame.texts,
      by rw [hsame.depths, depthRecord, hp]; exact (List.append_nil _).symm, hsame.tid hk⟩

/-- An opening line changes nothing but the lines. -/
theorem logOpenLine_else (cfg : Config) (tid : Pid) (toOpen : Option Frame) (t : Thread) :
    (logOpenLine cfg tid toOpen t).stack = t.stack ∧
      (logOpenLine cfg tid toOpen t).depthOut = t.depthOut ∧
      (logOpenLine cfg tid toOpen t).cachedTid = t.cachedTid := by
  cases toOpen with
  | none => exact ⟨rfl, rfl, rfl⟩
  | some frame => exact ⟨rfl, depthOut_line t _, rfl⟩

/-- What a call of the graph functions does to the lines, the records and the frames. -/
structure Emits (image : Image) (gettid : Pid) (texts : List String) (depth : ℕ)
    (opens : List (Calls CallHead CallReturn × CallHead)) (hasChild : Bool) (t u : Thread) :
    Prop where
  texts : u.textOut = t.textOut ++ texts
  depths : u.depthOut = t.depthOut ++ depthRecord image gettid depth
  stands : Stands image.config u.stack opens hasChild
  tid : u.KnowsTid gettid

theorem graphEnter_emits (hk : t.KnowsTid gettid) {f : CallForest} {hasChild : Bool}
    (hs : Stands image.config t.stack f.opens hasChild) (clock : Clock) (func args : String) :
    Emits image gettid
      ((callPrinter image.config gettid).parentLine f.opens hasChild ++
        if image.config.trace.syscall then
          [(callPrinter image.config gettid).opening f.depth (clock.call image.config func args)]
        else [])
      (f.depth + 1) ((f.done, clock.call image.config func args) :: f.opens) false t
      (graphEnter image gettid clock func args t) := by
  obtain ⟨hmarked, hparent⟩ := hs.markParent gettid
  have hlen : (markParent t.stack).1.length = f.depth := hmarked.length
  let frame : Frame := ⟨func, args, (markParent t.stack).1.length,
    if image.config.leftMeta.includeTimestamp then clock.nowTimestamp else 0, clock.instantNow,
    false, image.config.trace.syscall⟩
  have hk' : ({ t with stack := frame :: (markParent t.stack).1 } : Thread).KnowsTid gettid := hk
  obtain ⟨u, hu, hstack, htexts, hdepths, hku⟩ :=
    @publishGraphDepth_eq image _ _ hk' ((markParent t.stack).1.length + 1)
  have hrun : graphEnter image gettid clock func args t =
      logOpenLine image.config gettid (if image.config.trace.syscall then some frame else none)
        (logOpenLine image.config gettid (markParent t.stack).2 u) := by
    have hu' : (publishGraphDepth image gettid ((markParent t.stack).1.length + 1)
        { t with stack := frame :: (markParent t.stack).1 }).currentTid gettid = (gettid, u) := hu
    unfold graphEnter
    dsimp only
    rw [hu']
  obtain ⟨hstack1, hdepths1, htid1⟩ :=
    logOpenLine_else image.config gettid (markParent t.stack).2 u
  obtain ⟨hstack2, hdepths2, htid2⟩ := logOpenLine_else image.config gettid
    (if image.config.trace.syscall then some frame else none)
    (logOpenLine image.config gettid (markParent t.stack).2 u)
  rw [hrun]
  refine ⟨?_, ?_, ?_, ?_⟩
  · have hself : ∀ v : Thread, (logOpenLine image.config gettid
        (if image.config.trace.syscall then some frame else none) v).textOut = v.textOut ++
          if image.config.trace.syscall then
            [(callPrinter image.config gettid).opening f.depth (clock.call image.config func args)]
          else [] := by
      intro v
      cases image.config.trace.syscall with
      | true =>
        show (v.perform (openLine image.config gettid frame)).textOut = v.textOut ++ _
        rw [openLine, textOut_line, ← hlen]
        rfl
      | false => exact (List.append_nil _).symm
    rw [hself, hparent, htexts, List.append_assoc]
    rfl
  · rw [hdepths2, hdepths1, hdepths, hlen]
    rfl
  · rw [hstack2, hstack1, hstack]
    exact ⟨rfl, hlen, rfl, (Bool.or_false _).symm, hmarked⟩
  · unfold Thread.KnowsTid
    rw [htid2, htid1]
    exact hku

theorem graphExit_emits (hk : t.KnowsTid gettid) {before : Calls CallHead CallReturn}
    {head : CallHead} {outer : List (Calls CallHead CallReturn × CallHead)} {hasChild : Bool}
    (hs : Stands image.config t.stack ((before, head) :: outer) hasChild) (clock : Clock)
    (ret : String) :
    Emits image gettid
      (if image.config.trace.syscall || hasChild then
        [(callPrinter image.config gettid).closing outer.length head ⟨ret, clock.instantNow⟩]
      else [(callPrinter image.config gettid).single outer.length head ⟨ret, clock.instantNow⟩])
      outer.length outer true t (graphExit image gettid clock ret t) := by
  cases hstack : t.stack with
  | nil =>
    rw [hstack] at hs
    exact hs.elim
  | cons frame frames =>
    rw [hstack] at hs
    obtain ⟨hcall, hdepth, hchild, hprinted, hrest⟩ := hs
    have hk' : ({ t with stack := frames } : Thread).KnowsTid gettid := hk
    obtain ⟨u, hu, hframes, htexts, hdepths, hku⟩ := @publishGraphDepth_eq image _ _ hk' frames.length
    have hline : graphExit image gettid clock ret t = u.perform
        (if image.config.trace.syscall || hasChild then
          closeLine image.config gettid frame ret
            (durationForConfig image.config (clock.instantNow - frame.startedAt))
        else leafLine image.config gettid frame ret
          (durationForConfig image.config (clock.instantNow - frame.startedAt))) := by
      unfold graphExit
      rw [hstack]
      dsimp only
      rw [hu, hchild, hprinted]
      cases image.config.trace.syscall || hasChild <;> rfl
    rw [hline]
    have hlen := hrest.length
    refine ⟨?_, ?_, ?_, hku⟩
    · cases image.config.trace.syscall || hasChild with
      | true =>
        show (u.perform (closeLine _ _ _ _ _)).textOut = _
        rw [closeLine, textOut_line, htexts, hdepth, ← hcall]
        rfl
      | false =>
        show (u.perform (leafLine _ _ _ _ _)).textOut = _
        rw [leafLine, textOut_line, htexts, hdepth, ← hcall]
        rfl
    · rw [← hlen]
      cases image.config.trace.syscall || hasChild with
      | true => exact (depthOut_line u _).trans hdepths
      | false => exact (depthOut_line u _).trans hdepths
    · change Stands image.config u.stack outer true
      rw [hframes]
      exact hrest

/-- The records of the window come before everything that `Emits` speaks of. -/
theorem Emits.after {texts : List String} {depth : ℕ}
    {opens : List (Calls CallHead CallReturn × CallHead)} {hasChild : Bool} {u v : Thread}
    (hsame : SameSpans gettid t u) (h : Emits image gettid texts depth opens hasChild u v) :
    Emits image gettid texts depth opens hasChild t v :=
  ⟨by rw [h.texts, hsame.texts], by rw [h.depths, hsame.depths], h.stands, h.tid⟩

/-- The call is traced: its domain is, and no guard is up. -/
def Thread.traces (image : Image) (t : Thread) (domain : TraceDomain) : Bool :=
  image.config.traceEnabled domain && !t.hooksBlocked

theorem enterLazy_emits (hin : image.inTracerProcess = false) (hk : t.KnowsTid gettid)
    {f : CallForest} {hasChild : Bool} (hs : Stands image.config t.stack f.opens hasChild)
    {clock : Clock} {domain : TraceDomain} {func args : String} {seqs seqs' : WindowSeq}
    {scope : TraceScope} {u : Thread}
    (h : TraceScope.enterLazy image gettid clock domain func args seqs t = (scope, seqs', u)) :
    (t.traces image domain = false ∧ scope.span = none ∧ SameSpans gettid t u) ∨
    (t.traces image domain = true ∧ scope.span = some ⟨⟩ ∧ Emits image gettid
      ((callPrinter image.config gettid).parentLine f.opens hasChild ++
        if image.config.trace.syscall then
          [(callPrinter image.config gettid).opening f.depth (clock.call image.config func args)]
        else [])
      (f.depth + 1) ((f.done, clock.call image.config func args) :: f.opens) false t u) := by
  unfold TraceScope.enterLazy at h
  obtain ⟨⟨matched, seqs₁, t₁⟩, hinner⟩ : ∃ r, (if t.hooksBlocked then (false, seqs, t)
      else enterFgraphWindowIfMatched image gettid func seqs t) = r := ⟨_, rfl⟩
  have hsame : SameSpans gettid t t₁ := by
    cases hb : t.hooksBlocked with
    | true =>
      rw [hb, if_pos rfl] at hinner
      cases hinner
      exact SameSpans.refl t
    | false =>
      rw [hb, if_neg Bool.false_ne_true] at hinner
      have hwindow := @SameSpans.enterWindow gettid image func seqs t
      rw [hinner] at hwindow
      exact hwindow
  rw [hin, if_neg Bool.false_ne_true] at h
  dsimp only at h
  rw [hinner] at h
  dsimp only at h
  cases htraces : t.traces image domain with
  | false =>
    have hoff : (!image.config.traceEnabled domain || t.hooksBlocked) = true := by
      rw [Thread.traces] at htraces
      cases hd : image.config.traceEnabled domain with
      | true =>
        rw [hd] at htraces
        simpa using htraces
      | false => rfl
    rw [if_pos hoff] at h
    cases h
    exact .inl ⟨rfl, rfl, hsame⟩
  | true =>
    have hon : (!image.config.traceEnabled domain || t.hooksBlocked) = false := by
      simpa [Thread.traces] using htraces
    rw [hon, if_neg Bool.false_ne_true] at h
    cases h
    have hsame' := hsame.trans (SameSpans.bypass t₁)
    have hemits := graphEnter_emits (hsame'.tid hk) (hsame'.stack ▸ hs) clock func args
    exact .inr ⟨rfl, rfl, .after hsame' ⟨hemits.texts, hemits.depths, hemits.stands, hemits.tid⟩⟩

theorem finish_emits (hk : t.KnowsTid gettid) {scope : TraceScope}
    (hspan : scope.span = some ⟨⟩) {before : Calls CallHead CallReturn} {head : CallHead}
    {outer : List (Calls CallHead CallReturn × CallHead)} {hasChild : Bool}
    (hs : Stands image.config t.stack ((before, head) :: outer) hasChild) (clock : Clock)
    (ret : String) :
    Emits image gettid
      (if image.config.trace.syscall || hasChild then
        [(callPrinter image.config gettid).closing outer.length head ⟨ret, clock.instantNow⟩]
      else [(callPrinter image.config gettid).single outer.length head ⟨ret, clock.instantNow⟩])
      outer.length outer true t (scope.finish image gettid clock ret t) := by
  have hwindow := @SameSpans.exitWindow gettid image scope.fgraphWindowMatched t
  have hsame := hwindow.trans (SameSpans.bypass _)
  have hemits := graphExit_emits (hsame.tid hk) (hsame.stack ▸ hs) clock ret
  unfold TraceScope.finish
  rw [hspan]
  exact .after hsame ⟨hemits.texts, hemits.depths, hemits.stands, hemits.tid⟩

theorem finish_same {scope : TraceScope} (hspan : scope.span = none) (clock : Clock)
    (ret : String) : SameSpans gettid t (scope.finish image gettid clock ret t) := by
  unfold TraceScope.finish
  rw [hspan]
  exact SameSpans.exitWindow image scope.fgraphWindowMatched t

end

/-! ### A thread that calls -/

/-- A scope in use, and whether the call was traced at its entry. -/
structure CallScope where
  scope : TraceScope
  traced : Bool

/-- A thread with all its effects so far, its scopes, innermost first, and its traced calls. -/
structure Caller where
  thread : Thread
  scopes : List CallScope
  forest : CallForest

def Caller.initial : Caller := ⟨.new, [], .empty⟩

/-- An entry finds the sequence numbers as other threads have left them. -/
inductive CallLabel where
  | enter (seqs : WindowSeq) (clock : Clock) (domain : TraceDomain) (func args : String)
  | finish (clock : Clock) (ret : String)
  | bypass
  | unbypass

namespace Caller

def enter (image : Image) (t : Pid) (s : Caller) (seqs : WindowSeq) (clock : Clock)
    (domain : TraceDomain) (func args : String) : Caller :=
  let (scope, _, thread) := TraceScope.enterLazy image t clock domain func args seqs s.thread
  let traced := s.thread.traces image domain
  { thread := thread
    scopes := ⟨scope, traced⟩ :: s.scopes
    forest := if traced then s.forest.grow (.opened (clock.call image.config func args))
      else s.forest }

def finish (image : Image) (t : Pid) (s : Caller) (o : CallScope) (rest : List CallScope)
    (clock : Clock) (ret : String) : Caller where
  thread := o.scope.finish image t clock ret s.thread
  scopes := rest
  forest := if o.traced then s.forest.grow (.closed ⟨ret, clock.instantNow⟩) else s.forest

def step (image : Image) (t : Pid) (s : Caller) : CallLabel → Option Caller
  | .enter seqs clock domain func args => some (s.enter image t seqs clock domain func args)
  | .finish clock ret =>
    match s.scopes with
    | [] => none
    | o :: rest => some (s.finish image t o rest clock ret)
  | .bypass => some { s with thread := s.thread.bypass }
  | .unbypass => some { s with thread := s.thread.unbypass }

/-- The traced calls that are open. -/
def openCalls (s : Caller) : ℕ := s.scopes.countP CallScope.traced

end Caller

def caller (image : Image) (t : Pid) : System Caller CallLabel :=
  System.ofPartial (· = Caller.initial) (Caller.step image t)

structure CallInv (image : Image) (t : Pid) (s : Caller) : Prop where
  tid : s.thread.KnowsTid t
  spans : ∀ o ∈ s.scopes, o.scope.span = if o.traced then some ⟨⟩ else none
  opens : s.forest.depth = s.openCalls
  stands : Stands image.config s.thread.stack s.forest.opens (!s.forest.done.isEmpty)
  texts : s.thread.textOut = (callPrinter image.config t).text s.forest
  published : ∀ msg, s.thread.depthOut.getLast? = some msg →
    publishesDepth image = true ∧ msg = ⟨t, clampU32 s.openCalls⟩
  sent : publishesDepth image = true → s.thread.depthOut = [] → s.openCalls = 0

namespace CallInv
variable {image : Image} {t : Pid} {s : Caller}

theorem initial (image : Image) (t : Pid) : CallInv image t .initial where
  tid := .inl rfl
  spans _ ho := absurd ho List.not_mem_nil
  opens := rfl
  stands := trivial
  texts := rfl
  published _ h := nomatch h
  sent _ _ := rfl

/-- A call that is not traced. -/
theorem same (h : CallInv image t s) {thread : Thread} (hsame : SameSpans t s.thread thread)
    {scopes : List CallScope} (hspans : ∀ o ∈ scopes, o.scope.span = if o.traced then some ⟨⟩ else none)
    (hopen : scopes.countP CallScope.traced = s.openCalls) :
    CallInv image t { s with thread := thread, scopes := scopes } where
  tid := hsame.tid h.tid
  spans := hspans
  opens := h.opens.trans hopen.symm
  stands := by
    rw [hsame.stack]
    exact h.stands
  texts := hsame.texts.trans h.texts
  published msg hmsg := by
    rw [hsame.depths] at hmsg
    have hlast := h.published msg hmsg
    rwa [← hopen] at hlast
  sent hp hnone := by
    rw [hsame.depths] at hnone
    exact hopen.trans (h.sent hp hnone)

/-- A traced call that opens or closes. -/
theorem emits (h : CallInv image t s) {thread : Thread} {texts : List String} {depth : ℕ}
    {forest : CallForest}
    (he : Emits image t texts depth forest.opens (!forest.done.isEmpty) s.thread thread)
    {scopes : List CallScope} (hspans : ∀ o ∈ scopes, o.scope.span = if o.traced then some ⟨⟩ else none)
    (hdepth : forest.depth = depth) (hopen : scopes.countP CallScope.traced = depth)
    (htext : (callPrinter image.config t).text forest =
      (callPrinter image.config t).text s.forest ++ texts) :
    CallInv image t { thread := thread, scopes := scopes, forest := forest } where
  tid := he.tid
  spans := hspans
  opens := hdepth.trans hopen.symm
  stands := he.stands
  texts := by rw [he.texts, h.texts, htext]
  published msg hmsg := by
    rw [he.depths, depthRecord] at hmsg
    cases hp : publishesDepth image with
    | true =>
      rw [hp, if_pos rfl, List.getLast?_concat] at hmsg
      obtain rfl := Option.some.inj hmsg
      exact ⟨rfl, by rw [Caller.openCalls, hopen]⟩
    | false =>
      rw [hp, if_neg Bool.false_ne_true, List.append_nil] at hmsg
      have hon := (h.published msg hmsg).1
      rw [hp] at hon
      cases hon
  sent hp hnone := by
    rw [he.depths, depthRecord, if_pos hp] at hnone
    exact absurd hnone (by simp)

theorem enter (hin : image.inTracerProcess = false) (h : CallInv image t s) (seqs : WindowSeq)
    (clock : Clock) (domain : TraceDomain) (func args : String) :
    CallInv image t (s.enter image t seqs clock domain func args) := by
  obtain ⟨⟨scope, seqs', thread⟩, hrun⟩ :
    ∃ r, TraceScope.enterLazy image t clock domain func args seqs s.thread = r := ⟨_, rfl⟩
  have hscopes : ∀ traced, (scope.span = if traced then some ⟨⟩ else none) →
      ∀ o ∈ ⟨scope, traced⟩ :: s.scopes, o.scope.span = if o.traced then some ⟨⟩ else none := by
    intro traced hspan o ho
    rcases List.mem_cons.mp ho with rfl | ho
    · exact hspan
    · exact h.spans o ho
  unfold Caller.enter
  rw [hrun]
  dsimp only
  rcases enterLazy_emits hin h.tid h.stands hrun with ⟨htraced, hspan, hsame⟩ |
    ⟨htraced, hspan, hemits⟩
  · rw [htraced]
    exact h.same hsame (hscopes false hspan) (List.countP_cons_of_neg Bool.false_ne_true)
  · rw [htraced]
    refine h.emits hemits (hscopes true hspan) ?_ ?_ ?_
    · show s.forest.opens.length + 1 = s.forest.opens.length + 1
      rfl
    · rw [List.countP_cons_of_pos rfl]
      exact congrArg (· + 1) h.opens.symm
    · rw [if_pos rfl, LazyPrinter.text_opened, List.append_assoc]
      rfl

theorem finish (h : CallInv image t s) {o : CallScope} {rest : List CallScope}
    (hscopes : s.scopes = o :: rest) (clock : Clock) (ret : String) :
    CallInv image t (s.finish image t o rest clock ret) := by
  have hspans : ∀ o' ∈ rest, o'.scope.span = if o'.traced then some ⟨⟩ else none := by
    intro o' ho'
    exact h.spans o' (by rw [hscopes]; exact List.mem_cons_of_mem _ ho')
  have hspan := h.spans o (by rw [hscopes]; exact List.mem_cons_self)
  have hcount : s.openCalls = (o :: rest).countP CallScope.traced := by
    rw [Caller.openCalls, hscopes]
  unfold Caller.finish
  cases htraced : o.traced with
  | false =>
    rw [htraced] at hspan
    rw [List.countP_cons_of_neg (by rw [htraced]; exact Bool.false_ne_true)] at hcount
    exact h.same (finish_same hspan clock ret) hspans hcount.symm
  | true =>
    rw [htraced] at hspan
    rw [List.countP_cons_of_pos htraced] at hcount
    obtain ⟨before, head, outer, hopens⟩ :
        ∃ before head outer, s.forest.opens = (before, head) :: outer := by
      cases hopens : s.forest.opens with
      | nil =>
        have hdepth := h.opens.trans hcount
        rw [OpenForest.depth, hopens] at hdepth
        cases hdepth
      | cons o' outer => exact ⟨o'.1, o'.2, outer, rfl⟩
    have hstands := h.stands
    rw [hopens] at hstands
    have hemits := finish_emits h.tid hspan hstands clock ret
    have hgrow : s.forest.grow (.closed ⟨ret, clock.instantNow⟩) =
        ⟨outer, before ++ [.span head ⟨ret, clock.instantNow⟩ s.forest.done]⟩ := by
      simp only [OpenForest.grow, hopens]
    have houter : outer.length = rest.countP CallScope.traced := by
      have hdepth := h.opens.trans hcount
      rw [OpenForest.depth, hopens, List.length_cons] at hdepth
      omega
    obtain ⟨texts, htexts⟩ : ∃ texts, texts =
        if image.config.trace.syscall || !s.forest.done.isEmpty then
          [(callPrinter image.config t).closing outer.length head ⟨ret, clock.instantNow⟩]
        else [(callPrinter image.config t).single outer.length head ⟨ret, clock.instantNow⟩] :=
      ⟨_, rfl⟩
    rw [← htexts] at hemits
    have hnext : Emits image t texts outer.length
        (s.forest.grow (.closed ⟨ret, clock.instantNow⟩)).opens
        (!(s.forest.grow (.closed ⟨ret, clock.instantNow⟩)).done.isEmpty) s.thread
        (o.scope.finish image t clock ret s.thread) := by
      rw [hgrow]
      have hdone : (!(before ++ [CallTree.span head ⟨ret, clock.instantNow⟩
          s.forest.done]).isEmpty) = true := by simp
      rw [hdone]
      exact hemits
    refine h.emits hnext hspans ?_ houter.symm ?_
    · rw [hgrow]
      rfl
    · rw [LazyPrinter.text_finished _ hopens, htexts]
      rfl

theorem step (hin : image.inTracerProcess = false) (h : CallInv image t s) {l : CallLabel}
    {s' : Caller} (hs : s.step image t l = some s') : CallInv image t s' := by
  cases l with
  | enter seqs clock domain func args =>
    obtain rfl := Option.some.inj hs
    exact h.enter hin seqs clock domain func args
  | finish clock ret =>
    cases hscopes : s.scopes with
    | nil =>
      simp only [Caller.step, hscopes] at hs
      cases hs
    | cons o rest =>
      simp only [Caller.step, hscopes] at hs
      obtain rfl := Option.some.inj hs
      exact h.finish hscopes clock ret
  | bypass =>
    obtain rfl := Option.some.inj hs
    exact h.same (.bypass _) h.spans rfl
  | unbypass =>
    obtain rfl := Option.some.inj hs
    exact h.same (.unbypass _) h.spans rfl

end CallInv

def plainConfig (trace : TraceMask) : Config where
  output := .file
  path := "./cudatrace.output"
  trace := trace
  ioctlDecode := .full
  maxBlob := 256
  timeUnit := .us
  leftMeta := .off
  fgraphFuncs := []
  fgraphBufferKb := 16384

/-- An application that traces the driver's calls and, if `syscall`, syscalls. -/
def plainImage (syscall : Bool) : Image := ⟨plainConfig ⟨false, true, syscall⟩, false, 6, -1⟩

theorem bypassDepth_currentTid (t : Thread) (gettid : Pid) :
    (t.currentTid gettid).2.bypassDepth = t.bypassDepth := by
  unfold Thread.currentTid
  split
  · rfl
  · dsimp only
    split
    · rfl
    · rfl

theorem bypassDepth_graphEnter (image : Image) (gettid : Pid) (clock : Clock) (func args : String)
    (t : Thread) : (graphEnter image gettid clock func args t).bypassDepth = t.bypassDepth := by
  have hlog : ∀ (toOpen : Option Frame) (tid : Pid) (u : Thread),
      (logOpenLine image.config tid toOpen u).bypassDepth = u.bypassDepth := by
    intro toOpen tid u
    cases toOpen with
    | none => rfl
    | some frame => rfl
  have hpublish : ∀ (depth : ℕ) (u : Thread),
      (publishGraphDepth image gettid depth u).bypassDepth = u.bypassDepth := by
    intro depth u
    unfold publishGraphDepth
    split
    · rfl
    · split
      · rfl
      · exact bypassDepth_currentTid u gettid
  unfold graphEnter
  dsimp only
  rw [hlog, hlog, bypassDepth_currentTid, hpublish]

/-- A thread without a guard goes one call deeper. -/
theorem Caller.deeper {s : Caller} (hreach : (caller (plainImage true) 7).Reachable s)
    (hb : s.thread.bypassDepth = 0) :
    ∃ s', (caller (plainImage true) 7).Reachable s' ∧ s'.thread.bypassDepth = 0 ∧
      s'.openCalls = s.openCalls + 1 := by
  have hblocked : s.thread.hooksBlocked = false := by
    rw [Thread.hooksBlocked, hb]
    rfl
  have htraces : s.thread.traces (plainImage true) .driver = true := by
    rw [Thread.traces, hblocked]
    rfl
  have hrun : TraceScope.enterLazy (plainImage true) 7 ⟨0, 0⟩ .driver "cuInit" "0" (fun _ => none)
      s.thread = (⟨some ⟨⟩, false⟩, fun _ => none,
        (graphEnter (plainImage true) 7 ⟨0, 0⟩ "cuInit" "0" s.thread.bypass).unbypass) := by
    unfold TraceScope.enterLazy
    rw [hblocked]
    rfl
  have hstep : s.step (plainImage true) 7 (.enter (fun _ => none) ⟨0, 0⟩ .driver "cuInit" "0") =
      some (s.enter (plainImage true) 7 (fun _ => none) ⟨0, 0⟩ .driver "cuInit" "0") := rfl
  refine ⟨_, .step hreach trivial hstep, ?_, ?_⟩
  · unfold Caller.enter
    rw [hrun]
    show saturatingSubOne (graphEnter _ 7 _ _ _ s.thread.bypass).bypassDepth = 0
    rw [bypassDepth_graphEnter]
    show saturatingSubOne (saturatingAddOne s.thread.bypassDepth) = 0
    rw [hb]
    decide
  · unfold Caller.enter Caller.openCalls
    rw [hrun, htraces]
    exact List.countP_cons_of_pos rfl

end CudaTrace.Hook
