import CudaTrace.Hook.Spans
import CudaTrace.Ptrace.Backlog
import CudaTrace.Ptrace.Tables

/-!
# One output from two processes

The lines of a thread come from itself, when its spans open and close, and from the
tracer, at the exits of its syscalls. Its own lines and records go out in write calls
that the tracer stops, so the order of the lines is settled by the stops.
-/

namespace CudaTrace.Hook
open CudaTrace.Base CudaTrace.Boot CudaTrace.Ptrace

/-- `indent_ptrace_line`. -/
def indentPtraceLine (cfg : Config) (line : String) (depth : ℕ) : String :=
  if !(cfg.trace.cudart || cfg.trace.driver) || depth = 0 then line else indent depth ++ line

/-- The end of `format_syscall_line`, where `body` is the text of the call. -/
def formatSyscallLine (cfg : Config) (body : String) (l : SyscallLine) : String :=
  prependLeftMeta cfg (indentPtraceLine cfg body l.depth) l.tid l.state.startedTs

/-- Processes that share one image, and their tracer. -/
structure Merged where
  sys : Sys
  seqs : WindowSeq
  threads : Pid → Thread
  scopes : Pid → List TraceScope
  depthPipe : List DepthUpdate

/-- `perform` is a write call of a thread that sends the first of its records or lines. -/
inductive MergedLabel where
  | enter (t : Pid) (clock : Clock) (domain : TraceDomain) (func args : String)
  | finish (t : Pid) (clock : Clock) (ret : String)
  | bypass (t : Pid)
  | unbypass (t : Pid)
  | perform (t : Pid)
  | tracer (l : Label)

/-- What a thread does, a line in its output, and a new thread with an output of its own. -/
inductive Noted where
  | call (t : Pid) (e : SpanEvent)
  | text (t : Pid) (line : String)
  | born (t : Pid)

/-- The text of a call, before indentation and prefix, from the loop and the remote memory. -/
abbrev CallText := LoopState → Env → SyscallLine → String

namespace Merged

/-- The thread is in its own code, with nothing of cudatrace's left to do. -/
def free (s : Merged) (t : Pid) : Bool :=
  (s.threads t).effects.isEmpty && (s.sys.tasks t).any (·.run = .user)

def setThread (s : Merged) (t : Pid) (thread : Thread) : Merged :=
  { s with threads := Function.update s.threads t thread }

def enter (image : Image) (s : Merged) (t : Pid) (clock : Clock) (domain : TraceDomain)
    (func args : String) : Merged × List Noted :=
  let (scope, seqs, thread) :=
    TraceScope.enterLazy image t clock domain func args s.seqs (s.threads t)
  ({ s.setThread t thread with
      seqs := seqs
      scopes := Function.update s.scopes t (scope :: s.scopes t) },
    if scope.span.isSome then [.call t (.opened (clock.head image.config func args))] else [])

/-- The span that finishing a scope closes, with its result. -/
def closing (cfg : Config) (scope : TraceScope) (clock : Clock) (ret : String) (thread : Thread) :
    List SpanEvent :=
  match scope.span, thread.stack with
  | some _, frame :: _ =>
    [.closed ⟨ret, durationForConfig cfg (clock.instantNow - frame.startedAt)⟩]
  | _, _ => []

/-- The lines of a turn. -/
def noteLines (cfg : Config) (text : SyscallLine → String) (lines : List SyscallLine) :
    List Noted :=
  lines.flatMap fun l =>
    [.call l.tid (.leaf ⟨text l, l.state.startedTs⟩), .text l.tid (formatSyscallLine cfg (text l) l)]

def drainedEnv (s : Merged) (env : Env) : Env := { env with depthRecords := s.depthPipe }

/-- The cells of a new thread: those of a forked process are copies. -/
def newThread (s : Merged) (t child : Pid) (thread : Bool) : Merged :=
  { s with
    threads := Function.update s.threads child (if thread then .new else s.threads t)
    scopes := Function.update s.scopes child (if thread then [] else s.scopes t) }

/-- One step with what is to be noted of it. No task executes another program. -/
def stepObs (image : Image) (names : I64 → Option String) (text : CallText) (s : Merged) :
    MergedLabel → Option (Merged × List Noted)
  | .enter t clock domain func args =>
    if s.free t ∧ domain ≠ .syscall then some (s.enter image t clock domain func args) else none
  | .finish t clock ret =>
    match s.scopes t with
    | [] => none
    | scope :: rest =>
      if s.free t then
        some ({ s.setThread t (scope.finish image t clock ret (s.threads t)) with
            scopes := Function.update s.scopes t rest },
          (closing image.config scope clock ret (s.threads t)).map (.call t))
      else none
  | .bypass t => if s.free t then some (s.setThread t (s.threads t).bypass, []) else none
  | .unbypass t => if s.free t then some (s.setThread t (s.threads t).unbypass, []) else none
  | .perform t =>
    match (s.threads t).effects with
    | [] => none
    | e :: rest =>
      if s.sys.tasks.writing t then
        let s := s.setThread t { s.threads t with effects := rest }
        some (match e with
          | .depth msg => ({ s with depthPipe := s.depthPipe ++ [msg] }, [])
          | .window _ => (s, [])
          | .line line => (s, [.text t line]))
      else none
  | .tracer (.move (.exec _)) => none
  | .tracer (.move (.spawn t child how thread)) =>
    if (s.threads t).effects.isEmpty then
      (s.sys.step ⟨image.config, names⟩ (.move (.spawn t child how thread))).map fun sys =>
        ({ s.newThread t child thread with sys := sys }, [.born child])
    else none
  | .tracer (.turn t env) =>
    (s.sys.step ⟨image.config, names⟩ (.turn t (s.drainedEnv env))).map fun sys =>
      ({ s with sys := sys, depthPipe := [] },
        noteLines image.config (text s.sys.loop env) (writtenLines sys.loop.out))
  | .tracer l => (s.sys.step ⟨image.config, names⟩ l).map fun sys => ({ s with sys := sys }, [])

variable (image : Image) (names : I64 → Option String) (text : CallText)

def step (s : Merged) (l : MergedLabel) : Option Merged :=
  (s.stepObs image names text l).map Prod.fst

def noted (s : Merged) (l : MergedLabel) (_ : Merged) : List Noted :=
  ((s.stepObs image names text l).map Prod.snd).getD []

def initial (sys : Sys) : Merged := ⟨sys, fun _ => none, fun _ => .new, fun _ => [], []⟩

end Merged

def merged (image : Image) (names : I64 → Option String) (text : CallText) :
    System Merged MergedLabel :=
  System.ofPartial (fun s => ∃ sys, sysStart sys ∧ s = .initial sys) (Merged.step image names text)

/-! ### Outputs -/

/-- What a thread has done since it exists, and the lines in its output. -/
structure History where
  calls : List SpanEvent
  texts : List String

def History.empty : History := ⟨[], []⟩

def note (h : Pid → History) : Noted → Pid → History
  | .call t e => Function.update h t { h t with calls := (h t).calls ++ [e] }
  | .text t line => Function.update h t { h t with texts := (h t).texts ++ [line] }
  | .born t => Function.update h t .empty

def histories (w : List Noted) : Pid → History := w.foldl note fun _ => .empty

/-- The call forest of a thread, in which some calls may be open. -/
def History.forest (h : History) : OpenForest SpanHead SpanResult SyscallLeaf := .ofEvents h.calls

/-- The thread has made no traced call yet. -/
structure Thread.Unseen (thread : Thread) : Prop where
  tid : thread.cachedTid = 0
  stack : thread.stack = []
  effects : thread.effects = []

/-- The conditions on the tracer's side: stops are handled one by one, processes are forked
by threads without a traced call, and a thread that is busy with cudatrace's own work makes
internal calls only. -/
def Merged.Followed (s : Merged) : MergedLabel → Prop
  | .tracer (.move (.spawn t child how thread)) =>
    PhasesKept s.sys (.move (.spawn t child how thread)) ∧
      (thread = false → (s.threads t).Unseen)
  | .tracer (.turn t env) =>
    PhasesKept s.sys (.turn t (s.drainedEnv env)) ∧
      ((s.threads t).effects ≠ [] → ∀ task c, s.sys.tasks t = some task →
        task.run = .stopped (.syscallEntry c) false → ∀ regs, env.getregs t = some regs →
        isInternalSyscall env t regs s.sys.loop.cudatraceRanges = true)
  | .tracer l => PhasesKept s.sys l
  | _ => True

/-! ### The invariant -/

theorem clampU32_shown (depth : ℕ) : (clampU32 depth).toNat = shownDepth depth := clampU32_toNat depth

/-- The output of a thread against its graph. -/
structure SpanInv (cfg : Config) (t : Pid) (thread : Thread) (h : History) : Prop where
  tid : thread.KnowsTid t
  eager : Eager thread.stack
  domain : thread.stack ≠ [] → (cfg.trace.cudart || cfg.trace.driver) = true
  heads : h.forest.heads = thread.stack.map Frame.head
  texts : h.texts ++ thread.textOut = h.forest.lines (spanPrinter cfg t)

/-- The depth that the tracer has for a thread, or will have. -/
structure DepthInv (t : Pid) (task : Option Task) (thread : Thread) (pipe : List DepthUpdate)
    (table : DepthByTid) : Prop where
  present : task.isSome = true → ∃ v, InStep (·.tid) depthEntry t thread.depthOut pipe table v ∧
    v.getD 0 = shownDepth thread.stack.length
  absent : task = none → table t = none ∧ ∀ msg ∈ pipe, msg.tid ≠ t

structure MergedInv (cfg : Config) (s : Merged) (h : Pid → History) : Prop where
  parity : Parity s.sys
  spans : ∀ t, SpanInv cfg t (s.threads t) (h t)
  depths : ∀ t, DepthInv t (s.sys.tasks t) (s.threads t) s.depthPipe s.sys.loop.depthByTid
  shown : ∀ t task, s.sys.loop.Shown t → s.sys.tasks t = some task → task.run.dying = false →
    (s.threads t).effects = []

namespace SpanInv

variable {cfg : Config} {t : Pid} {thread thread' : Thread} {h : History}

theorem depth (hinv : SpanInv cfg t thread h) : h.forest.depth = thread.stack.length := by
  rw [OpenForest.depth_eq, hinv.heads, List.length_map]

theorem same (hinv : SpanInv cfg t thread h) (hs : SameSpans t thread thread') :
    SpanInv cfg t thread' h := by
  refine ⟨hs.tid hinv.tid, ?_, ?_, ?_, ?_⟩
  · rw [hs.stack]
    exact hinv.eager
  · rw [hs.stack]
    exact hinv.domain
  · rw [hs.stack]
    exact hinv.heads
  · rw [hs.texts]
    exact hinv.texts

theorem opens (hinv : SpanInv cfg t thread h) {depth : ℕ} {head : SpanHead}
    (hmove : MovesSpan t depth ((spanPrinter cfg t).opening thread.stack.length head) thread thread')
    (he : Eager thread'.stack) (hh : thread'.stack.map Frame.head = head :: thread.stack.map Frame.head)
    (hdomain : (cfg.trace.cudart || cfg.trace.driver) = true) :
    SpanInv cfg t thread' { h with calls := h.calls ++ [.opened head] } := by
  have hforest : History.forest { h with calls := h.calls ++ [.opened head] } =
      h.forest.grow (.opened head) := OpenForest.ofEvents_append _ _
  refine ⟨hmove.tid, he, fun _ => hdomain, ?_, ?_⟩
  · rw [hforest, OpenForest.heads_opened, hinv.heads, hh]
  · rw [hforest, OpenForest.lines_opened, hinv.depth, hmove.texts, ← hinv.texts, List.append_assoc]

theorem closes (hinv : SpanInv cfg t thread h) {frame : Frame} {rest : List Frame}
    {r : SpanResult} (hs : thread.stack = frame :: rest)
    (hmove : MovesSpan t rest.length ((spanPrinter cfg t).closing rest.length frame.head r)
      thread thread') (hr : thread'.stack = rest) :
    SpanInv cfg t thread' { h with calls := h.calls ++ [.closed r] } := by
  have hforest : History.forest { h with calls := h.calls ++ [.closed r] } =
      h.forest.grow (.closed r) := OpenForest.ofEvents_append _ _
  have hheads : h.forest.heads = frame.head :: rest.map Frame.head := by
    rw [hinv.heads, hs, List.map_cons]
  obtain ⟨hgrown, hlines⟩ := OpenForest.closed_heads (spanPrinter cfg t) h.forest hheads r
  have heager := hinv.eager
  rw [hs] at heager
  refine ⟨hmove.tid, hr ▸ heager.2.2, fun _ => hinv.domain (by rw [hs]; nofun), ?_, ?_⟩
  · rw [hforest, hgrown, hr]
  · rw [hforest, hlines, hmove.texts, ← List.append_assoc, hinv.texts, List.length_map]

/-- A line of the thread goes out. -/
theorem performs (hinv : SpanInv cfg t thread h) {e : Effect} {rest : List Effect}
    (he : thread.effects = e :: rest) :
    SpanInv cfg t { thread with effects := rest }
      { h with texts := h.texts ++ (e.text?).toList } := by
  have htexts := hinv.texts
  unfold Thread.textOut at htexts
  rw [he] at htexts
  refine ⟨hinv.tid, hinv.eager, hinv.domain, hinv.heads, ?_⟩
  cases e with
  | line line =>
    exact (List.append_assoc _ _ _).trans htexts
  | depth msg => exact (congrArg (· ++ _) (List.append_nil _)).trans htexts
  | window msg => exact (congrArg (· ++ _) (List.append_nil _)).trans htexts

theorem indentPtraceLine_shown (hinv : SpanInv cfg t thread h) (body : String) :
    indentPtraceLine cfg body (shownDepth thread.stack.length) =
      indent (shownDepth thread.stack.length) ++ body := by
  unfold indentPtraceLine
  by_cases hs : thread.stack = []
  · have hzero : shownDepth thread.stack.length = 0 := by
      rw [hs]
      rfl
    rw [hzero, if_pos (by simp)]
    exact (String.empty_append).symm
  · have hpos : shownDepth thread.stack.length ≠ 0 := by
      have hlen := List.length_pos_iff.mpr hs
      unfold shownDepth
      omega
    rw [if_neg]
    simp [hinv.domain hs, hpos]

/-- The tracer writes the line of a syscall at the depth of the thread, which is idle. -/
theorem leaf (hinv : SpanInv cfg t thread h) (hidle : thread.effects = []) (body : String)
    {l : SyscallLine} (htid : l.tid = t) (hdepth : l.depth = shownDepth thread.stack.length) :
    SpanInv cfg t thread
      ⟨h.calls ++ [.leaf ⟨body, l.state.startedTs⟩], h.texts ++ [formatSyscallLine cfg body l]⟩ := by
  have hforest : History.forest ⟨h.calls ++ [.leaf ⟨body, l.state.startedTs⟩],
      h.texts ++ [formatSyscallLine cfg body l]⟩ =
      h.forest.grow (.leaf ⟨body, l.state.startedTs⟩) := OpenForest.ofEvents_append _ _
  have hout : thread.textOut = [] := by
    unfold Thread.textOut
    rw [hidle]
    rfl
  have htexts := hinv.texts
  rw [hout, List.append_nil] at htexts
  refine ⟨hinv.tid, hinv.eager, hinv.domain, ?_, ?_⟩
  · rw [hforest, OpenForest.heads_leaf]
    exact hinv.heads
  · rw [hforest, OpenForest.lines_leaf, hout, List.append_nil, ← htexts, hinv.depth]
    unfold formatSyscallLine spanPrinter
    rw [hdepth, hinv.indentPtraceLine_shown, htid]

end SpanInv

namespace DepthInv

variable {t : Pid} {task : Option Task} {thread thread' : Thread} {pipe : List DepthUpdate}
  {table : DepthByTid}

theorem same (hinv : DepthInv t task thread pipe table) (hs : SameSpans t thread thread') :
    DepthInv t task thread' pipe table := by
  refine ⟨fun hp => ?_, hinv.absent⟩
  rw [hs.depths, hs.stack]
  exact hinv.present hp

theorem moves (hinv : DepthInv t task thread pipe table) {line : String}
    (hmove : MovesSpan t thread'.stack.length line thread thread') :
    DepthInv t task thread' pipe table := by
  refine ⟨fun hp => ?_, hinv.absent⟩
  obtain ⟨v, hstep, -⟩ := hinv.present hp
  refine ⟨some (shownDepth thread'.stack.length), ?_, rfl⟩
  rw [hmove.depths]
  exact hstep.post rfl (congrArg some (clampU32_shown _))

/-- The thread sends its first record or line. -/
theorem performs (hinv : DepthInv t task thread pipe table) (hp : task.isSome = true) {e : Effect}
    {rest : List Effect} (he : thread.effects = e :: rest) :
    (∀ msg, e.depthMsg = some msg → msg.tid = t) ∧
      DepthInv t task { thread with effects := rest } (pipe ++ e.depthMsg.toList) table := by
  obtain ⟨v, hstep, hv⟩ := hinv.present hp
  unfold Thread.depthOut at hstep
  rw [he] at hstep
  have habsent : task = none → ∀ P : Prop, P := by
    rintro rfl
    cases hp
  cases e with
  | depth msg =>
    refine ⟨fun m hm => ?_, fun _ => ⟨v, hstep.send, hv⟩, fun hn => habsent hn _⟩
    cases hm
    exact hstep.own msg List.mem_cons_self
  | line line =>
    refine ⟨nofun, fun _ => ⟨v, ?_, hv⟩, fun hn => habsent hn _⟩
    exact (List.append_nil pipe).symm ▸ hstep
  | window msg =>
    refine ⟨nofun, fun _ => ⟨v, ?_, hv⟩, fun hn => habsent hn _⟩
    exact (List.append_nil pipe).symm ▸ hstep

/-- Another thread sends a record. -/
theorem other (hinv : DepthInv t task thread pipe table) {msgs : List DepthUpdate}
    (hne : ∀ msg ∈ msgs, msg.tid ≠ t) (hone : msgs.length ≤ 1) :
    DepthInv t task thread (pipe ++ msgs) table := by
  refine ⟨fun hp => ?_, fun hn => ?_⟩
  · obtain ⟨v, hstep, hv⟩ := hinv.present hp
    match msgs, hone with
    | [], _ =>
      rw [List.append_nil]
      exact ⟨v, hstep, hv⟩
    | [msg], _ => exact ⟨v, hstep.send_other (hne msg List.mem_cons_self), hv⟩
  · obtain ⟨htable, hpipe⟩ := hinv.absent hn
    refine ⟨htable, fun msg hm => ?_⟩
    rcases List.mem_append.mp hm with hm | hm
    · exact hpipe msg hm
    · exact hne msg hm

theorem drained (hinv : DepthInv t task thread pipe table) :
    DepthInv t task thread [] (drainDepthUpdates pipe table) := by
  rw [drainDepthUpdates_eq]
  refine ⟨fun hp => ?_, fun hn => ?_⟩
  · obtain ⟨v, hstep, hv⟩ := hinv.present hp
    have hall := hstep.receive pipe.length
    rw [List.drop_length, List.take_length] at hall
    exact ⟨v, hall, hv⟩
  · obtain ⟨htable, hpipe⟩ := hinv.absent hn
    exact ⟨(applyAll_of_ne hpipe).trans htable, nofun⟩

theorem congr (hinv : DepthInv t task thread pipe table) {task' : Option Task}
    {table' : DepthByTid} (hp : task'.isSome = task.isSome) (ht : table' t = table t) :
    DepthInv t task' thread pipe table' := by
  refine ⟨fun hp' => ?_, fun hn => ?_⟩
  · obtain ⟨v, hstep, hv⟩ := hinv.present (hp ▸ hp')
    exact ⟨v, hstep.congr ht, hv⟩
  · have hnone : task = none := by
      rw [hn] at hp
      exact Option.isNone_iff_eq_none.mp (by simpa using hp.symm)
    obtain ⟨htable, hpipe⟩ := hinv.absent hnone
    exact ⟨ht.trans htable, hpipe⟩

/-- A thread that has sent nothing appears under a free id. -/
theorem fresh (hinv : DepthInv t none thread pipe table) (hs : thread'.stack = [])
    (he : thread'.effects = []) (task : Task) : DepthInv t (some task) thread' pipe table := by
  obtain ⟨htable, hpipe⟩ := hinv.absent rfl
  refine ⟨fun _ => ⟨none, ⟨?_, ?_⟩, ?_⟩, nofun⟩
  · unfold Thread.depthOut
    rw [he]
    nofun
  · unfold Thread.depthOut
    rw [he]
    rw [List.filterMap_nil, List.append_nil, applyAll_of_ne hpipe, htable]
  · rw [hs]
    rfl

/-- Drained while the thread has nothing to send, the entry is its depth. -/
theorem settled (hinv : DepthInv t task thread pipe table) (hp : task.isSome = true)
    (hidle : thread.effects = []) :
    (drainDepthUpdates pipe table t).getD 0 = shownDepth thread.stack.length := by
  obtain ⟨v, hstep, hv⟩ := hinv.drained.present hp
  have hout : thread.depthOut = [] := by
    unfold Thread.depthOut
    rw [hidle]
    rfl
  rw [hstep.settled hout nofun]
  exact hv

end DepthInv

/-! ### Steps of the threads -/

namespace MergedInv

variable {image : Image} {cfg : Config} {s : Merged} {h : Pid → History}

theorem not_shown (hinv : MergedInv cfg s h) {t : Pid} {task : Task}
    (ht : s.sys.tasks t = some task) (hrun : task.run = .user) : ¬ s.sys.loop.Shown t := by
  rintro ⟨st, hst, hact, -⟩
  have hrec := hinv.parity.tracked t task ht (by rw [hrun]; rfl)
  rw [hrun] at hrec
  rw [hrec st hst] at hact
  cases hact

theorem free_spec (hinv : MergedInv cfg s h) {t : Pid} (hf : s.free t = true) :
    (s.threads t).effects = [] ∧ ∃ task, s.sys.tasks t = some task ∧ ¬ s.sys.loop.Shown t := by
  obtain ⟨hidle, hany⟩ := (Bool.and_eq_true _ _).mp hf
  obtain ⟨task, ht, hrun⟩ := (Option.any_eq_true _ _).mp hany
  exact ⟨List.isEmpty_iff.mp hidle, task, ht, hinv.not_shown ht (of_decide_eq_true hrun)⟩

/-- Only the cells of thread `a` change, and what is noted is about `a`. -/
theorem thread (hinv : MergedInv cfg s h) {s' : Merged} {h' : Pid → History} {a : Pid}
    (hsys : s'.sys = s.sys) (hthreads : ∀ t, t ≠ a → s'.threads t = s.threads t)
    (hh : ∀ t, t ≠ a → h' t = h t) (hpipe : s'.depthPipe = s.depthPipe)
    (hspan : SpanInv cfg a (s'.threads a) (h' a))
    (hdepth : DepthInv a (s.sys.tasks a) (s'.threads a) s.depthPipe s.sys.loop.depthByTid)
    (hshown : ¬ s.sys.loop.Shown a) : MergedInv cfg s' h' := by
  refine ⟨hsys ▸ hinv.parity, fun t => ?_, fun t => ?_, fun t task ht => ?_⟩
  · by_cases hta : t = a
    · rw [hta]
      exact hspan
    · rw [hthreads t hta, hh t hta]
      exact hinv.spans t
  · rw [hsys, hpipe]
    by_cases hta : t = a
    · rw [hta]
      exact hdepth
    · rw [hthreads t hta]
      exact hinv.depths t
  · rw [hsys] at ht ⊢
    by_cases hta : t = a
    · rw [hta] at ht
      exact absurd ht hshown
    · rw [hthreads t hta]
      exact hinv.shown t task ht

/-- A thread that is free does something that leaves its spans alone. -/
theorem sameSpans (hinv : MergedInv cfg s h) {s' : Merged} {t : Pid} {thread : Thread}
    (hf : s.free t = true) (hs : SameSpans t (s.threads t) thread) (hsys : s'.sys = s.sys)
    (hthreads : s'.threads = Function.update s.threads t thread)
    (hpipe : s'.depthPipe = s.depthPipe) : MergedInv cfg s' h := by
  obtain ⟨-, task, -, hno⟩ := hinv.free_spec hf
  have hself : s'.threads t = thread := by rw [hthreads, Function.update_self]
  refine hinv.thread hsys (fun u hu => ?_) (fun _ _ => rfl) hpipe ?_ ?_ hno
  · rw [hthreads, Function.update_of_ne hu]
  · rw [hself]
    exact (hinv.spans t).same hs
  · rw [hself]
    exact (hinv.depths t).same hs

/-- A thread that is free opens or closes a span. -/
theorem movesSpan (hinv : MergedInv cfg s h) {s' : Merged} {t : Pid} {thread : Thread}
    {line : String} {e : SpanEvent} (hf : s.free t = true)
    (hmove : MovesSpan t thread.stack.length line (s.threads t) thread)
    (hspan : SpanInv cfg t thread { h t with calls := (h t).calls ++ [e] })
    (hsys : s'.sys = s.sys) (hthreads : s'.threads = Function.update s.threads t thread)
    (hpipe : s'.depthPipe = s.depthPipe) : MergedInv cfg s' (note h (.call t e)) := by
  obtain ⟨-, task, -, hno⟩ := hinv.free_spec hf
  have hself : s'.threads t = thread := by rw [hthreads, Function.update_self]
  refine hinv.thread hsys (fun u hu => ?_) (fun u hu => Function.update_of_ne hu _ _) hpipe ?_ ?_
    hno
  · rw [hthreads, Function.update_of_ne hu]
  · rw [hself, note, Function.update_self]
    exact hspan
  · rw [hself]
    exact (hinv.depths t).moves hmove

theorem enter (hinv : MergedInv image.config s h) (hpipe : DepthPipe image) {t : Pid}
    (hf : s.free t = true) (clock : Clock) {domain : TraceDomain} (hd : domain ≠ .syscall)
    (func args : String) :
    MergedInv image.config (s.enter image t clock domain func args).1
      ((s.enter image t clock domain func args).2.foldl note h) := by
  obtain ⟨⟨scope, seqs, thread⟩, hr⟩ : ∃ r, TraceScope.enterLazy image t clock domain func args
      s.seqs (s.threads t) = r := ⟨_, rfl⟩
  have hspans := hinv.spans t
  simp only [Merged.enter, hr]
  rcases enterLazy_spans hpipe hspans.tid hspans.eager hr with
    ⟨hspan, hs⟩ | ⟨hspan, hon, hmove, heager, hheads⟩
  · rw [hspan]
    exact hinv.sameSpans hf hs rfl rfl rfl
  · have hdomain : (image.config.trace.cudart || image.config.trace.driver) = true := by
      cases domain with
      | cudart => exact (Bool.or_eq_true _ _).mpr (Or.inl hon)
      | driver => exact (Bool.or_eq_true _ _).mpr (Or.inr hon)
      | syscall => exact absurd rfl hd
    have hlen : thread.stack.length = (s.threads t).stack.length + 1 := by
      have hmap := congrArg List.length hheads
      rwa [List.length_cons, List.length_map, List.length_map] at hmap
    rw [hspan]
    exact hinv.movesSpan hf (hlen ▸ hmove) (hspans.opens hmove heager hheads hdomain) rfl rfl rfl

theorem finish (hinv : MergedInv image.config s h) (hpipe : DepthPipe image) {t : Pid}
    (hf : s.free t = true) (scope : TraceScope) (rest : List TraceScope) (clock : Clock)
    (ret : String) :
    MergedInv image.config
      { s.setThread t (scope.finish image t clock ret (s.threads t)) with
        scopes := Function.update s.scopes t rest }
      (((Merged.closing image.config scope clock ret (s.threads t)).map (.call t)).foldl note h) := by
  have hspans := hinv.spans t
  obtain ⟨hcloses, hsame⟩ := finish_spans hpipe hspans.tid hspans.eager scope clock ret
  cases hspan : scope.span with
  | none =>
    have hno : Merged.closing image.config scope clock ret (s.threads t) = [] := by
      rw [Merged.closing, hspan]
    rw [hno]
    exact hinv.sameSpans hf (hsame (Or.inl hspan)) rfl rfl rfl
  | some token =>
    cases hs : (s.threads t).stack with
    | nil =>
      have hno : Merged.closing image.config scope clock ret (s.threads t) = [] := by
        rw [Merged.closing, hspan, hs]
      rw [hno]
      exact hinv.sameSpans hf (hsame (Or.inr hs)) rfl rfl rfl
    | cons frame rest' =>
      have hone : Merged.closing image.config scope clock ret (s.threads t) =
          [.closed ⟨ret, durationForConfig image.config (clock.instantNow - frame.startedAt)⟩] := by
        rw [Merged.closing, hspan, hs]
      obtain ⟨hmove, hstack⟩ := hcloses frame rest' hs hspan
      rw [hone]
      exact hinv.movesSpan hf (by rw [hstack]; exact hmove) (hspans.closes hs hmove hstack) rfl rfl
        rfl

/-- A thread inside a write call sends the first of its records or lines. -/
theorem perform (hinv : MergedInv cfg s h) {t : Pid} (hw : s.sys.tasks.writing t = true)
    {e : Effect} {rest : List Effect} (he : (s.threads t).effects = e :: rest) {s' : Merged}
    (hsys : s'.sys = s.sys)
    (hthreads : s'.threads = Function.update s.threads t { s.threads t with effects := rest })
    (hpipe : s'.depthPipe = s.depthPipe ++ e.depthMsg.toList) :
    MergedInv cfg s' (((e.text?).toList.map (Noted.text t)).foldl note h) := by
  obtain ⟨task, c, ht, hrun, -⟩ := writing_spec hw
  have hself : s'.threads t = { s.threads t with effects := rest } := by
    rw [hthreads, Function.update_self]
  have hother : ∀ u, u ≠ t → s'.threads u = s.threads u := fun u hu => by
    rw [hthreads, Function.update_of_ne hu]
  have hno : ¬ s.sys.loop.Shown t := by
    intro hs
    have hidle := hinv.shown t task hs ht (by rw [hrun]; rfl)
    rw [he] at hidle
    cases hidle
  obtain ⟨hown, hdepth⟩ := (hinv.depths t).performs (by rw [ht]; rfl) he
  have hspan := (hinv.spans t).performs he
  have hnotes : ∀ u, (((e.text?).toList.map (Noted.text t)).foldl note h) u =
      if u = t then { h t with texts := (h t).texts ++ (e.text?).toList } else h u := by
    intro u
    cases e.text? with
    | none =>
      by_cases hu : u = t
      · rw [if_pos hu, hu]
        change h t = { h t with texts := (h t).texts ++ [] }
        rw [List.append_nil]
      · rw [if_neg hu]
        rfl
    | some line =>
      by_cases hu : u = t
      · rw [if_pos hu, hu]
        exact Function.update_self _ _ _
      · rw [if_neg hu]
        exact Function.update_of_ne hu _ _
  refine ⟨hsys ▸ hinv.parity, fun u => ?_, fun u => ?_, fun u task' hs ht' => ?_⟩
  · by_cases hu : u = t
    · rw [hnotes, if_pos hu, hu, hself]
      exact hspan
    · rw [hnotes, if_neg hu, hother u hu]
      exact hinv.spans u
  · rw [hsys, hpipe]
    by_cases hu : u = t
    · rw [hu, hself]
      exact hdepth
    · rw [hother u hu]
      refine (hinv.depths u).other (fun msg hm => ?_) (by cases e.depthMsg <;> simp)
      rw [hown msg (Option.mem_toList.mp hm)]
      exact Ne.symm hu
  · rw [hsys] at hs ht'
    have hu : u ≠ t := by
      rintro rfl
      exact hno hs
    rw [hother u hu]
    exact hinv.shown u task' hs ht'

/-! ### Steps of the tracer and its tasks -/

theorem move_not_dying {task task' : Task} {m : Move} (hm : task.move m = some task')
    (h : task'.run.dying = false) : task.run.dying = false := by
  obtain ⟨-, ⟨stop, hr, -⟩ | ⟨c, stop, hr, -⟩ | ⟨hr, -⟩ | ⟨death, hr⟩⟩ := Task.move_run hm
  · rw [hr]
    rfl
  · rw [hr]
    rfl
  · exact hr
  · rw [hr] at h
    cases h

/-- The tasks move while the loop stands still. -/
theorem tasks (hinv : MergedInv cfg s h) {sys : Sys} (hparity : Parity sys)
    (hloop : sys.loop = s.sys.loop)
    (hsome : ∀ t, (sys.tasks t).isSome = (s.sys.tasks t).isSome)
    (hdying : ∀ t task', sys.tasks t = some task' → task'.run.dying = false →
      ∃ task, s.sys.tasks t = some task ∧ task.run.dying = false) :
    MergedInv cfg { s with sys := sys } h := by
  refine ⟨hparity, hinv.spans, fun t => ?_, fun t task' hs ht hd => ?_⟩
  · exact (hinv.depths t).congr (hsome t) (by rw [hloop])
  · obtain ⟨task, ht', hd'⟩ := hdying t task' ht hd
    exact hinv.shown t task (hloop ▸ hs) ht' hd'

theorem update_isSome {k : Tasks} {t : Pid} {task task' : Task} (h : k t = some task) (u : Pid) :
    (Function.update k t (some task') u).isSome = (k u).isSome := by
  by_cases hu : u = t
  · rw [hu, Function.update_self, h]
    rfl
  · rw [Function.update_of_ne hu]

theorem update_not_dying {k : Tasks} {t : Pid} {task task' : Task} (h : k t = some task)
    (hd : task'.run.dying = false → task.run.dying = false) (u : Pid) (other : Task)
    (hu : Function.update k t (some task') u = some other) (ho : other.run.dying = false) :
    ∃ old, k u = some old ∧ old.run.dying = false := by
  rcases update_some hu with ⟨rfl, rfl⟩ | ⟨-, hu⟩
  · exact ⟨task, h, hd ho⟩
  · exact ⟨other, hu, ho⟩

theorem resumeAll_isSome (k : Tasks) (rs : List (Pid × I32)) (u : Pid) :
    ((k.resumeAll rs).1 u).isSome = (k u).isSome := by
  rw [resumeAll_tasks]
  split
  · rw [Option.isSome_map]
  · rfl

theorem resumeAll_not_dying {k : Tasks} {rs : List (Pid × I32)} {u : Pid} {other : Task}
    (hu : (k.resumeAll rs).1 u = some other) (ho : other.run.dying = false) :
    ∃ old, k u = some old ∧ old.run.dying = false := by
  rw [resumeAll_tasks] at hu
  split at hu
  · obtain ⟨old, hold, rfl⟩ := Option.map_eq_some_iff.mp hu
    exact ⟨old, hold, (Run.released_dying old.run).symm.trans ho⟩
  · exact ⟨other, hu, ho⟩

theorem move (hinv : MergedInv cfg s h) {g : Globals} {m : Move} {sys : Sys}
    (hok : PhasesKept s.sys (.move m)) (hs : s.sys.step g (.move m) = some sys)
    (hspawn : ∀ t child how thread, m ≠ .spawn t child how thread) (hexec : ∀ t, m ≠ .exec t) :
    MergedInv cfg { s with sys := sys } h := by
  have hparity := hinv.parity.step hok.1 hok.2.parked hs
  obtain ⟨⟨_, _⟩, hobs, rfl⟩ := Option.map_eq_some_iff.mp hs
  obtain ⟨k, hm, he⟩ := Option.map_eq_some_iff.mp hobs
  cases he
  obtain ⟨task, task', ht, hmove, ⟨rfl, -⟩ | ⟨t, child, how, thread, -, rfl, -⟩ | ⟨t, -, -, rfl, -⟩⟩ :=
    move_cases hm
  · exact hinv.tasks hparity rfl (update_isSome ht) (update_not_dying ht (move_not_dying hmove))
  · exact absurd rfl (hspawn _ _ _ _)
  · exact absurd rfl (hexec _)

theorem attached (hinv : MergedInv cfg s h) {g : Globals} {sys : Sys}
    (hok : PhasesKept s.sys .attached) (hs : s.sys.step g .attached = some sys) :
    MergedInv cfg { s with sys := sys } h := by
  have hparity := hinv.parity.step hok.1 hok.2.parked hs
  obtain ⟨⟨_, _⟩, hobs, rfl⟩ := Option.map_eq_some_iff.mp hs
  obtain ⟨-, task, stop, ht, hrun, rfl, -⟩ := attached_cases hobs
  have hreport : ∀ u, (s.sys.tasks.report s.sys.target task stop u).isSome =
      (s.sys.tasks u).isSome := update_isSome ht
  refine hinv.tasks hparity rfl (fun t => ?_) (fun t other ho hd => ?_)
  · exact (resumeAll_isSome _ [(s.sys.target, 0)] t).trans (hreport t)
  · have ho' : ((s.sys.tasks.report s.sys.target task stop).resumeAll
        [(s.sys.target, 0)]).1 t = some other := ho
    obtain ⟨mid, hmid, hd'⟩ := resumeAll_not_dying ho' hd
    refine update_not_dying ht (fun hd'' => ?_) t mid hmid hd'
    rw [hrun]
    cases stop <;> first | rfl | exact hd''

theorem spawn (hinv : MergedInv cfg s h) {g : Globals} {t child : Pid} {how : NewTask}
    {thread : Bool} {sys : Sys} (hok : PhasesKept s.sys (.move (.spawn t child how thread)))
    (hs : s.sys.step g (.move (.spawn t child how thread)) = some sys)
    (hunseen : thread = false → (s.threads t).Unseen) :
    MergedInv cfg { s.newThread t child thread with sys := sys } (note h (.born child)) := by
  have hparity := hinv.parity.step hok.1 hok.2.parked hs
  obtain ⟨⟨_, _⟩, hobs, rfl⟩ := Option.map_eq_some_iff.mp hs
  obtain ⟨k, hm, he⟩ := Option.map_eq_some_iff.mp hobs
  cases he
  obtain ⟨task, task', ht, hmove, ⟨-, -, hno⟩ | ⟨t, child, how, thread, tgid, hl, hfree, rfl⟩ |
    ⟨t, -, -, hl, -⟩⟩ := move_cases hm
  · exact absurd rfl (hno _ _ _ _)
  · cases hl
    -- the cells of the new thread
    have hnew : ∃ cells : Thread, (s.newThread t child thread).threads child = cells ∧
        cells.Unseen := by
      refine ⟨_, Function.update_self _ _ _, ?_⟩
      cases thread with
      | true => exact ⟨rfl, rfl, rfl⟩
      | false => exact hunseen rfl
    obtain ⟨cells, hcells, hcell⟩ := hnew
    have hother : ∀ u, u ≠ child → (s.newThread t child thread).threads u = s.threads u :=
      fun u hu => Function.update_of_ne hu _ _
    refine ⟨hparity, fun u => ?_, fun u => ?_, fun u other hsh ho hd => ?_⟩
    · by_cases hu : u = child
      · rw [hu]
        change SpanInv cfg child ((s.newThread t child thread).threads child)
          (Function.update h child .empty child)
        rw [hcells, Function.update_self]
        refine ⟨Or.inl hcell.tid, ?_, ?_, ?_, ?_⟩
        · rw [hcell.stack]
          trivial
        · rw [hcell.stack]
          exact fun hne => absurd rfl hne
        · rw [hcell.stack]
          rfl
        · unfold Thread.textOut
          rw [hcell.effects]
          rfl
      · change SpanInv cfg u ((s.newThread t child thread).threads u)
          (Function.update h child .empty u)
        rw [hother u hu, Function.update_of_ne hu]
        exact hinv.spans u
    · by_cases hu : u = child
      · subst hu
        have hd := hinv.depths u
        rw [hfree] at hd
        have hfresh := hd.fresh (hcells ▸ hcell.stack) (hcells ▸ hcell.effects)
          (⟨tgid, true, .user⟩ : Task)
        exact hfresh.congr (congrArg Option.isSome (Function.update_self u _ _)) rfl
      · change DepthInv u _ ((s.newThread t child thread).threads u) _ _
        rw [hother u hu]
        refine (hinv.depths u).congr ?_ rfl
        exact (congrArg Option.isSome (Function.update_of_ne hu _ _)).trans (update_isSome ht u)
    · have hu : u ≠ child := by
        rintro rfl
        obtain ⟨st, hst, -⟩ := hsh
        rw [show s.sys.loop.states u = none from hinv.parity.untracked u hfree] at hst
        cases hst
      change ((s.newThread t child thread).threads u).effects = []
      rw [hother u hu]
      have ho' : Function.update s.sys.tasks t (some task') u = some other := by
        have hu' := ho
        dsimp only at hu'
        rwa [Function.update_of_ne hu] at hu'
      obtain ⟨old, hold, hd'⟩ := update_not_dying ht (move_not_dying hmove) u other ho' hd
      exact hinv.shown u old hsh hold hd'
  · cases hl

/-- The lines of a turn for `t`, which is idle. -/
theorem noteLines_spans {t : Pid} {thread : Thread} {text : SyscallLine → String}
    {lines : List SyscallLine} (hidle : thread.effects = [])
    (hlines : ∀ l ∈ lines, l.tid = t ∧ l.depth = shownDepth thread.stack.length)
    (hspan : SpanInv cfg t thread (h t)) :
    SpanInv cfg t thread ((Merged.noteLines cfg text lines).foldl note h t) ∧
      ∀ u, u ≠ t → (Merged.noteLines cfg text lines).foldl note h u = h u := by
  induction lines generalizing h with
  | nil => exact ⟨hspan, fun _ _ => rfl⟩
  | cons l lines ih =>
    obtain ⟨htid, hdepth⟩ := hlines l List.mem_cons_self
    have hrest : ∀ l' ∈ lines, l'.tid = t ∧ l'.depth = shownDepth thread.stack.length :=
      fun l' hl' => hlines l' (List.mem_cons_of_mem _ hl')
    let h' := note (note h (.call l.tid (.leaf ⟨text l, l.state.startedTs⟩)))
      (.text l.tid (formatSyscallLine cfg (text l) l))
    have hself : h' t = ⟨(h t).calls ++ [.leaf ⟨text l, l.state.startedTs⟩],
        (h t).texts ++ [formatSyscallLine cfg (text l) l]⟩ := by
      simp only [h', note, htid, Function.update_self]
    have hother : ∀ u, u ≠ t → h' u = h u := by
      intro u hu
      simp only [h', note, htid, Function.update_of_ne hu]
    have hnext : SpanInv cfg t thread (h' t) := by
      rw [hself]
      exact hspan.leaf hidle (text l) htid hdepth
    obtain ⟨hfinal, hothers⟩ := ih hrest hnext
    exact ⟨hfinal, fun u hu => (hothers u hu).trans (hother u hu)⟩

theorem turn (hinv : MergedInv cfg s h) {g : Globals} {t : Pid} {env : Env} {sys : Sys}
    (text : CallText) (hok : s.Followed (.tracer (.turn t env)))
    (hs : s.sys.step g (.turn t (s.drainedEnv env)) = some sys) :
    MergedInv cfg { s with sys := sys, depthPipe := [] }
      ((Merged.noteLines cfg (text s.sys.loop env) (writtenLines sys.loop.out)).foldl note h) := by
  obtain ⟨hkept, hown⟩ := hok
  have hparity := hinv.parity.step hkept.1 hkept.2.parked hs
  obtain ⟨⟨_, released⟩, hobs, rfl⟩ := Option.map_eq_some_iff.mp hs
  obtain ⟨-, task, ht, hcase⟩ := turn_cases hobs
  -- what the turn does, whether `t` has stopped or is dead
  obtain ⟨status, k, hh, hk, hgone⟩ : ∃ status k,
      s.sys.handle g t (s.drainedEnv env) status k = (_, released) ∧
      (∀ u, u ≠ t → k u = s.sys.tasks u) ∧
      ((waitKind status = .gone ∧ k t = none) ∨ (waitKind status ≠ .gone ∧ ∃ stop,
        task.run = .stopped stop false ∧ waitKind status = stop.kind ∧
        k t = some { task with run := .stopped stop true })) := by
    rcases hcase with ⟨stop, hrun, -, hh⟩ | ⟨death, hrun, hh⟩
    · refine ⟨_, _, hh, fun u hu => Function.update_of_ne hu _ _, Or.inr ⟨?_, stop, hrun,
        waitKind_status stop, Function.update_self _ _ _⟩⟩
      rw [waitKind_status]
      cases stop <;> nofun
    · exact ⟨_, _, hh, fun u hu => Function.update_of_ne hu _ _,
        Or.inl ⟨waitKind_death death, Function.update_self _ _ _⟩⟩
  obtain ⟨rfl, -⟩ := Prod.mk.inj hh
  have hconsistent := hinv.parity.consistent
  let loop' := loopIter g (s.drainedEnv env) t status s.sys.loop
  let tasks' := (k.resumeAll (resumes loop'.out)).1
  have htasks : ∀ u, (tasks' u).isSome = (k u).isSome := resumeAll_isSome k _
  have hold : ∀ u other, tasks' u = some other → other.run.dying = false →
      ∃ old, s.sys.tasks u = some old ∧ old.run.dying = false := by
    intro u other hu hd
    obtain ⟨mid, hmid, hd'⟩ := resumeAll_not_dying hu hd
    by_cases hut : u = t
    · subst hut
      rcases hgone with ⟨-, hnone⟩ | ⟨-, stop, hrun, -, hsome⟩
      · cases hnone.symm.trans hmid
      · cases hsome.symm.trans hmid
        refine ⟨task, ht, ?_⟩
        rw [hrun]
        cases stop <;> first | rfl | exact hd'
    · exact ⟨mid, (hk u hut) ▸ hmid, hd'⟩
  -- a line is written for an idle thread, at its depth
  have hlines : ∀ l ∈ writtenLines loop'.out, (s.threads t).effects = [] ∧ l.tid = t ∧
        l.depth = shownDepth (s.threads t).stack.length := by
    intro l hl
    obtain ⟨hkind, hshown, htid, hdepth⟩ := line_cases g (s.drainedEnv env) t hconsistent hl
    have hidle : (s.threads t).effects = [] := by
      rcases hgone with ⟨hg, -⟩ | ⟨-, stop, hrun, hks, -⟩
      · cases hg.symm.trans hkind
      · refine hinv.shown t task hshown ht ?_
        rw [hrun]
        have hsys : stop.kind = .syscallStop := hks.symm.trans hkind
        cases stop <;> first | rfl | cases hsys
    exact ⟨hidle, htid, hdepth.trans ((hinv.depths t).settled (by rw [ht]; rfl) hidle)⟩
  refine ⟨hparity, fun u => ?_, fun u => ?_, fun u other hsh ho hd => ?_⟩
  · change SpanInv cfg u (s.threads u)
      ((Merged.noteLines cfg (text s.sys.loop env) (writtenLines loop'.out)).foldl note h u)
    by_cases hnone : writtenLines loop'.out = []
    · rw [hnone]
      exact hinv.spans u
    · obtain ⟨l, hl⟩ := List.exists_mem_of_ne_nil _ hnone
      obtain ⟨hself, hother⟩ := @noteLines_spans cfg h t _ (text s.sys.loop env) _ (hlines l hl).1
        (fun l' hl' => (hlines l' hl').2) (hinv.spans t)
      by_cases hu : u = t
      · rw [hu]
        exact hself
      · rw [hother u hu]
        exact hinv.spans u
  · have htable := loopIter_depths g (s.drainedEnv env) t status s.sys.loop
    have hdrained := (hinv.depths u).drained
    change DepthInv u (tasks' u) (s.threads u) [] loop'.depthByTid
    by_cases hu : u = t
    · subst hu
      rcases hgone with ⟨hkind, hnone⟩ | ⟨hkind, stop, -, -, hsome⟩
      · rw [if_pos hkind] at htable
        have hafter : tasks' u = none := by
          have hnone' := htasks u
          rw [hnone] at hnone'
          exact Option.isNone_iff_eq_none.mp (by simpa using hnone')
        rw [hafter]
        exact ⟨nofun, fun _ => ⟨(congrFun htable u).trans (Function.update_self _ _ _), nofun⟩⟩
      · rw [if_neg hkind] at htable
        refine hdrained.congr ((htasks u).trans ?_) (congrFun htable u)
        rw [hsome, ht]
        rfl
    · refine hdrained.congr ((htasks u).trans (congrArg Option.isSome (hk u hu))) ?_
      refine (congrFun htable u).trans ?_
      split
      · exact Function.update_of_ne hu _ _
      · rfl
  · obtain ⟨old, hold', hd'⟩ := hold u other ho hd
    rcases shown_cases g (s.drainedEnv env) t hconsistent hsh with
      hbefore | ⟨rfl, hkind, hidle, regs, hregs, hint⟩
    · exact hinv.shown u old hbefore hold' hd'
    · rcases hgone with ⟨hg, -⟩ | ⟨-, stop, hrun, hks, -⟩
      · cases hg.symm.trans hkind
      · by_contra hbusy
        have hsys : stop.kind = .syscallStop := hks.symm.trans hkind
        cases stop with
        | syscallEntry c =>
          have hinternal := hown hbusy task c ht hrun regs hregs
          have hext : isInternalSyscall env u regs s.sys.loop.cudatraceRanges = false := hint
          rw [hinternal] at hext
          cases hext
        | syscallExit c ret =>
          obtain ⟨st, hst, hact, -⟩ := hinv.parity.onRecord ht hrun
          rw [hidle st hst] at hact
          cases hact
        | _ => cases hsys

end MergedInv

/-! ### Runs -/

theorem merged_initial (cfg : Config) {sys : Sys} (hs : sysStart sys) :
    MergedInv cfg (.initial sys) fun _ => .empty := by
  refine ⟨.start hs, fun t => ?_, fun t => ?_, fun _ _ _ _ _ => rfl⟩
  · exact ⟨Or.inl rfl, trivial, fun hne => absurd rfl hne, rfl, rfl⟩
  · obtain ⟨target, controller, fdPaths, hiddenFds, ranges, rfl⟩ := hs
    exact ⟨fun _ => ⟨none, ⟨nofun, rfl⟩, rfl⟩, fun _ => ⟨rfl, nofun⟩⟩

theorem merged_step {image : Image} (hpipe : DepthPipe image) {names : I64 → Option String}
    {text : CallText} {s s' : Merged} {l : MergedLabel} {notes : List Noted} {h : Pid → History}
    (hinv : MergedInv image.config s h) (hok : s.Followed l)
    (hs : s.stepObs image names text l = some (s', notes)) :
    MergedInv image.config s' (notes.foldl note h) := by
  cases l with
  | enter t clock domain func args =>
    obtain ⟨⟨hf, hd⟩, he⟩ := Option.ite_none_right_eq_some.mp hs
    have hrun := hinv.enter hpipe hf clock hd func args
    rw [Option.some.inj he] at hrun
    exact hrun
  | finish t clock ret =>
    dsimp only [Merged.stepObs] at hs
    split at hs
    · cases hs
    · rename_i scope rest hscopes
      obtain ⟨hf, he⟩ := Option.ite_none_right_eq_some.mp hs
      cases he
      exact hinv.finish hpipe hf scope rest clock ret
  | bypass t =>
    obtain ⟨hf, he⟩ := Option.ite_none_right_eq_some.mp hs
    cases he
    exact hinv.sameSpans hf (SameSpans.bypass _) rfl rfl rfl
  | unbypass t =>
    obtain ⟨hf, he⟩ := Option.ite_none_right_eq_some.mp hs
    cases he
    exact hinv.sameSpans hf (SameSpans.unbypass _) rfl rfl rfl
  | perform t =>
    dsimp only [Merged.stepObs] at hs
    split at hs
    · cases hs
    · rename_i e rest heffects
      obtain ⟨hw, he⟩ := Option.ite_none_right_eq_some.mp hs
      cases e with
      | depth msg =>
        cases he
        exact hinv.perform hw heffects rfl rfl rfl
      | window msg =>
        cases he
        exact hinv.perform hw heffects rfl rfl (List.append_nil _).symm
      | line line =>
        cases he
        exact hinv.perform hw heffects rfl rfl (List.append_nil _).symm
  | tracer l =>
    cases l with
    | attached =>
      obtain ⟨sys, hsys, he⟩ := Option.map_eq_some_iff.mp hs
      cases he
      exact hinv.attached hok hsys
    | turn t env =>
      obtain ⟨sys, hsys, he⟩ := Option.map_eq_some_iff.mp hs
      cases he
      exact hinv.turn text hok hsys
    | move m =>
      cases m with
      | exec t => cases hs
      | spawn t child how thread =>
        obtain ⟨-, hmap⟩ := Option.ite_none_right_eq_some.mp hs
        obtain ⟨sys, hsys, he⟩ := Option.map_eq_some_iff.mp hmap
        cases he
        exact hinv.spawn hok.1 hsys hok.2
      | _ =>
        obtain ⟨sys, hsys, he⟩ := Option.map_eq_some_iff.mp hs
        cases he
        exact hinv.move hok hsys nofun nofun

end CudaTrace.Hook
