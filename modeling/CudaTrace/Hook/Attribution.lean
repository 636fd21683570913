import CudaTrace.Hook.WindowAgreement

/-!
# Whose records and lines (line_meta.rs, logger.rs)

The kernel id of a thread and the file it logs to are cached in thread-local
storage. A forked child starts with a copy of what the forking thread had cached.
-/

namespace CudaTrace.Hook
open CudaTrace.Base CudaTrace.Boot CudaTrace.Ptrace

/-- Where a line went; the file is that of the thread id in its name. -/
inductive Sink where
  | file (tid : Pid)
  | stdout
  deriving DecidableEq

/-- A task with its thread-local storage; `sink` is `THREAD_FILE_SINK`. -/
structure TaskLocals where
  thread : Thread
  sink : Option Pid

def TaskLocals.new : TaskLocals := ⟨.new, none⟩

/-- Answers to the `openat` and the writes of one `log_line`. -/
structure LogAnswers where
  opened : Bool
  written : Bool

/-- `log_line`: the file is opened by the first line of the thread. -/
def logLine (cfg : Config) (gettid : Pid) (a : LogAnswers) (t : TaskLocals) : Sink × TaskLocals :=
  match cfg.output with
  | .stdout => (.stdout, t)
  | .file =>
    match t.sink with
    | some tid => (if a.written then .file tid else .stdout, t)
    | none =>
      let (tid, thread) := t.thread.currentTid gettid
      if a.opened then (if a.written then .file tid else .stdout, ⟨thread, some tid⟩)
      else (.stdout, ⟨thread, none⟩)

/-- What became visible: the id in a record of a task, or where a line of it went, with
the configured output and the answers it got. -/
inductive Seen where
  | record (task tid : Pid)
  | line (task : Pid) (output : OutputMode) (a : LogAnswers) (sink : Sink)

/-- The tasks of a program, over all its processes. -/
abbrev Forest := Pid → Option TaskLocals

/-- `fork` copies the thread-local storage of the forking thread, `spawn` starts a thread
with its own. The numbers handed out so far in the process of an entering task are an
argument of `enter`. -/
inductive ForestLabel where
  | fork (t child : Pid)
  | spawn (t child : Pid)
  | exit (t : Pid)
  | enter (t : Pid) (clock : Clock) (domain : TraceDomain) (func args : String) (seqs : WindowSeq)
  | finish (t : Pid) (scope : TraceScope) (clock : Clock) (ret : String)
  | bypass (t : Pid)
  | unbypass (t : Pid)
  | perform (t : Pid) (a : LogAnswers)

/-- The first waiting effect of a task takes place. -/
def performEffect (cfg : Config) (t : Pid) (a : LogAnswers) (locals : TaskLocals) :
    Option (List Seen × TaskLocals) :=
  match locals.thread.effects with
  | [] => none
  | e :: rest =>
    let locals := { locals with thread := { locals.thread with effects := rest } }
    match e with
    | .depth msg => some ([.record t msg.tid], locals)
    | .window msg => some ([.record t msg.tid], locals)
    | .line _ =>
      let (sink, locals) := logLine cfg t a locals
      some ([.line t cfg.output a sink], locals)

namespace Forest

/-- The storage of a live task that has nothing left to do in the hooks. -/
def idle (s : Forest) (t : Pid) : Option TaskLocals :=
  (s t).bind fun locals => if locals.thread.effects.isEmpty then some locals else none

def set (s : Forest) (t : Pid) (locals : TaskLocals) : Forest := Function.update s t (some locals)

def setThread (s : Forest) (t : Pid) (locals : TaskLocals) (thread : Thread) : Forest :=
  s.set t { locals with thread := thread }

/-- The image of each task is that of its process. -/
def stepObs (images : Pid → Image) (s : Forest) : ForestLabel → Option (Forest × List Seen)
  | .fork t child =>
    (s.idle t).bind fun locals =>
      if (s child).isNone then some (s.set child locals, []) else none
  | .spawn t child =>
    (s.idle t).bind fun _ => if (s child).isNone then some (s.set child .new, []) else none
  | .exit t => (s t).map fun _ => (Function.update s t none, [])
  | .enter t clock domain func args seqs =>
    (s.idle t).map fun locals =>
      (s.setThread t locals (TraceScope.enterLazy (images t) t clock domain func args seqs
        locals.thread).2.2, [])
  | .finish t scope clock ret =>
    (s.idle t).map fun locals =>
      (s.setThread t locals (scope.finish (images t) t clock ret locals.thread), [])
  | .bypass t => (s.idle t).map fun locals => (s.setThread t locals locals.thread.bypass, [])
  | .unbypass t => (s.idle t).map fun locals => (s.setThread t locals locals.thread.unbypass, [])
  | .perform t a =>
    (s t).bind fun locals =>
      (performEffect (images t).config t a locals).map fun p => (s.set t p.2, p.1)

def step (images : Pid → Image) (s : Forest) (l : ForestLabel) : Option Forest :=
  (s.stepObs images l).map Prod.fst

def seen (images : Pid → Image) (s : Forest) (l : ForestLabel) (_ : Forest) : List Seen :=
  ((s.stepObs images l).map Prod.snd).getD []

/-- One task that has done nothing yet. -/
def Started (s : Forest) : Prop := ∃ root, s = Function.update (fun _ => none) root (some .new)

end Forest

def forest (images : Pid → Image) : System Forest ForestLabel :=
  System.ofPartial Forest.Started (Forest.step images)

/-! ### Threads that know who they are -/

/-- A record carries this id. -/
def Effect.Carries (tid : Pid) : Effect → Prop
  | .depth msg => msg.tid = tid
  | .window msg => msg.tid = tid
  | .line _ => True

/-- The cached id is right or not set, and so are the ids in the waiting records. -/
structure Owned (gettid : Pid) (t : Thread) : Prop where
  tid : t.KnowsTid gettid
  records : ∀ e ∈ t.effects, e.Carries gettid

namespace Owned

variable {gettid : Pid} {t : Thread}

theorem new (gettid : Pid) : Owned gettid .new := ⟨Or.inl rfl, fun _ he => absurd he List.not_mem_nil⟩

theorem perform (h : Owned gettid t) {e : Effect} (he : e.Carries gettid) :
    Owned gettid (t.perform e) := by
  refine ⟨h.tid, fun e' he' => ?_⟩
  rcases List.mem_append.mp he' with he' | he'
  · exact h.records e' he'
  · rw [List.mem_singleton.mp he']
    exact he

theorem currentTid (h : Owned gettid t) : Owned gettid (t.currentTid gettid).2 := by
  unfold Thread.currentTid
  split
  · exact h
  · dsimp only
    split
    · exact ⟨Or.inr rfl, h.records⟩
    · exact h

theorem publishGraphDepth (h : Owned gettid t) (image : Image) (depth : ℕ) :
    Owned gettid (publishGraphDepth image gettid depth t) := by
  unfold Hook.publishGraphDepth
  split
  · exact h
  · split
    · exact h
    · exact h.currentTid.perform h.tid.currentTid

theorem publishFgraphWindowUpdate (h : Owned gettid t) (image : Image) {msg : FgraphWindowUpdate}
    (hm : msg.tid = gettid) : Owned gettid (publishFgraphWindowUpdate image msg t) := by
  unfold Hook.publishFgraphWindowUpdate
  split
  · exact h
  · split
    · exact h
    · exact h.perform hm

theorem logOpenLine (h : Owned gettid t) (cfg : Config) (tid : Pid) (toOpen : Option Frame) :
    Owned gettid (logOpenLine cfg tid toOpen t) := by
  cases toOpen with
  | none => exact h
  | some frame => exact h.perform trivial

theorem graphEnter (h : Owned gettid t) (image : Image) (clock : Clock) (func args : String) :
    Owned gettid (graphEnter image gettid clock func args t) := by
  have hstack : ∀ stack, Owned gettid { t with stack := stack } := fun _ => ⟨h.tid, h.records⟩
  exact (((hstack _).publishGraphDepth image _).currentTid.logOpenLine _ _ _).logOpenLine _ _ _

theorem graphExit (h : Owned gettid t) (image : Image) (clock : Clock) (ret : String) :
    Owned gettid (graphExit image gettid clock ret t) := by
  unfold Hook.graphExit
  split
  · exact h
  · rename_i frame stack _
    have hstack : Owned gettid { t with stack := stack } := ⟨h.tid, h.records⟩
    have htid := (hstack.publishGraphDepth image stack.length).currentTid
    dsimp only
    split
    · split
      · exact htid.perform (e := closeLine _ _ _ _ _) trivial
      · exact (htid.perform (e := openLine _ _ _) trivial).perform (e := closeLine _ _ _ _ _) trivial
    · exact htid.perform (e := leafLine _ _ _ _ _) trivial

theorem bypass (h : Owned gettid t) : Owned gettid t.bypass := ⟨h.tid, h.records⟩

theorem unbypass (h : Owned gettid t) : Owned gettid t.unbypass := ⟨h.tid, h.records⟩

theorem enterFgraphWindow (h : Owned gettid t) (image : Image) (func : String) (seqs : WindowSeq) :
    Owned gettid (enterFgraphWindowIfMatched image gettid func seqs t).2.2 := by
  unfold enterFgraphWindowIfMatched
  split
  · exact h
  · have hdepth : Owned gettid
        { t with fgraphWindowDepth := saturatingAddOne t.fgraphWindowDepth } := ⟨h.tid, h.records⟩
    exact hdepth.currentTid.publishFgraphWindowUpdate image hdepth.tid.currentTid

theorem enterLazy (h : Owned gettid t) (image : Image) (clock : Clock) (domain : TraceDomain)
    (func args : String) (seqs : WindowSeq) :
    Owned gettid (TraceScope.enterLazy image gettid clock domain func args seqs t).2.2 := by
  have hinner : Owned gettid (if t.hooksBlocked then (false, seqs, t)
      else enterFgraphWindowIfMatched image gettid func seqs t).2.2 := by
    split
    · exact h
    · exact h.enterFgraphWindow image func seqs
  unfold TraceScope.enterLazy
  split
  · exact h
  · dsimp only
    split
    · exact hinner
    · exact (hinner.bypass.graphEnter image clock func args).unbypass

theorem finish (h : Owned gettid t) (scope : TraceScope) (image : Image) (clock : Clock)
    (ret : String) : Owned gettid (scope.finish image gettid clock ret t) := by
  have hwindow : Owned gettid
      (exitFgraphWindowIfNeeded image gettid scope.fgraphWindowMatched t) := by
    unfold exitFgraphWindowIfNeeded
    split
    · exact h
    · have hdepth : Owned gettid
          { t with fgraphWindowDepth := saturatingSubOne t.fgraphWindowDepth } := ⟨h.tid, h.records⟩
      exact hdepth.currentTid.publishFgraphWindowUpdate image hdepth.tid.currentTid
  unfold TraceScope.finish
  dsimp only
  split
  · exact (hwindow.bypass.graphExit image clock ret).unbypass
  · exact hwindow

end Owned

/-! ### Runs -/

/-- A task whose log file, if it has one, is its own. -/
structure OwnLocals (t : Pid) (locals : TaskLocals) : Prop where
  thread : Owned t locals.thread
  sink : locals.sink = none ∨ locals.sink = some t

theorem OwnLocals.setThread {t : Pid} {locals : TaskLocals} (h : OwnLocals t locals)
    {thread : Thread} (ht : Owned t thread) : OwnLocals t { locals with thread := thread } :=
  ⟨ht, h.sink⟩

def Forest.Own (s : Forest) : Prop := ∀ t locals, s t = some locals → OwnLocals t locals

namespace Forest

variable {images : Pid → Image} {s s' : Forest} {l : ForestLabel} {seen : List Seen}

theorem Own.set (h : s.Own) {t : Pid} {locals : TaskLocals} (ht : OwnLocals t locals) :
    (s.set t locals).Own := by
  intro u locals' hu
  by_cases hut : u = t
  · subst hut
    rw [Forest.set, Function.update_self] at hu
    obtain rfl := Option.some.inj hu
    exact ht
  · rw [Forest.set, Function.update_of_ne hut] at hu
    exact h u locals' hu

end Forest

def captured (_ : Pid) : Image := captureImage

end CudaTrace.Hook
