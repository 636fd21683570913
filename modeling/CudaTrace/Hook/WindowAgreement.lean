import CudaTrace.Base.Transition
import CudaTrace.Hook.Scope

/-!
# Agreement on the open windows

The threads of a process enter and finish calls while the tracer drains the two
pipes. Each thread has a stack of open scopes; its records enter the pipes one by
one, between those of other threads.
-/

namespace CudaTrace.Hook
open CudaTrace.Base CudaTrace.Boot CudaTrace.Ptrace

/-- A scope in use, with its function and the number that the function got at its entry. -/
structure OpenScope where
  scope : TraceScope
  label : FgraphScopeLabel

/-- The labels of the matched scopes, outermost first. -/
def windowsOf (scopes : List OpenScope) : List FgraphScopeLabel :=
  (scopes.reverse.filter (·.scope.fgraphWindowMatched)).map OpenScope.label

theorem windowsOf_cons (o : OpenScope) (scopes : List OpenScope) :
    windowsOf (o :: scopes) =
      windowsOf scopes ++ if o.scope.fgraphWindowMatched then [o.label] else [] := by
  unfold windowsOf
  rw [List.reverse_cons, List.filter_append, List.map_append]
  cases h : o.scope.fgraphWindowMatched <;> simp [h]

/-- A hooked process and the tables its tracer keeps; the scopes of a thread are listed
innermost first. -/
structure Hooked where
  seqs : WindowSeq
  threads : Pid → Thread
  scopes : Pid → List OpenScope
  depthPipe : List DepthUpdate
  windowPipe : List FgraphWindowUpdate
  depthByTid : DepthByTid
  windowByTid : WindowByTid

def Hooked.initial : Hooked where
  seqs := fun _ => none
  threads := fun _ => .new
  scopes := fun _ => []
  depthPipe := []
  windowPipe := []
  depthByTid := fun _ => none
  windowByTid := fun _ => none

/-- `perform` lets the first waiting effect of a thread happen. -/
inductive HookLabel where
  | enter (t : Pid) (clock : Clock) (domain : TraceDomain) (func args : String)
  | finish (t : Pid) (clock : Clock) (ret : String)
  | bypass (t : Pid)
  | unbypass (t : Pid)
  | perform (t : Pid)
  | drainDepth (n : ℕ)
  | drainWindow (n : ℕ)

namespace Hooked

def setThread (s : Hooked) (t : Pid) (thread : Thread) : Hooked :=
  { s with threads := Function.update s.threads t thread }

/-- The thread has done all that its last call asked for. -/
def idle (s : Hooked) (t : Pid) : Bool := (s.threads t).effects.isEmpty

def enter (image : Image) (s : Hooked) (t : Pid) (clock : Clock) (domain : TraceDomain)
    (func args : String) : Hooked :=
  let (scope, seqs, thread) :=
    TraceScope.enterLazy image t clock domain func args s.seqs (s.threads t)
  { s.setThread t thread with
    seqs := seqs
    scopes := Function.update s.scopes t (⟨scope, func, (seqs func).getD 0⟩ :: s.scopes t) }

def performEffect (s : Hooked) : Effect → Hooked
  | .depth msg => { s with depthPipe := s.depthPipe ++ [msg] }
  | .window msg => { s with windowPipe := s.windowPipe ++ [msg] }
  | .line _ => s

def step (image : Image) (s : Hooked) : HookLabel → Option Hooked
  | .enter t clock domain func args =>
    if s.idle t then some (s.enter image t clock domain func args) else none
  | .finish t clock ret =>
    match s.scopes t with
    | [] => none
    | o :: rest =>
      if s.idle t then
        some { s.setThread t (o.scope.finish image t clock ret (s.threads t)) with
          scopes := Function.update s.scopes t rest }
      else none
  | .bypass t => if s.idle t then some (s.setThread t (s.threads t).bypass) else none
  | .unbypass t => if s.idle t then some (s.setThread t (s.threads t).unbypass) else none
  | .perform t =>
    match (s.threads t).effects with
    | [] => none
    | e :: rest => some ((s.setThread t { s.threads t with effects := rest }).performEffect e)
  | .drainDepth n =>
    some { s with
      depthPipe := s.depthPipe.drop n
      depthByTid := drainDepthUpdates (s.depthPipe.take n) s.depthByTid }
  | .drainWindow n =>
    some { s with
      windowPipe := s.windowPipe.drop n
      windowByTid := drainFgraphWindowUpdates (s.windowPipe.take n) s.windowByTid }

def openWindows (s : Hooked) (t : Pid) : List FgraphScopeLabel := windowsOf (s.scopes t)

/-- All window records of the thread so far have been applied. -/
def Settled (s : Hooked) (t : Pid) : Prop :=
  (s.threads t).windowOut = [] ∧ ∀ msg ∈ s.windowPipe, msg.tid ≠ t

end Hooked

def hooked (image : Image) : System Hooked HookLabel :=
  System.ofPartial (· = Hooked.initial) (Hooked.step image)

/-- The name of an entered function fits its field of the record. -/
def HookLabel.NameFits : HookLabel → Prop
  | .enter _ _ _ func _ => (utf8Bytes func).length ≤ fgraphFuncNameMax ∧ 0 ∉ utf8Bytes func
  | _ => True

instance : DecidablePred HookLabel.NameFits
  | .enter _ _ _ func _ =>
    inferInstanceAs (Decidable ((utf8Bytes func).length ≤ fgraphFuncNameMax ∧ 0 ∉ utf8Bytes func))
  | .finish _ _ _ | .bypass _ | .unbypass _ | .perform _ | .drainDepth _ | .drainWindow _ =>
    .isTrue trivial

/-- No thread has 2^32 open windows. -/
def Hooked.Shallow (s : Hooked) : Prop := ∀ t, (s.openWindows t).length < 2 ^ 32

/-! ### The invariant of a thread -/

structure WindowInv (image : Image) (t : Pid) (thread : Thread) (scopes : List OpenScope)
    (pipe : List FgraphWindowUpdate) (table : WindowByTid) : Prop where
  tid : thread.KnowsTid t
  depth : thread.fgraphWindowDepth.toNat = (windowsOf scopes).length
  matched : ∀ o ∈ scopes, o.scope.fgraphWindowMatched = true →
    image.inTracerProcess = false ∧ image.config.fgraphEnabled = true
  inStep : InStep (·.tid) FgraphWindowUpdate.applyTo t thread.windowOut pipe table
    (windowEntry (windowsOf scopes))

def Hooked.WindowInv (image : Image) (s : Hooked) (t : Pid) : Prop :=
  Hook.WindowInv image t (s.threads t) (s.scopes t) s.windowPipe s.windowByTid

namespace WindowInv

variable {image : Image} {t : Pid} {thread thread' : Thread} {scopes scopes' : List OpenScope}
  {pipe : List FgraphWindowUpdate} {table : WindowByTid}

theorem initial (image : Image) (t : Pid) : Hooked.initial.WindowInv image t :=
  ⟨Or.inl rfl, rfl, fun _ ho => absurd ho List.not_mem_nil,
    ⟨fun _ hm => absurd hm List.not_mem_nil, rfl⟩⟩

/-- A step of the thread that opens and closes no window. -/
theorem same (h : WindowInv image t thread scopes pipe table) (hs : SameWindow t thread thread')
    (hw : windowsOf scopes' = windowsOf scopes)
    (hm : ∀ o ∈ scopes', o ∈ scopes ∨ o.scope.fgraphWindowMatched = false) :
    WindowInv image t thread' scopes' pipe table := by
  refine ⟨hs.tid h.tid, ?_, fun o ho hmo => ?_, ?_⟩
  · rw [hs.depth, hw]
    exact h.depth
  · rcases hm o ho with ho' | ho'
    · exact h.matched o ho' hmo
    · rw [ho'] at hmo
      cases hmo
  · rw [hs.out, hw]
    exact h.inStep

/-- A step of the thread that opens or closes a window. -/
theorem moves (h : WindowInv image t thread scopes pipe table) {depth : U64}
    {msg : FgraphWindowUpdate} (hmove : MovesWindow t depth msg thread thread') (htid : msg.tid = t)
    (hd : depth.toNat = (windowsOf scopes').length)
    (hm : ∀ o ∈ scopes', o.scope.fgraphWindowMatched = true →
      image.inTracerProcess = false ∧ image.config.fgraphEnabled = true)
    (happly : msg.applyTo (windowEntry (windowsOf scopes)) = windowEntry (windowsOf scopes')) :
    WindowInv image t thread' scopes' pipe table := by
  refine ⟨hmove.tid, hmove.depth ▸ hd, hm, ?_⟩
  rw [hmove.out]
  exact h.inStep.post htid happly

/-- The thread's first waiting effect happens. -/
theorem performs (h : WindowInv image t thread scopes pipe table) {e : Effect} {rest : List Effect}
    (he : thread.effects = e :: rest) :
    WindowInv image t { thread with effects := rest } scopes
      (match e with
      | .window msg => pipe ++ [msg]
      | _ => pipe) table := by
  have hout := h.inStep
  unfold Thread.windowOut at hout
  rw [he] at hout
  refine ⟨h.tid, h.depth, h.matched, ?_⟩
  cases e with
  | depth msg => exact hout
  | line text => exact hout
  | window msg => exact hout.send

/-- A record of another thread enters the pipe. -/
theorem other (h : WindowInv image t thread scopes pipe table) {msg : FgraphWindowUpdate}
    (hne : msg.tid ≠ t) : WindowInv image t thread scopes (pipe ++ [msg]) table :=
  ⟨h.tid, h.depth, h.matched, h.inStep.send_other hne⟩

theorem drained (h : WindowInv image t thread scopes pipe table) (n : ℕ) :
    WindowInv image t thread scopes (pipe.drop n)
      (drainFgraphWindowUpdates (pipe.take n) table) := by
  rw [drainFgraphWindowUpdates_eq]
  exact ⟨h.tid, h.depth, h.matched, h.inStep.receive n⟩

end WindowInv

/-! ### One step -/

section

variable {image : Image} {s s' : Hooked}

theorem enter_inv (hpipe : WindowPipe image) {t : Pid} (h : s.WindowInv image t) {clock : Clock}
    {domain : TraceDomain} {func args : String}
    (hlen : (utf8Bytes func).length ≤ fgraphFuncNameMax) (h0 : 0 ∉ utf8Bytes func)
    (hshallow : ((s.enter image t clock domain func args).openWindows t).length < 2 ^ 32) :
    (s.enter image t clock domain func args).WindowInv image t := by
  obtain ⟨⟨scope, seqs, thread⟩, hr⟩ : ∃ r, TraceScope.enterLazy image t clock domain func args
      s.seqs (s.threads t) = r := ⟨_, rfl⟩
  unfold Hooked.openWindows at hshallow
  unfold Hooked.WindowInv
  simp only [Hooked.enter, hr, Hooked.setThread, Function.update_self] at hshallow ⊢
  rcases enterLazy_cases hpipe h.tid hr with ⟨hm, hs⟩ | ⟨hm, ht, hf, seq, hseq, hmove⟩
  · refine h.same hs ?_ fun o ho => ?_
    · rw [windowsOf_cons, hm]
      exact List.append_nil _
    · rcases List.mem_cons.mp ho with rfl | ho
      · exact Or.inr hm
      · exact Or.inl ho
  · rw [hseq] at hshallow ⊢
    have hcons : windowsOf (⟨scope, func, seq⟩ :: s.scopes t) =
        windowsOf (s.scopes t) ++ [⟨func, seq⟩] := by
      rw [windowsOf_cons, hm, if_pos rfl]
    have hlt : (windowsOf (s.scopes t)).length + 1 < 2 ^ 32 := by
      have hlt := hshallow
      rw [Option.getD_some, hcons, List.length_append, List.length_singleton] at hlt
      exact hlt
    have hdepth : (saturatingAddOne (s.threads t).fgraphWindowDepth).toNat =
        (windowsOf (s.scopes t)).length + 1 := by
      rw [saturatingAddOne_toNat (by rw [h.depth]; omega), h.depth]
    refine h.moves hmove rfl ?_ (fun o ho _ => ⟨ht, hf⟩) ?_
    · rw [Option.getD_some, hcons, List.length_append, List.length_singleton]
      exact hdepth
    · rw [Option.getD_some, hcons, applyTo_enter rfl, funcName_setFunc func hlen h0]
      rw [clampU32_toNat, hdepth]
      omega

theorem finish_inv (hpipe : WindowPipe image) {t : Pid} (h : s.WindowInv image t) {o : OpenScope}
    {rest : List OpenScope} (ho : s.scopes t = o :: rest)
    (hshallow : (s.openWindows t).length < 2 ^ 32) (clock : Clock) (ret : String) :
    WindowInv image t (o.scope.finish image t clock ret (s.threads t)) rest s.windowPipe
      s.windowByTid := by
  unfold Hooked.openWindows at hshallow
  unfold Hooked.WindowInv at h
  rw [ho] at h hshallow
  rcases finish_cases hpipe h.tid o.scope (h.matched o List.mem_cons_self) clock ret with
    ⟨hm, hs⟩ | ⟨hm, hmove⟩
  · refine h.same hs ?_ fun o' ho' => Or.inl (List.mem_cons_of_mem o ho')
    rw [windowsOf_cons, hm]
    exact (List.append_nil _).symm
  · have hcons : windowsOf (o :: rest) = windowsOf rest ++ [o.label] := by
      rw [windowsOf_cons, hm, if_pos rfl]
    have hdepth : (saturatingSubOne (s.threads t).fgraphWindowDepth).toNat =
        (windowsOf rest).length := by
      rw [saturatingSubOne_toNat, h.depth, hcons, List.length_append, List.length_singleton]
      rfl
    refine h.moves hmove rfl hdepth (fun o' ho' => h.matched o' (List.mem_cons_of_mem o ho')) ?_
    rw [hcons] at hshallow ⊢
    rw [List.length_append, List.length_singleton] at hshallow
    refine applyTo_exit rfl ?_
    rw [clampU32_toNat, hdepth]
    omega

/-- A step of thread `a` that leaves pipe and table alone. -/
theorem frame_inv {a : Pid} (hinv : ∀ t, s.WindowInv image t) (ha : s'.WindowInv image a)
    (hthreads : ∀ t, t ≠ a → s'.threads t = s.threads t)
    (hscopes : ∀ t, t ≠ a → s'.scopes t = s.scopes t) (hp : s'.windowPipe = s.windowPipe)
    (hw : s'.windowByTid = s.windowByTid) (t : Pid) : s'.WindowInv image t := by
  by_cases ht : t = a
  · rw [ht]
    exact ha
  · have hframe := hinv t
    unfold Hooked.WindowInv at hframe ⊢
    rw [hthreads t ht, hscopes t ht, hp, hw]
    exact hframe

/-- A change of a thread's cells that does not concern windows. -/
theorem setThread_inv {a : Pid} (hinv : ∀ t, s.WindowInv image t) {thread : Thread}
    (hs : SameWindow a (s.threads a) thread) (t : Pid) :
    (s.setThread a thread).WindowInv image t := by
  have hothers : ∀ u, u ≠ a → (s.setThread a thread).threads u = s.threads u :=
    fun u hu => Function.update_of_ne hu _ _
  refine frame_inv hinv ?_ hothers (fun _ _ => rfl) rfl rfl t
  have hsame := (hinv a).same hs rfl fun o ho => Or.inl ho
  unfold Hooked.WindowInv
  simpa only [Hooked.setThread, Function.update_self] using hsame

/-- An effect of one thread leaves the windows of the others as they are. -/
theorem perform_inv {a : Pid} {e : Effect} {rest : List Effect} (hinv : ∀ t, s.WindowInv image t)
    (he : (s.threads a).effects = e :: rest) (t : Pid) :
    ((s.setThread a { s.threads a with effects := rest }).performEffect e).WindowInv image t := by
  by_cases ht : t = a
  · subst ht
    have hp := (hinv t).performs he
    unfold Hooked.WindowInv
    cases e <;>
      simpa only [Hooked.performEffect, Hooked.setThread, Function.update_self] using hp
  · have hframe := hinv t
    unfold Hooked.WindowInv at hframe ⊢
    cases e with
    | window msg =>
      have hout : msg ∈ (s.threads a).windowOut := by
        unfold Thread.windowOut
        rw [he]
        exact List.mem_cons_self
      have hne : msg.tid ≠ t := by
        rw [(hinv a).inStep.own msg hout]
        exact Ne.symm ht
      have hother := hframe.other hne
      simpa only [Hooked.performEffect, Hooked.setThread, Function.update_of_ne ht] using hother
    | _ => simpa only [Hooked.performEffect, Hooked.setThread, Function.update_of_ne ht] using hframe

theorem step_inv (hpipe : WindowPipe image) {l : HookLabel} (hinv : ∀ t, s.WindowInv image t)
    (hname : l.NameFits) (hold : s.Shallow) (hnew : s'.Shallow) (h : s.step image l = some s')
    (t : Pid) : s'.WindowInv image t := by
  cases l with
  | enter a clock domain func args =>
    obtain ⟨-, he⟩ := Option.ite_none_right_eq_some.mp h
    obtain rfl := Option.some.inj he
    exact frame_inv hinv (enter_inv hpipe (hinv a) hname.1 hname.2 (hnew a))
      (fun t ht => Function.update_of_ne ht _ _) (fun t ht => Function.update_of_ne ht _ _)
      rfl rfl t
  | finish a clock ret =>
    simp only [Hooked.step] at h
    split at h
    · cases h
    · rename_i o rest ho
      obtain ⟨-, he⟩ := Option.ite_none_right_eq_some.mp h
      obtain rfl := Option.some.inj he
      have hfin := finish_inv hpipe (hinv a) ho (hold a) clock ret
      have hself : Hooked.WindowInv image
          { s.setThread a (o.scope.finish image a clock ret (s.threads a)) with
            scopes := Function.update s.scopes a rest } a := by
        unfold Hooked.WindowInv
        simpa only [Hooked.setThread, Function.update_self] using hfin
      exact frame_inv hinv hself (fun u hu => Function.update_of_ne hu _ _)
        (fun u hu => Function.update_of_ne hu _ _) rfl rfl t
  | bypass a =>
    obtain ⟨-, he⟩ := Option.ite_none_right_eq_some.mp h
    obtain rfl := Option.some.inj he
    exact setThread_inv hinv (.bypass _) t
  | unbypass a =>
    obtain ⟨-, he⟩ := Option.ite_none_right_eq_some.mp h
    obtain rfl := Option.some.inj he
    exact setThread_inv hinv (.unbypass _) t
  | perform a =>
    simp only [Hooked.step] at h
    split at h
    · cases h
    · rename_i e rest he
      obtain rfl := Option.some.inj h
      exact perform_inv hinv he t
  | drainDepth n =>
    obtain rfl := Option.some.inj h
    exact hinv t
  | drainWindow n =>
    obtain rfl := Option.some.inj h
    exact (hinv t).drained n

end

/-- A run in which every name fits and no thread gets 2^32 windows deep. -/
def Hooked.Fits (image : Image) (s : Hooked) (l : HookLabel) : Prop :=
  l.NameFits ∧ ∀ s', s.step image l = some s' → s'.Shallow

theorem reach_inv {image : Image} (hpipe : WindowPipe image) {s : Hooked}
    (h : (hooked image).Reach (Hooked.Fits image) s) : s.Shallow ∧ ∀ t, s.WindowInv image t := by
  induction h with
  | start h0 =>
    obtain rfl := h0
    exact ⟨fun t => Nat.two_pow_pos 32, WindowInv.initial image⟩
  | step _ hok hs ih =>
    obtain ⟨hname, hnext⟩ := hok
    exact ⟨hnext _ hs, step_inv hpipe ih.2 hname ih.1 (hnext _ hs) hs⟩

/-- One step opens at most one window. -/
theorem step_openWindows {image : Image} {s s' : Hooked} {l : HookLabel}
    (h : s.step image l = some s') (t : Pid) :
    (s'.openWindows t).length ≤ (s.openWindows t).length + 1 := by
  have hcons : ∀ (o : OpenScope) (scopes : List OpenScope),
      (windowsOf scopes).length ≤ (windowsOf (o :: scopes)).length ∧
      (windowsOf (o :: scopes)).length ≤ (windowsOf scopes).length + 1 := by
    intro o scopes
    rw [windowsOf_cons, List.length_append]
    split <;> simp
  have hupdate : ∀ (a : Pid) (scopes : List OpenScope),
      (windowsOf scopes).length ≤ (s.openWindows a).length + 1 →
      (windowsOf (Function.update s.scopes a scopes t)).length ≤ (s.openWindows t).length + 1 := by
    intro a scopes hle
    by_cases ht : t = a
    · subst ht
      rw [Function.update_self]
      exact hle
    · rw [Function.update_of_ne ht]
      exact Nat.le_succ _
  cases l with
  | enter a clock domain func args =>
    obtain ⟨-, he⟩ := Option.ite_none_right_eq_some.mp h
    obtain rfl := Option.some.inj he
    exact hupdate a _ (hcons _ _).2
  | finish a clock ret =>
    simp only [Hooked.step] at h
    split at h
    · cases h
    · rename_i o rest ho
      obtain ⟨-, he⟩ := Option.ite_none_right_eq_some.mp h
      obtain rfl := Option.some.inj he
      refine hupdate a rest ?_
      rw [Hooked.openWindows, ho]
      exact (hcons o rest).1.trans (Nat.le_succ _)
  | bypass a | unbypass a =>
    obtain ⟨-, he⟩ := Option.ite_none_right_eq_some.mp h
    obtain rfl := Option.some.inj he
    exact Nat.le_succ _
  | perform a =>
    simp only [Hooked.step] at h
    split at h
    · cases h
    · rename_i e rest he
      obtain rfl := Option.some.inj h
      cases e <;> exact Nat.le_succ _
  | drainDepth n | drainWindow n =>
    obtain rfl := Option.some.inj h
    exact Nat.le_succ _

/-- Runs of fewer than 2^32 steps stay shallow. -/
theorem fits_of_run {image : Image} {s s' : Hooked} {ls : List HookLabel}
    (h : (hooked image).Reach (Hooked.Fits image) s) (hnames : ∀ l ∈ ls, l.NameFits)
    (hlen : ∀ t, (s.openWindows t).length + ls.length < 2 ^ 32)
    (hr : ls.foldlM (Hooked.step image) s = some s') :
    (hooked image).Reach (Hooked.Fits image) s' := by
  induction ls generalizing s with
  | nil =>
    obtain rfl : s = s' := Option.some.inj hr
    exact h
  | cons l ls ih =>
    rw [List.foldlM_cons] at hr
    obtain ⟨mid, hmid, hrest⟩ := Option.bind_eq_some_iff.mp hr
    have hnext : ∀ t, (mid.openWindows t).length + ls.length < 2 ^ 32 := by
      intro t
      have hone := step_openWindows hmid t
      have hall := hlen t
      rw [List.length_cons] at hall
      omega
    have hfits : s.Fits image l := by
      refine ⟨hnames l List.mem_cons_self, fun u hu t => ?_⟩
      obtain rfl : mid = u := Option.some.inj (hmid.symm.trans hu)
      exact Nat.lt_of_le_of_lt (Nat.le_add_right _ _) (hnext t)
    exact ih (.step h hfits hmid) (fun l hl => hnames l (List.mem_cons_of_mem _ hl)) hnext hrest

/-- Once the records of a thread have been applied, its entry is what its open scopes
say, and records of a thread never matter to the entries of others. -/
theorem window_agreement {cfg : Config} {a : StartAnswers} {image : Image}
    (hstart : ensureStarted cfg a none = .ok image) (hpipe : 0 ≤ image.fgraphWindowPipeWrFd.toInt)
    {s : Hooked} (h : (hooked image).Reach (Hooked.Fits image) s) (t : Pid) :
    (s.Settled t → s.windowByTid t = windowEntry (s.openWindows t)) ∧
    ∀ records u, u ≠ t → drainFgraphWindowUpdates records s.windowByTid u =
      drainFgraphWindowUpdates (records.filter (·.tid ≠ t)) s.windowByTid u := by
  obtain ⟨hcfg, -, hsys⟩ := ensureStarted_image hstart
  have hwp : WindowPipe image := ⟨by rw [hcfg]; exact hsys, hpipe⟩
  refine ⟨fun hset => ?_, fun records u hu => ?_⟩
  · exact ((reach_inv hwp h).2 t).inStep.settled hset.1 hset.2
  · rw [drainFgraphWindowUpdates_eq, drainFgraphWindowUpdates_eq]
    exact (applyAll_filter_ne records s.windowByTid (Ne.symm hu)).symm

/-! ### 2^32 open windows -/

def captureConfig : Config where
  output := .file
  path := "./cudatrace.output"
  trace := ⟨false, false, true⟩
  ioctlDecode := .full
  maxBlob := 256
  timeUnit := .us
  leftMeta := .off
  fgraphFuncs := ["cuInit"]
  fgraphBufferKb := 16384

def startAnswers : StartAnswers where
  preflight := .ok ()
  handshakePipe := some ⟨3, 4⟩
  depthPipe := some ⟨5, 6⟩
  fgraphWindowPipe := some ⟨7, 8⟩
  fork := some 101
  ready := signalReady true

def captureImage : Image := ⟨captureConfig, false, 6, 8⟩

theorem captureImage_started : ensureStarted captureConfig startAnswers none = .ok captureImage :=
  rfl

/-- Two threads with windows open at the same time; thread 1 has two. -/
def interleavedRun : List HookLabel :=
  [.enter 1 ⟨0, 0⟩ .driver "cuInit" "", .enter 2 ⟨0, 0⟩ .driver "cuInit" "", .perform 2, .perform 1,
    .drainWindow 1, .enter 1 ⟨0, 0⟩ .driver "cuInit" "", .finish 2 ⟨0, 0⟩ "0", .perform 1,
    .drainWindow 2, .perform 2]

theorem window_agreement_interleaved :
    ∃ s, interleavedRun.foldlM (Hooked.step captureImage) .initial = some s ∧
      s.windowByTid 1 = some ⟨2, [⟨"cuInit", 1⟩, ⟨"cuInit", 3⟩]⟩ := by
  refine ⟨_, rfl, ?_⟩
  have hreach := @fits_of_run captureImage _ _ interleavedRun (.start rfl) (by decide)
    (fun t => (by decide : 0 + 10 < 2 ^ 32)) rfl
  exact (window_agreement captureImage_started (by decide) hreach 1).1 ⟨rfl, by decide⟩

/-- Thread 1 sits `n` windows deep and the tracer has seen all of them. -/
structure Nested (n : ℕ) (s : Hooked) : Prop where
  reach : (hooked captureImage).Reach (fun _ l => l.NameFits) s
  effects : (s.threads 1).effects = []
  cachedTid : (s.threads 1).cachedTid = 0 ∨ (s.threads 1).cachedTid = 1
  bypassDepth : (s.threads 1).bypassDepth = 0
  depth : (s.threads 1).fgraphWindowDepth.toNat = n
  windows : (s.openWindows 1).length = n
  pipe : s.windowPipe = []
  seen : n = 0 ∨ windowDepth s.windowByTid 1 = min n (2 ^ 32 - 1)

theorem nested_zero : Nested 0 Hooked.initial :=
  ⟨.start rfl, rfl, Or.inl rfl, rfl, rfl, rfl, rfl, Or.inl rfl⟩

theorem enterLazy_capture (clock : Clock) (args : String) (seqs : WindowSeq) {t : Thread}
    (hb : t.bypassDepth = 0) :
    TraceScope.enterLazy captureImage 1 clock .driver "cuInit" args seqs t =
      (⟨none, true⟩, (nextFgraphWindowSeq "cuInit" seqs).2,
        publishFgraphWindowEnter captureImage 1 (saturatingAddOne t.fgraphWindowDepth) "cuInit"
          (nextFgraphWindowSeq "cuInit" seqs).1
          { t with fgraphWindowDepth := saturatingAddOne t.fgraphWindowDepth }) := by
  have hblocked : t.hooksBlocked = false := by
    rw [Thread.hooksBlocked, hb]
    rfl
  have hmatch : (!captureImage.config.fgraphEnabled || !captureImage.config.fgraphMatch "cuInit") =
      false := by decide
  have hdomain : (!captureImage.config.traceEnabled .driver) = true := rfl
  simp only [TraceScope.enterLazy, hblocked, enterFgraphWindowIfMatched, hmatch, hdomain,
    Bool.true_or, if_true, Bool.false_eq_true, if_false]
  rfl

theorem publishEnter_capture (depth : U64) (func : String) (seq : U32) {t : Thread}
    (hk : t.KnowsTid 1) :
    ∃ c, (c = 0 ∨ c = 1) ∧ publishFgraphWindowEnter captureImage 1 depth func seq t =
      { t with
        cachedTid := c
        effects := t.effects ++
          [.window ⟨1, clampU32 depth.toNat, seq, fgraphWindowEventEnter, setFunc func⟩] } := by
  have hpub : ∀ tid u, publishFgraphWindowUpdate captureImage
      ⟨tid, clampU32 depth.toNat, seq, fgraphWindowEventEnter, setFunc func⟩ u =
      u.perform (.window ⟨tid, clampU32 depth.toNat, seq, fgraphWindowEventEnter, setFunc func⟩) :=
    fun _ _ => rfl
  unfold publishFgraphWindowEnter
  dsimp only
  rw [hk.currentTid, hpub]
  unfold Thread.currentTid
  split
  · exact ⟨t.cachedTid, hk, rfl⟩
  · exact ⟨1, Or.inr rfl, rfl⟩

/-- The only waiting effect of a thread is sent through the empty pipe and received. -/
theorem delivered {image : Image} {ok : Hooked → HookLabel → Prop} {s : Hooked} {t : Pid}
    {msg : FgraphWindowUpdate} (h : (hooked image).Reach ok s)
    (hsend : ∀ s, ok s (.perform t)) (hdrain : ∀ s, ok s (.drainWindow 1))
    (he : (s.threads t).effects = [.window msg]) (hp : s.windowPipe = []) :
    (hooked image).Reach ok { s.setThread t { s.threads t with effects := [] } with
      windowPipe := []
      windowByTid := applyFgraphWindowUpdate msg s.windowByTid } := by
  have hsent : s.step image (.perform t) =
      some { s.setThread t { s.threads t with effects := [] } with windowPipe := [msg] } := by
    simp only [Hooked.step, he, Hooked.performEffect, Hooked.setThread, hp, List.nil_append]
  exact .step (.step h (hsend s) hsent) (hdrain _) rfl

theorem Nested.deeper {n : ℕ} {s : Hooked} (h : Nested n s) (hn : n < 2 ^ 32) :
    ∃ s', Nested (n + 1) s' := by
  obtain ⟨depth, hdef⟩ : ∃ d, saturatingAddOne (s.threads 1).fgraphWindowDepth = d := ⟨_, rfl⟩
  have hdepth : depth.toNat = n + 1 := by
    rw [← hdef, saturatingAddOne_toNat (by rw [h.depth]; omega), h.depth]
  obtain ⟨c, hc, hpub⟩ := @publishEnter_capture depth "cuInit"
    (nextFgraphWindowSeq "cuInit" s.seqs).1 { s.threads 1 with fgraphWindowDepth := depth }
    h.cachedTid
  have henter := enterLazy_capture ⟨0, 0⟩ "" s.seqs h.bypassDepth
  rw [hdef, hpub] at henter
  obtain ⟨s', hs'⟩ : ∃ s', s.enter captureImage 1 ⟨0, 0⟩ .driver "cuInit" "" = s' := ⟨_, rfl⟩
  have hreach : (hooked captureImage).Reach (fun _ l => l.NameFits) s' := by
    have hidle : s.idle 1 = true := by
      rw [Hooked.idle, h.effects]
      rfl
    have hfits : (HookLabel.enter 1 ⟨0, 0⟩ .driver "cuInit" "").NameFits :=
      ⟨by decide, by decide⟩
    rw [← hs']
    exact .step h.reach hfits (if_pos hidle)
  have hthread : s'.threads 1 = { s.threads 1 with
      cachedTid := c
      fgraphWindowDepth := depth
      effects := [.window ⟨1, clampU32 depth.toNat, (nextFgraphWindowSeq "cuInit" s.seqs).1,
        fgraphWindowEventEnter, setFunc "cuInit"⟩] } := by
    simp only [← hs', Hooked.enter, henter, Hooked.setThread, Function.update_self, h.effects,
      List.nil_append]
  have hscopes : (s'.openWindows 1).length = n + 1 := by
    have hold := h.windows
    unfold Hooked.openWindows at hold ⊢
    simp only [← hs', Hooked.enter, henter, Function.update_self]
    rw [windowsOf_cons, if_pos rfl, List.length_append, hold, List.length_singleton]
  have hpipe : s'.windowPipe = [] := by
    rw [← hs']
    exact h.pipe
  have heffects := congrArg Thread.effects hthread
  refine ⟨_, delivered hreach (fun _ => trivial) (fun _ => trivial) heffects hpipe, ?_, ?_, ?_, ?_,
    hscopes, rfl, Or.inr ?_⟩
  · simp only [Hooked.setThread, Function.update_self]
  · simp only [Hooked.setThread, Function.update_self, hthread]
    exact hc
  · simp only [Hooked.setThread, Function.update_self, hthread]
    exact h.bypassDepth
  · simp only [Hooked.setThread, Function.update_self, hthread]
    exact hdepth
  · have hclamp : (clampU32 depth.toNat).toNat = min (n + 1) (2 ^ 32 - 1) := by
      rw [clampU32_toNat, hdepth]
    have hpos : min (n + 1) (2 ^ 32 - 1) ≠ 0 := by omega
    simp only [applyFgraphWindowUpdate_eq, windowDepth, applyAt_eq, if_true,
      FgraphWindowUpdate.applyTo, hclamp, hpos, if_false]

theorem exists_nested (n : ℕ) (hn : n ≤ 2 ^ 32) : ∃ s, Nested n s := by
  induction n with
  | zero => exact ⟨_, nested_zero⟩
  | succ n ih =>
    obtain ⟨s, hs⟩ := ih (by omega)
    exact hs.deeper (by omega)

/-- At 2^32 open windows the recorded depth is one too small. -/
theorem deepest_window_disagrees :
    ensureStarted captureConfig startAnswers none = .ok captureImage ∧
    ∃ s, (hooked captureImage).Reach (fun _ l => l.NameFits) s ∧ s.Settled 1 ∧
      (s.openWindows 1).length = 2 ^ 32 ∧ s.windowByTid 1 ≠ windowEntry (s.openWindows 1) := by
  refine ⟨rfl, ?_⟩
  obtain ⟨s, h⟩ := exists_nested (2 ^ 32) le_rfl
  refine ⟨s, h.reach, ⟨?_, ?_⟩, h.windows, fun he => ?_⟩
  · rw [Thread.windowOut, h.effects]
    rfl
  · rw [h.pipe]
    exact fun msg hmsg => absurd hmsg List.not_mem_nil
  · have hseen : windowDepth s.windowByTid 1 = 2 ^ 32 - 1 := by
      rcases h.seen with h0 | h0
      · cases h0
      · exact h0
    have hlen : (s.openWindows 1).isEmpty = false := by
      rw [List.isEmpty_eq_false_iff, ← List.length_pos_iff, h.windows]
      decide
    rw [windowDepth, he, windowEntry, hlen, if_neg (by decide)] at hseen
    have hbig := hseen.symm.trans h.windows
    omega

end CudaTrace.Hook
