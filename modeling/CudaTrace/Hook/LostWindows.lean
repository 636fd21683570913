import CudaTrace.Base.LostUpdates
import CudaTrace.Hook.WindowAgreement

/-!
# Window records that get lost

The publisher drops a record when the pipe is full. One thread, each of whose records may
be dropped, and the table of the tracer once the records that are left have been applied.
-/

namespace CudaTrace.Hook
open CudaTrace.Base CudaTrace.Boot CudaTrace.Ptrace

/-! ### Labels of an entry -/

def labelText (label : FgraphScopeLabel) : String :=
  label.func ++ toString label.seq.toNat

def labelsOf (entry : Option FgraphWindowState) : List FgraphScopeLabel :=
  (entry.getD .default).labels

theorem currentFgraphScopeLabel_eq (tid : Pid) (windowByTid : WindowByTid) :
    currentFgraphScopeLabel tid windowByTid =
      (labelsOf (windowByTid tid)).getLast?.map labelText := by
  unfold currentFgraphScopeLabel labelsOf
  cases windowByTid tid with
  | none => rfl
  | some state => rfl

theorem labelsOf_enter {msg : FgraphWindowUpdate} {n : ℕ} (hev : msg.event = fgraphWindowEventEnter)
    (hd : msg.depth.toNat = n + 1) (entry : Option FgraphWindowState) :
    labelsOf (msg.applyTo entry) = (labelsOf entry).take n ++ [⟨funcName msg.func, msg.seq⟩] := by
  simp only [FgraphWindowUpdate.applyTo, hev, hd, Nat.succ_ne_zero, if_false, if_true]
  rfl

theorem labelsOf_exit {msg : FgraphWindowUpdate} {n : ℕ} (hev : msg.event = fgraphWindowEventExit)
    (hd : msg.depth.toNat = n) (entry : Option FgraphWindowState) :
    labelsOf (msg.applyTo entry) = (labelsOf entry).take n := by
  have hne : msg.event ≠ fgraphWindowEventEnter := by
    rw [hev]
    decide
  simp only [FgraphWindowUpdate.applyTo, hne, hd, if_false]
  split
  · rename_i hzero
    rw [hzero, List.take_zero]
    rfl
  · rfl

/-! ### A thread that loses records -/

/-- A scope in use; its window counts only when the scope is matched. -/
structure LossyScope where
  scope : TraceScope
  window : Announced FgraphScopeLabel

/-- The last window record of the thread, and whether it arrived. -/
inductive Latest where
  | enter (arrived : Bool)
  | exit (arrived : Bool)

/-- The scopes of the thread, innermost first, and the closed ones with what got lost. -/
structure Lossy where
  seqs : WindowSeq
  thread : Thread
  scopes : List LossyScope
  departed : List (Departed FgraphScopeLabel)
  latest : Latest
  windowByTid : WindowByTid

def Lossy.initial : Lossy where
  seqs := fun _ => none
  thread := .new
  scopes := []
  departed := []
  latest := .exit true
  windowByTid := fun _ => none

/-- `others` is what other threads do: sequence numbers and records that arrive. -/
inductive LossyLabel where
  | enter (clock : Clock) (domain : TraceDomain) (func args : String) (arrives : Bool)
  | finish (clock : Clock) (ret : String) (arrives : Bool)
  | bypass
  | unbypass
  | others (seqs : WindowSeq) (records : List FgraphWindowUpdate)

/-- The windows of the matched scopes, outermost first. -/
def lossyWindows (scopes : List LossyScope) : List (Announced FgraphScopeLabel) :=
  (scopes.reverse.filter (·.scope.fgraphWindowMatched)).map LossyScope.window

namespace Lossy

def openWindows (s : Lossy) : List (Announced FgraphScopeLabel) := lossyWindows s.scopes

/-- The thread has run; its record arrives or is dropped. -/
def send (s : Lossy) (thread : Thread) (arrives : Bool) : Lossy :=
  { s with
    thread := { thread with effects := [] }
    windowByTid :=
      if arrives then drainFgraphWindowUpdates thread.windowOut s.windowByTid else s.windowByTid }

def enter (image : Image) (t : Pid) (s : Lossy) (clock : Clock) (domain : TraceDomain)
    (func args : String) (arrives : Bool) : Lossy :=
  let (scope, seqs, thread) :=
    TraceScope.enterLazy image t clock domain func args s.seqs s.thread
  { s.send thread arrives with
    seqs := seqs
    scopes := ⟨scope, ⟨func, (seqs func).getD 0⟩, arrives⟩ :: s.scopes
    latest := if scope.fgraphWindowMatched then .enter arrives else s.latest }

def finish (image : Image) (t : Pid) (s : Lossy) (o : LossyScope) (rest : List LossyScope)
    (clock : Clock) (ret : String) (arrives : Bool) : Lossy :=
  { s.send (o.scope.finish image t clock ret s.thread) arrives with
    scopes := rest
    departed :=
      if o.scope.fgraphWindowMatched then
        ⟨o.window.value, !arrives, !allArrived (lossyWindows rest)⟩ :: s.departed
      else s.departed
    latest := if o.scope.fgraphWindowMatched then .exit arrives else s.latest }

def step (image : Image) (t : Pid) (s : Lossy) : LossyLabel → Option Lossy
  | .enter clock domain func args arrives =>
    some (s.enter image t clock domain func args arrives)
  | .finish clock ret arrives =>
    match s.scopes with
    | [] => none
    | o :: rest => some (s.finish image t o rest clock ret arrives)
  | .bypass => some { s with thread := s.thread.bypass }
  | .unbypass => some { s with thread := s.thread.unbypass }
  | .others seqs records =>
    if records.all (·.tid ≠ t) then
      some { s with
        seqs := seqs
        windowByTid := drainFgraphWindowUpdates records s.windowByTid }
    else none

end Lossy

def lossy (image : Image) (t : Pid) : System Lossy LossyLabel :=
  System.ofPartial (· = Lossy.initial) (Lossy.step image t)

/-- The name of an entered function fits its field of the record. -/
def LossyLabel.NameFits : LossyLabel → Prop
  | .enter _ _ func _ _ => (utf8Bytes func).length ≤ fgraphFuncNameMax ∧ 0 ∉ utf8Bytes func
  | _ => True

/-- A run in which every name fits and the thread does not get 2^32 windows deep. -/
def Lossy.Fits (image : Image) (t : Pid) (s : Lossy) (l : LossyLabel) : Prop :=
  l.NameFits ∧ ∀ s', s.step image t l = some s' → s'.openWindows.length < 2 ^ 32

theorem lossyWindows_cons (o : LossyScope) (scopes : List LossyScope) :
    lossyWindows (o :: scopes) =
      lossyWindows scopes ++ if o.scope.fgraphWindowMatched then [o.window] else [] := by
  unfold lossyWindows
  rw [List.reverse_cons, List.filter_append, List.map_append]
  cases h : o.scope.fgraphWindowMatched with
  | false => simp [h]
  | true => simp [h]

/-! ### The invariant -/

/-- What the last record of the thread tells about the labels, if it arrived. -/
def Latest.Shows (latest : Latest) (windows : List (Announced FgraphScopeLabel))
    (labels : List FgraphScopeLabel) : Prop :=
  match latest with
  | .enter true => labels.getLast? = windows.getLast?.map Announced.value
  | .exit true => labels.length ≤ windows.length
  | .enter false | .exit false => True

structure LossyInv (image : Image) (t : Pid) (s : Lossy) : Prop where
  tid : s.thread.KnowsTid t
  sent : s.thread.effects = []
  depth : s.thread.fgraphWindowDepth.toNat = s.openWindows.length
  matched : ∀ o ∈ s.scopes, o.scope.fgraphWindowMatched = true →
    image.inTracerProcess = false ∧ image.config.fgraphEnabled = true
  mirrors : Mirrors s.openWindows s.departed (labelsOf (s.windowByTid t))
  latest : s.latest.Shows s.openWindows (labelsOf (s.windowByTid t))

namespace LossyInv
variable {image : Image} {t : Pid} {s : Lossy}

theorem initial (image : Image) (t : Pid) : LossyInv image t .initial :=
  ⟨.inl rfl, rfl, rfl, fun _ ho => absurd ho List.not_mem_nil, .empty, Nat.le_refl 0⟩

theorem windowOut (h : LossyInv image t s) : s.thread.windowOut = [] := by
  rw [Thread.windowOut, h.sent]
  rfl

/-- The table after the records of the thread's last call. -/
theorem send_windowByTid (s : Lossy) (thread : Thread) (arrives : Bool) :
    (s.send thread arrives).windowByTid =
      if arrives then drainFgraphWindowUpdates thread.windowOut s.windowByTid
      else s.windowByTid := rfl

/-- A call of the thread that opens and closes no window. -/
theorem same (h : LossyInv image t s) {thread : Thread} (hsame : SameWindow t s.thread thread)
    (arrives : Bool) (seqs : WindowSeq) {scopes : List LossyScope}
    (hwindows : lossyWindows scopes = s.openWindows)
    (hmatched : ∀ o ∈ scopes, o ∈ s.scopes ∨ o.scope.fgraphWindowMatched = false) :
    LossyInv image t { s.send thread arrives with seqs := seqs, scopes := scopes } := by
  have htable : (s.send thread arrives).windowByTid = s.windowByTid := by
    rw [send_windowByTid, hsame.out, h.windowOut]
    cases arrives <;> rfl
  refine ⟨hsame.tid h.tid, rfl, ?_, fun o ho hmo => ?_, ?_, ?_⟩
  · exact (congrArg BitVec.toNat hsame.depth).trans (h.depth.trans (congrArg _ hwindows.symm))
  · rcases hmatched o ho with hold | hfalse
    · exact h.matched o hold hmo
    · rw [hfalse] at hmo
      cases hmo
  · change Mirrors (lossyWindows scopes) s.departed (labelsOf ((s.send thread arrives).windowByTid t))
    rw [hwindows, htable]
    exact h.mirrors
  · change s.latest.Shows (lossyWindows scopes) (labelsOf ((s.send thread arrives).windowByTid t))
    rw [hwindows, htable]
    exact h.latest

/-- The labels of the thread after a call that sends the record `msg`. -/
def labelsAfter (t : Pid) (s : Lossy) (msg : FgraphWindowUpdate) (arrives : Bool) :
    List FgraphScopeLabel :=
  if arrives then labelsOf (msg.applyTo (s.windowByTid t)) else labelsOf (s.windowByTid t)

/-- A call of the thread that opens or closes a window. -/
theorem moves (h : LossyInv image t s) {thread : Thread} {depth : U64} {msg : FgraphWindowUpdate}
    (hmove : MovesWindow t depth msg s.thread thread) (htid : msg.tid = t) (arrives : Bool)
    (seqs : WindowSeq) {scopes : List LossyScope} {departed : List (Departed FgraphScopeLabel)}
    {latest : Latest} (hdepth : depth.toNat = (lossyWindows scopes).length)
    (hmatched : ∀ o ∈ scopes, o.scope.fgraphWindowMatched = true →
      image.inTracerProcess = false ∧ image.config.fgraphEnabled = true)
    (hmirrors : Mirrors (lossyWindows scopes) departed (labelsAfter t s msg arrives))
    (hlatest : latest.Shows (lossyWindows scopes) (labelsAfter t s msg arrives)) :
    LossyInv image t { s.send thread arrives with
      seqs := seqs, scopes := scopes, departed := departed, latest := latest } := by
  have htable : labelsOf ((s.send thread arrives).windowByTid t) = labelsAfter t s msg arrives := by
    rw [send_windowByTid, hmove.out, h.windowOut, labelsAfter]
    cases arrives with
    | false => rfl
    | true =>
      change labelsOf (applyFgraphWindowUpdate msg s.windowByTid t) = _
      rw [applyFgraphWindowUpdate_eq, applyAt_eq, if_pos htid, if_pos rfl]
  refine ⟨hmove.tid, rfl, (congrArg BitVec.toNat hmove.depth).trans hdepth, hmatched, ?_, ?_⟩
  · rw [← htable] at hmirrors
    exact hmirrors
  · rw [← htable] at hlatest
    exact hlatest

theorem enter (hpipe : WindowPipe image) (h : LossyInv image t s) (clock : Clock)
    (domain : TraceDomain) {func : String} (args : String) (arrives : Bool)
    (hlen : (utf8Bytes func).length ≤ fgraphFuncNameMax) (h0 : 0 ∉ utf8Bytes func)
    (hshallow : (s.enter image t clock domain func args arrives).openWindows.length < 2 ^ 32) :
    LossyInv image t (s.enter image t clock domain func args arrives) := by
  obtain ⟨⟨scope, seqs, thread⟩, hrun⟩ :
    ∃ r, TraceScope.enterLazy image t clock domain func args s.seqs s.thread = r := ⟨_, rfl⟩
  have hstep : s.enter image t clock domain func args arrives =
      { s.send thread arrives with
        seqs := seqs
        scopes := ⟨scope, ⟨func, (seqs func).getD 0⟩, arrives⟩ :: s.scopes
        latest := if scope.fgraphWindowMatched then .enter arrives else s.latest } := by
    unfold Lossy.enter
    rw [hrun]
  rw [hstep] at hshallow ⊢
  rcases enterLazy_cases hpipe h.tid hrun with ⟨hm, hsame⟩ | ⟨hm, htracer, hon, seq, hseq, hmove⟩
  · rw [if_neg (by rw [hm]; decide)]
    refine h.same hsame arrives seqs ?_ fun o ho => ?_
    · rw [lossyWindows_cons, hm, if_neg Bool.false_ne_true, List.append_nil]
      rfl
    · rcases List.mem_cons.mp ho with rfl | ho
      · exact .inr hm
      · exact .inl ho
  · have hwindows : lossyWindows (⟨scope, ⟨func, (seqs func).getD 0⟩, arrives⟩ :: s.scopes) =
        s.openWindows ++ [⟨⟨func, seq⟩, arrives⟩] := by
      rw [lossyWindows_cons, if_pos hm, hseq]
      rfl
    have hnew : (lossyWindows (⟨scope, ⟨func, (seqs func).getD 0⟩, arrives⟩ :: s.scopes)).length <
        2 ^ 32 := hshallow
    rw [hwindows, List.length_append, List.length_singleton] at hnew
    have hdepth : (saturatingAddOne s.thread.fgraphWindowDepth).toNat = s.openWindows.length + 1 := by
      rw [saturatingAddOne_toNat (by rw [h.depth]; omega), h.depth]
    have hclamp : (clampU32 (saturatingAddOne s.thread.fgraphWindowDepth).toNat).toNat =
        s.openWindows.length + 1 := by
      rw [clampU32_toNat, hdepth]
      omega
    have hlabels := @labelsOf_enter ⟨t, clampU32 (saturatingAddOne s.thread.fgraphWindowDepth).toNat,
      seq, fgraphWindowEventEnter, setFunc func⟩ _ rfl hclamp (s.windowByTid t)
    rw [funcName_setFunc func hlen h0] at hlabels
    rw [if_pos hm]
    refine h.moves hmove rfl arrives seqs ?_ (fun o ho hmo => ?_) ?_ ?_
    · rw [hwindows, hdepth, List.length_append, List.length_singleton]
    · rcases List.mem_cons.mp ho with rfl | ho
      · exact ⟨htracer, hon⟩
      · exact h.matched o ho hmo
    · rw [hwindows]
      cases arrives with
      | false => exact h.mirrors.opened_lost _
      | true =>
        rw [labelsAfter, if_pos rfl, hlabels]
        exact h.mirrors.opened _
    · rw [hwindows]
      cases arrives with
      | false => trivial
      | true =>
        change (labelsAfter t s _ true).getLast? = _
        rw [labelsAfter, if_pos rfl, hlabels]
        simp

theorem finish (hpipe : WindowPipe image) (h : LossyInv image t s) {o : LossyScope}
    {rest : List LossyScope} (hscopes : s.scopes = o :: rest)
    (hshallow : s.openWindows.length < 2 ^ 32) (clock : Clock) (ret : String) (arrives : Bool) :
    LossyInv image t (s.finish image t o rest clock ret arrives) := by
  have hopen : s.openWindows =
      lossyWindows rest ++ if o.scope.fgraphWindowMatched then [o.window] else [] := by
    rw [Lossy.openWindows, hscopes, lossyWindows_cons]
  have hold : ∀ o' ∈ rest, o' ∈ s.scopes := fun o' ho' => by
    rw [hscopes]
    exact List.mem_cons_of_mem _ ho'
  have hmatched := h.matched o (by rw [hscopes]; exact List.mem_cons_self)
  unfold Lossy.finish
  rcases finish_cases hpipe h.tid o.scope hmatched clock ret with ⟨hm, hsame⟩ | ⟨hm, hmove⟩
  · rw [hm] at hopen ⊢
    rw [if_neg Bool.false_ne_true, List.append_nil] at hopen
    exact h.same hsame arrives s.seqs hopen.symm fun o' ho' => .inl (hold o' ho')
  · rw [hm] at hopen ⊢
    rw [if_pos rfl] at hopen
    have hlength := congrArg List.length hopen
    rw [List.length_append, List.length_singleton] at hlength
    have hdepth : (saturatingSubOne s.thread.fgraphWindowDepth).toNat =
        (lossyWindows rest).length := by
      rw [saturatingSubOne_toNat, h.depth]
      omega
    have hclamp : (clampU32 (saturatingSubOne s.thread.fgraphWindowDepth).toNat).toNat =
        (lossyWindows rest).length := by
      rw [clampU32_toNat, hdepth]
      omega
    have hlabels := @labelsOf_exit ⟨t, clampU32 (saturatingSubOne s.thread.fgraphWindowDepth).toNat,
      0, fgraphWindowEventExit, .replicate _ 0⟩ _ rfl hclamp (s.windowByTid t)
    have hmirrors := h.mirrors
    rw [hopen] at hmirrors
    refine h.moves hmove rfl arrives s.seqs hdepth (fun o' ho' => h.matched o' (hold o' ho')) ?_ ?_
    · cases arrives with
      | false => exact hmirrors.closed_lost _
      | true =>
        rw [labelsAfter, if_pos rfl, hlabels]
        exact hmirrors.closed
    · cases arrives with
      | false => trivial
      | true =>
        change (labelsAfter t s _ true).length ≤ _
        rw [labelsAfter, if_pos rfl, hlabels]
        exact List.length_take_le _ _

/-- A thread whose last call, if any, opened and closed no window. -/
theorem setThread (h : LossyInv image t s) {thread : Thread}
    (hsame : SameWindow t s.thread thread) (heffects : thread.effects = s.thread.effects) :
    LossyInv image t { s with thread := thread } :=
  ⟨hsame.tid h.tid, heffects.trans h.sent, (congrArg BitVec.toNat hsame.depth).trans h.depth,
    h.matched, h.mirrors, h.latest⟩

/-- Records of other threads do not matter. -/
theorem others (h : LossyInv image t s) (seqs : WindowSeq) {records : List FgraphWindowUpdate}
    (hothers : ∀ msg ∈ records, msg.tid ≠ t) :
    LossyInv image t { s with
      seqs := seqs, windowByTid := drainFgraphWindowUpdates records s.windowByTid } := by
  have hentry := drainFgraphWindowUpdates_of_ne records s.windowByTid hothers
  refine ⟨h.tid, h.sent, h.depth, h.matched, ?_, ?_⟩
  · change Mirrors _ _ (labelsOf (drainFgraphWindowUpdates records s.windowByTid t))
    rw [hentry]
    exact h.mirrors
  · change s.latest.Shows _ (labelsOf (drainFgraphWindowUpdates records s.windowByTid t))
    rw [hentry]
    exact h.latest

theorem step (hpipe : WindowPipe image) (h : LossyInv image t s) {l : LossyLabel} {s' : Lossy}
    (hname : l.NameFits) (hold : s.openWindows.length < 2 ^ 32)
    (hnew : s'.openWindows.length < 2 ^ 32) (hs : s.step image t l = some s') :
    LossyInv image t s' := by
  cases l with
  | enter clock domain func args arrives =>
    obtain rfl := Option.some.inj hs
    exact h.enter hpipe clock domain args arrives hname.1 hname.2 hnew
  | finish clock ret arrives =>
    cases hscopes : s.scopes with
    | nil =>
      simp only [Lossy.step, hscopes] at hs
      cases hs
    | cons o rest =>
      simp only [Lossy.step, hscopes] at hs
      obtain rfl := Option.some.inj hs
      exact h.finish hpipe hscopes hold clock ret arrives
  | bypass =>
    obtain rfl := Option.some.inj hs
    exact h.setThread (.bypass _) rfl
  | unbypass =>
    obtain rfl := Option.some.inj hs
    exact h.setThread (.unbypass _) rfl
  | others seqs records =>
    obtain ⟨hothers, he⟩ := Option.ite_none_right_eq_some.mp hs
    obtain rfl := Option.some.inj he
    exact h.others seqs fun msg hmsg => of_decide_eq_true (List.all_eq_true.mp hothers msg hmsg)

theorem of_reach (hpipe : WindowPipe image) (h : (lossy image t).Reach (Lossy.Fits image t) s) :
    s.openWindows.length < 2 ^ 32 ∧ LossyInv image t s := by
  induction h with
  | start h0 =>
    obtain rfl := h0
    exact ⟨Nat.two_pow_pos 32, initial image t⟩
  | step _ hok hs ih =>
    obtain ⟨hname, hnext⟩ := hok
    exact ⟨hnext _ hs, ih.2.step hpipe hname ih.1 (hnext _ hs) hs⟩

end LossyInv

/-- A label that is returned is that of an open scope, of one whose exit was dropped, or of
one inside a scope whose enter was dropped. After an enter that arrived it is that of the
innermost scope, and after an exit that arrived if the enters of all open scopes did. -/
theorem lossy_labels {cfg : Config} {a : StartAnswers} {image : Image}
    (hstart : ensureStarted cfg a none = .ok image) (hpipe : 0 ≤ image.fgraphWindowPipeWrFd.toInt)
    {t : Pid} {s : Lossy} (h : (lossy image t).Reach (Lossy.Fits image t) s) :
    (∀ text, currentFgraphScopeLabel t s.windowByTid = some text →
      (∃ w ∈ s.openWindows, text = labelText w.value) ∨
      ∃ d ∈ s.departed, text = labelText d.value ∧ (d.exitLost = true ∨ d.insideLost = true)) ∧
    (s.latest = .enter true ∨ s.latest = .exit true ∧ allArrived s.openWindows = true →
      currentFgraphScopeLabel t s.windowByTid =
        s.openWindows.getLast?.map fun w => labelText w.value) := by
  obtain ⟨hcfg, -, hsys⟩ := ensureStarted_image hstart
  have hwp : WindowPipe image := ⟨by rw [hcfg]; exact hsys, hpipe⟩
  obtain ⟨-, hinv⟩ := LossyInv.of_reach hwp h
  rw [currentFgraphScopeLabel_eq]
  refine ⟨fun text htext => ?_, fun hlast => ?_⟩
  · obtain ⟨label, hlabel, rfl⟩ := Option.map_eq_some_iff.mp htext
    rcases hinv.mirrors.accounted label (List.mem_of_getLast? hlabel) with
      ⟨w, hw, hv⟩ | ⟨d, hd, hv, hlost⟩
    · exact .inl ⟨w, hw, by rw [hv]⟩
    · exact .inr ⟨d, hd, by rw [hv], hlost⟩
  · have hlabel : (labelsOf (s.windowByTid t)).getLast? =
        s.openWindows.getLast?.map Announced.value := by
      have hshows := hinv.latest
      rcases hlast with henter | ⟨hexit, hall⟩
      · rw [henter] at hshows
        exact hshows
      · rw [hexit] at hshows
        rw [hinv.mirrors.eq_values hall hshows, List.getLast?_map]
    rw [hlabel, Option.map_map]
    rfl

/-! ### Short runs -/

/-- One step opens at most one window. -/
theorem Lossy.step_openWindows {image : Image} {t : Pid} {s s' : Lossy} {l : LossyLabel}
    (h : s.step image t l = some s') : s'.openWindows.length ≤ s.openWindows.length + 1 := by
  have hcons : ∀ (o : LossyScope) (scopes : List LossyScope),
      (lossyWindows scopes).length ≤ (lossyWindows (o :: scopes)).length ∧
      (lossyWindows (o :: scopes)).length ≤ (lossyWindows scopes).length + 1 := by
    intro o scopes
    rw [lossyWindows_cons, List.length_append]
    split <;> simp
  cases l with
  | enter clock domain func args arrives =>
    obtain rfl := Option.some.inj h
    exact (hcons _ _).2
  | finish clock ret arrives =>
    cases hscopes : s.scopes with
    | nil =>
      simp only [Lossy.step, hscopes] at h
      cases h
    | cons o rest =>
      simp only [Lossy.step, hscopes] at h
      obtain rfl := Option.some.inj h
      show (lossyWindows rest).length ≤ (lossyWindows s.scopes).length + 1
      rw [hscopes]
      exact (hcons o rest).1.trans (Nat.le_succ _)
  | bypass | unbypass =>
    obtain rfl := Option.some.inj h
    exact Nat.le_succ _
  | others seqs records =>
    obtain ⟨_, he⟩ := Option.ite_none_right_eq_some.mp h
    obtain rfl := Option.some.inj he
    exact Nat.le_succ _

/-- Runs of fewer than 2^32 steps stay shallow. -/
theorem lossy_of_run {image : Image} {t : Pid} {s s' : Lossy} {ls : List LossyLabel}
    (h : (lossy image t).Reach (Lossy.Fits image t) s) (hnames : ∀ l ∈ ls, l.NameFits)
    (hlen : s.openWindows.length + ls.length < 2 ^ 32)
    (hr : ls.foldlM (Lossy.step image t) s = some s') :
    (lossy image t).Reach (Lossy.Fits image t) s' := by
  induction ls generalizing s with
  | nil =>
    obtain rfl : s = s' := Option.some.inj hr
    exact h
  | cons l ls ih =>
    rw [List.foldlM_cons] at hr
    obtain ⟨mid, hmid, hrest⟩ := Option.bind_eq_some_iff.mp hr
    have hone := Lossy.step_openWindows hmid
    rw [List.length_cons] at hlen
    have hfits : s.Fits image t l := by
      refine ⟨hnames l List.mem_cons_self, fun u hu => ?_⟩
      obtain rfl : mid = u := Option.some.inj (hmid.symm.trans hu)
      omega
    exact ih (.step h hfits hmid) (fun l hl => hnames l (List.mem_cons_of_mem _ hl)) (by omega) hrest

/-! ### Records that were dropped -/

def enterInit (arrives : Bool) : LossyLabel := .enter ⟨0, 0⟩ .driver "cuInit" "" arrives

def finishInit (arrives : Bool) : LossyLabel := .finish ⟨0, 0⟩ "0" arrives

theorem nameFits_init (arrives : Bool) :
    (enterInit arrives).NameFits ∧ (finishInit arrives).NameFits :=
  ⟨⟨by decide, by decide⟩, trivial⟩

/-- The inner call left no trace, and after its exit the outer one is named. -/
theorem lossy_labels_outer :
    ∃ s, [enterInit true, enterInit false, finishInit true].foldlM
        (Lossy.step captureImage 1) .initial = some s ∧
      currentFgraphScopeLabel 1 s.windowByTid = some "cuInit1" ∧
      s.openWindows.getLast?.map (fun w => labelText w.value) = some "cuInit1" := by
  refine ⟨_, rfl, ?_, by decide⟩
  have hreach := @lossy_of_run captureImage 1 _ _ [enterInit true, enterInit false, finishInit true]
    (.start rfl) (by simp [nameFits_init]) (by decide : 0 + 3 < 2 ^ 32) rfl
  exact ((lossy_labels captureImage_started (by decide) hreach).2 (.inr ⟨rfl, by decide⟩)).trans
    (by decide)

/-- A dropped exit leaves the label of a call that is over. After a dropped enter, the exit
of the call inside leaves the label of that call, though its record arrived. -/
theorem lost_records_mislabel :
    (∃ s, (lossy captureImage 1).Reach (Lossy.Fits captureImage 1) s ∧ s.openWindows = [] ∧
      currentFgraphScopeLabel 1 s.windowByTid = some "cuInit1") ∧
    ∃ s, (lossy captureImage 1).Reach (Lossy.Fits captureImage 1) s ∧ s.latest = .exit true ∧
      s.openWindows.map (fun w => labelText w.value) = ["cuInit1"] ∧
      currentFgraphScopeLabel 1 s.windowByTid = some "cuInit2" := by
  have hfirst := @lossy_of_run captureImage 1 _ _ [enterInit true, finishInit false]
    (.start rfl) (by simp [nameFits_init]) (by decide : 0 + 2 < 2 ^ 32) rfl
  have hsecond := @lossy_of_run captureImage 1 _ _ [enterInit false, enterInit true, finishInit true]
    (.start rfl) (by simp [nameFits_init]) (by decide : 0 + 3 < 2 ^ 32) rfl
  exact ⟨⟨_, hfirst, rfl, by decide⟩, _, hsecond, rfl, by decide, by decide⟩

end CudaTrace.Hook
