import CudaTrace.Ptrace.Phase

/-!
# Signal transparency

Which resume requests inject a signal, and an automaton over a run that accepts it
when every signal somebody sent is injected once and no other one is.
-/

namespace CudaTrace.Ptrace
open CudaTrace.Base CudaTrace.Fgraph

/-! ### What happens to signals in a run -/

inductive SignalEvent where
  | arrived (t : Pid) (sig : Signal)
  | injected (t : Pid) (sig : I32)
  | suppressed (t : Pid)
  | killed (t : Pid)
  deriving DecidableEq

/-- What ending a stop does. The kernel ignores the signal number of a request that
ends an event or group stop. -/
def Release.events (x : Release) : List SignalEvent :=
  match x.stop with
  | .signal _ => if x.sig = 0 then [.suppressed x.task] else [.injected x.task x.sig]
  | .attach | .syscallEntry _ | .syscallExit _ _ =>
    if x.sig = 0 then [] else [.injected x.task x.sig]
  | .newTask _ _ _ | .exec _ _ | .exit | .group _ => []

def Run.inSignalStop : Run → Bool
  | .stopped (.signal _) _ => true
  | _ => false

/-- A signal arrives with its stop, and is lost with a task that is killed in it. -/
def Tasks.moveEvents (k : Tasks) (m : Move) : List SignalEvent :=
  match m with
  | .signal t sig => [.arrived t sig]
  | .exitStop t | .die t _ => if (k t).any (·.run.inSignalStop) then [.killed t] else []
  | _ => []

def signalEvents (g : Globals) (s : Sys) (l : Label) (_ : Sys) : List SignalEvent :=
  match l with
  | .move m => s.tasks.moveEvents m
  | l => match s.stepObs g l with
    | some (_, released) => released.flatMap Release.events
    | none => []

/-- The automaton; its state is the signal each task has still to receive. -/
def SignalEvent.accept (m : Pid → Option Signal) : SignalEvent → Option (Pid → Option Signal)
  | .arrived t sig =>
    match m t with
    | none => some (Function.update m t (some sig))
    | some _ => none
  | .injected t n =>
    match m t with
    | some sig => if n = sig.word then some (Function.update m t none) else none
    | none => none
  | .suppressed _ => none
  | .killed t => some (Function.update m t none)

theorem accept_one (m : Pid → Option Signal) (e : SignalEvent) :
    [e].foldlM SignalEvent.accept m = SignalEvent.accept m e :=
  bind_pure (SignalEvent.accept m e)

/-! ### The condition -/

/-- A turn for `t` in which the loop may close the open capture. -/
def MayEndCapture (s : Sys) (t : Pid) : Prop :=
  s.loop.owner = some t ∧ ∃ task, s.tasks t = some task ∧
    ((∃ stop, task.run = .stopped stop false ∧ stop.kind = .syscallStop) ∨
      ∃ death, task.run = .zombie death)

/-- `wait_for_stop` gets no signal stop, the loop gets no attach stop, and neither a new
task at its parent's event nor a held task when the capture ends is in a signal stop. -/
def SignalsKept (s : Sys) : Label → Prop
  | .move _ => True
  | .attached => ∀ task, s.tasks s.target = some task → task.run.inSignalStop = false
  | .turn t env => ∀ task, s.tasks t = some task →
    task.run ≠ .stopped .attach false ∧
    (∀ c how child, task.run = .stopped (.newTask c how child) false →
      (env.geteventmsg t).isSome →
        ∀ other, s.tasks child = some other → other.run.inSignalStop = false) ∧
    (MayEndCapture s t → ∀ u other, s.loop.Held u → s.tasks u = some other →
      other.run.inSignalStop = false)

/-- A release that leaves the signals as they should be. -/
def Release.Transparent (x : Release) : Prop :=
  match x.stop with
  | .signal sig => x.sig = sig.word
  | .attach | .syscallEntry _ | .syscallExit _ _ => x.sig = 0
  | _ => True

theorem Release.Transparent.of_zero {x : Release} (h0 : x.sig = 0)
    (h : ∀ sig, x.stop ≠ .signal sig) : x.Transparent := by
  unfold Release.Transparent
  cases hs : x.stop with
  | signal sig => exact absurd hs (h sig)
  | attach => exact h0
  | syscallEntry c => exact h0
  | syscallExit c ret => exact h0
  | _ => trivial

/-! ### Steps of the automaton -/

/-- The automaton waits for exactly the signals of the tasks in a signal stop. -/
def Awaits (k : Tasks) (m : Pid → Option Signal) : Prop :=
  ∀ t sig, m t = some sig ↔ ∃ task r, k t = some task ∧ task.run = .stopped (.signal sig) r

theorem Awaits.none_of {k : Tasks} {m : Pid → Option Signal} (h : Awaits k m) {t : Pid}
    (ht : ∀ task, k t = some task → task.run.inSignalStop = false) : m t = none := by
  cases hm : m t with
  | none => rfl
  | some sig =>
    obtain ⟨task, r, hk, hr⟩ := (h t sig).mp hm
    have hfalse := ht task hk
    rw [hr] at hfalse
    cases hfalse

/-- Replacing one task on both sides. -/
theorem Awaits.update {k : Tasks} {m : Pid → Option Signal} (h : Awaits k m) (t : Pid)
    (task : Option Task) (o : Option Signal)
    (ho : ∀ sig, o = some sig ↔ ∃ task' r, task = some task' ∧ task'.run = .stopped (.signal sig) r) :
    Awaits (Function.update k t task) (Function.update m t o) := by
  intro u sig
  by_cases hu : u = t
  · subst hu
    simp only [Function.update_self]
    exact ho sig
  · simp only [Function.update_of_ne hu]
    exact h u sig

/-- A task that is in no signal stop before or after. -/
theorem Awaits.same {k : Tasks} {m : Pid → Option Signal} (h : Awaits k m) (t : Pid)
    (task : Option Task) (hold : ∀ old, k t = some old → old.run.inSignalStop = false)
    (hnew : ∀ new, task = some new → new.run.inSignalStop = false) :
    Awaits (Function.update k t task) m := by
  have hm := h.none_of hold
  have hu := h.update t task none fun sig => by
    refine iff_of_false nofun ?_
    rintro ⟨new, r, hn, hr⟩
    have hfalse := hnew new hn
    rw [hr] at hfalse
    cases hfalse
  rwa [← hm, Function.update_eq_self] at hu

theorem released_inSignalStop (task : Task) : task.released.run.inSignalStop = false := by
  obtain ⟨tgid, pending, run⟩ := task
  cases run with
  | stopped stop r => cases stop <;> rfl
  | _ => rfl

/-- One request; the automaton accepts what it does. -/
theorem Awaits.resume {k : Tasks} {m : Pid → Option Signal} (h : Awaits k m) (t : Pid) (sig : I32)
    (hgood : ∀ x ∈ (k.resume t sig).2, x.Transparent) :
    ∃ m', ((k.resume t sig).2.flatMap Release.events).foldlM SignalEvent.accept m = some m' ∧
      Awaits (k.resume t sig).1 m' := by
  unfold Tasks.resume at hgood ⊢
  cases hk : k t with
  | none => exact ⟨m, rfl, h⟩
  | some task =>
    cases hrun : task.run with
    | stopped stop r =>
      simp only [hk, hrun, List.forall_mem_singleton] at hgood
      simp only [hrun, List.flatMap_singleton]
      have hnew : ∀ new, some task.released = some new → new.run.inSignalStop = false := by
        intro new hn
        cases hn
        exact released_inSignalStop task
      -- a stop that carries no signal: nothing to accept, and nothing is injected
      have hother : (∀ n, stop ≠ .signal n) → (⟨t, stop, r, sig⟩ : Release).events = [] →
          ∃ m', ((⟨t, stop, r, sig⟩ : Release).events).foldlM SignalEvent.accept m = some m' ∧
            Awaits (Function.update k t (some task.released)) m' := by
        intro hn he
        rw [he]
        refine ⟨m, rfl, h.same t _ ?_ hnew⟩
        intro old ho
        cases hk.symm.trans ho
        rw [hrun]
        cases stop with
        | signal n => exact absurd rfl (hn n)
        | _ => rfl
      cases stop with
      | signal n =>
        have hsig : sig = n.word := hgood
        have hm : m t = some n := (h t n).mpr ⟨task, r, hk, hrun⟩
        have hne : n.word ≠ 0 := n.word_ne_zero
        refine ⟨Function.update m t none, ?_, h.update t _ none fun n' => ?_⟩
        · have he : (⟨t, .signal n, r, sig⟩ : Release).events = [.injected t n.word] := by
            rw [← hsig]
            exact if_neg (hsig ▸ hne)
          rw [he, accept_one]
          simp only [SignalEvent.accept, hm, if_true]
        · refine iff_of_false nofun ?_
          rintro ⟨new, r', hn, hr⟩
          have hfalse := hnew new hn
          rw [hr] at hfalse
          cases hfalse
      | attach => exact hother nofun (if_pos hgood)
      | syscallEntry c => exact hother nofun (if_pos hgood)
      | syscallExit c ret => exact hother nofun (if_pos hgood)
      | newTask c how child => exact hother nofun rfl
      | exec c former => exact hother nofun rfl
      | exit => exact hother nofun rfl
      | group n => exact hother nofun rfl
    | _ =>
      simp only [hrun]
      exact ⟨m, rfl, h⟩

theorem Awaits.resumeAll {k : Tasks} {m : Pid → Option Signal} (h : Awaits k m)
    (rs : List (Pid × I32)) (hgood : ∀ x ∈ (k.resumeAll rs).2, x.Transparent) :
    ∃ m', ((k.resumeAll rs).2.flatMap Release.events).foldlM SignalEvent.accept m = some m' ∧
      Awaits (k.resumeAll rs).1 m' := by
  induction rs generalizing k m with
  | nil => exact ⟨m, rfl, h⟩
  | cons r rs ih =>
    have hobs : (k.resumeAll (r :: rs)).2 =
        (k.resume r.1 r.2).2 ++ ((k.resume r.1 r.2).1.resumeAll rs).2 := rfl
    rw [hobs] at hgood ⊢
    obtain ⟨m₁, h₁, ha₁⟩ := h.resume r.1 r.2 fun x hx => hgood x (List.mem_append_left _ hx)
    obtain ⟨m₂, h₂, ha₂⟩ := ih ha₁ fun x hx => hgood x (List.mem_append_right _ hx)
    refine ⟨m₂, ?_, ha₂⟩
    rw [List.flatMap_append, List.foldlM_append, h₁]
    exact h₂

/-! ### Steps of the system -/

/-- Only a signal puts a task into a signal stop, and only its end takes it out. -/
theorem Task.move_signal {task task' : Task} {m : Move} (h : task.move m = some task') :
    (∃ t sig, m = .signal t sig ∧ task.run = .user ∧ task'.run = .stop (.signal sig)) ∨
    (task'.run.inSignalStop = false ∧ (∀ t sig, m ≠ .signal t sig) ∧
      (task.run.inSignalStop = true → (∃ t, m = .exitStop t) ∨ ∃ t death, m = .die t death)) := by
  have hrun := (Task.move_run h).2
  cases m with
  | signal t sig =>
    simp only [Task.move] at h
    split at h
    · rename_i hr
      cases h
      exact Or.inl ⟨t, sig, rfl, hr, rfl⟩
    · cases h
  | exitStop t =>
    refine Or.inr ⟨?_, (fun _ _ he => by cases he), fun _ => Or.inl ⟨t, rfl⟩⟩
    simp only [Task.move] at h
    split at h <;> cases h
    rfl
  | die t death =>
    refine Or.inr ⟨?_, (fun _ _ he => by cases he), fun _ => Or.inr ⟨t, death, rfl⟩⟩
    simp only [Task.move] at h
    split at h <;> cases h
    rfl
  | _ =>
    simp only [Task.move] at h
    split at h
    · rename_i hr
      cases h
      refine Or.inr ⟨rfl, (fun _ _ he => by cases he), fun hs => ?_⟩
      first
        | (rw [hr] at hs; cases hs)
        | (rw [hr.1] at hs; cases hs)
    · cases h

theorem Awaits.move {k k' : Tasks} {m : Pid → Option Signal} {mv : Move} (h : Awaits k m)
    (hm : k.move mv = some k') :
    ∃ m', (k.moveEvents mv).foldlM SignalEvent.accept m = some m' ∧ Awaits k' m' := by
  obtain ⟨task, task', htask, hmove, hcase⟩ := move_cases hm
  rcases Task.move_signal hmove with ⟨t, sig, rfl, hr, hr'⟩ | ⟨hnew, hns, hold⟩
  · -- the signal arrives in a task that awaits none
    rcases hcase with ⟨rfl, -, -⟩ | ⟨_, _, _, _, _, he, -⟩ | ⟨_, _, _, he, -⟩
    · have htask' : k t = some task := htask
      have hnone : m t = none := h.none_of fun old ho => by
        cases htask'.symm.trans ho
        rw [hr]
        rfl
      refine ⟨Function.update m t (some sig), ?_, h.update t _ _ fun n => ?_⟩
      · rw [Tasks.moveEvents, accept_one]
        simp only [SignalEvent.accept, hnone]
      · constructor
        · intro hn
          cases hn
          exact ⟨task', false, rfl, hr'⟩
        · rintro ⟨new, r, hn, hrn⟩
          cases hn
          rw [hr'] at hrn
          cases hrn
          rfl
    · cases he
    · cases he
  · have hnew' : ∀ new, some task' = some new → new.run.inSignalStop = false := by
      intro new hn
      cases hn
      exact hnew
    by_cases hs : task.run.inSignalStop = true
    · -- the task is killed in its signal stop
      have hev : k.moveEvents mv = [.killed mv.task] := by
        have hany : (k mv.task).any (·.run.inSignalStop) = true := by rw [htask]; exact hs
        rcases hold hs with ⟨t, rfl⟩ | ⟨t, death, rfl⟩
        · exact if_pos hany
        · exact if_pos hany
      have hk' : k' = Function.update k mv.task (some task') := by
        rcases hcase with ⟨hk, -, -⟩ | ⟨_, _, _, _, _, rfl, -⟩ | ⟨_, _, _, rfl, -⟩
        · exact hk
        · rcases hold hs with ⟨t, he⟩ | ⟨t, death, he⟩ <;> cases he
        · rcases hold hs with ⟨t, he⟩ | ⟨t, death, he⟩ <;> cases he
      refine ⟨Function.update m mv.task none, by rw [hev]; rfl, ?_⟩
      rw [hk']
      refine h.update _ _ _ fun n => iff_of_false nofun ?_
      rintro ⟨new, r, hn, hrn⟩
      have hfalse := hnew' new hn
      rw [hrn] at hfalse
      cases hfalse
    · have hs' : ∀ old, k mv.task = some old → old.run.inSignalStop = false := by
        intro old ho
        cases htask.symm.trans ho
        simpa using hs
      have hev : k.moveEvents mv = [] := by
        have hany : (k mv.task).any (·.run.inSignalStop) = false := by
          rw [htask]
          simpa using hs
        cases mv with
        | signal t sig => exact absurd rfl (hns t sig)
        | exitStop t => exact if_neg (by rw [show (k t).any _ = false from hany]; decide)
        | die t death => exact if_neg (by rw [show (k t).any _ = false from hany]; decide)
        | _ => rfl
      refine ⟨m, by rw [hev]; rfl, ?_⟩
      have hone : Awaits (Function.update k mv.task (some task')) m := h.same _ _ hs' hnew'
      rcases hcase with ⟨rfl, -, -⟩ | ⟨t, child, how, thread, tgid, rfl, hc, rfl⟩ |
        ⟨t, leader, death, rfl, hne, hl, hlr, rfl⟩
      · exact hone
      · refine hone.same child _ (fun old ho => ?_) fun new hn => by cases hn; rfl
        rcases update_some ho with ⟨-, rfl⟩ | ⟨-, ho⟩
        · exact hnew
        · rw [hc] at ho
          cases ho
      · refine (h.same t none hs' nofun).same _ _ (fun old ho => ?_) hnew'
        rw [Function.update_of_ne hne] at ho
        cases hl.symm.trans ho
        rw [hlr]
        rfl

/-- A stop is marked as reported. -/
theorem Awaits.report {k : Tasks} {m : Pid → Option Signal} (h : Awaits k m) {t : Pid} {task : Task}
    {stop : Stop} {r : Bool} (ht : k t = some task) (hr : task.run = .stopped stop r) :
    Awaits (k.report t task stop) m := by
  have hu := h.update t (some { task with run := .stopped stop true }) (m t) fun sig => by
    rw [h t sig]
    constructor
    · rintro ⟨old, r', ho, hold⟩
      cases ht.symm.trans ho
      cases hr.symm.trans hold
      exact ⟨_, true, rfl, rfl⟩
    · rintro ⟨new, r', hn, hnew⟩
      cases hn
      cases hnew
      exact ⟨task, r, ht, hr⟩
  rwa [Function.update_eq_self] at hu

/-- No signal stop is left standing once it has been reported. -/
def NoneLeft (k : Tasks) : Prop :=
  ∀ t task sig, k t = some task → task.run ≠ .stopped (.signal sig) true

theorem NoneLeft.move {k k' : Tasks} {mv : Move} (h : NoneLeft k) (hm : k.move mv = some k') :
    NoneLeft k' := by
  obtain ⟨task, task', htask, hmove, hcase⟩ := move_cases hm
  have hpend := Task.move_pending hmove
  intro t other sig ho
  rcases hcase with ⟨rfl, -, -⟩ | ⟨u, child, how, thread, tgid, -, -, rfl⟩ |
    ⟨u, leader, death, -, -, -, -, rfl⟩
  · rcases update_some ho with ⟨-, rfl⟩ | ⟨-, ho⟩
    · exact hpend _
    · exact h t other sig ho
  · rcases update_some ho with ⟨-, rfl⟩ | ⟨-, ho⟩
    · nofun
    · rcases update_some ho with ⟨-, rfl⟩ | ⟨-, ho⟩
      · exact hpend _
      · exact h t other sig ho
  · rcases update_some ho with ⟨-, rfl⟩ | ⟨-, ho⟩
    · exact hpend _
    · by_cases htu : t = u
      · rw [htu, Function.update_self] at ho
        cases ho
      · rw [Function.update_of_ne htu] at ho
        exact h t other sig ho

section Turns

variable {g : Globals} {s : Sys} {t : Pid} {env : Env} {task : Task}

theorem releases_transparent (hc : Consistent s.loop) (hok : SignalsKept s (.turn t env)) {stop : Stop}
    (htask : s.tasks t = some task) (hrun : task.run = .stopped stop false)
    (hag : env.agrees t stop = true) {x : Release}
    (hx : x ∈ ((s.tasks.report t task stop).resumeAll
      (resumes (loopIter g env t stop.status s.loop).out)).2) : x.Transparent := by
  obtain ⟨hattach, hchild, hwait⟩ := hok task htask
  obtain ⟨woken, own, ht, hown, hends⟩ := loopIter_turned g env t stop.status hc
  obtain ⟨hmem, task', h', hr'⟩ := mem_releases hx
  have hquiet : x.sig = 0 → task'.run.inSignalStop = false → x.Transparent := by
    intro h0 hq
    refine .of_zero h0 fun sig hs => ?_
    rw [hr', hs] at hq
    cases hq
  have hother : x.task ≠ t → s.tasks x.task = some task' := by
    intro hxt
    rwa [Tasks.report, Function.update_of_ne hxt] at h'
  have hself : x.task = t → x.stop = stop := by
    intro hxt
    rw [hxt, Tasks.report, Function.update_self] at h'
    cases h'
    exact (Run.stopped.inj hr').1.symm
  rw [ht.requests] at hmem
  rcases List.mem_append.mp hmem with hm | hm
  · obtain ⟨u, hu, he⟩ := List.mem_map.mp hm
    obtain ⟨hux, h0⟩ := Prod.mk.inj he
    have hne : woken ≠ [] := List.ne_nil_of_mem hu
    have hkind := hends hne
    rw [waitKind_status] at hkind
    have hend : MayEndCapture s t := by
      refine ⟨ht.ends hne, task, htask, Or.inl ⟨stop, hrun, ?_⟩⟩
      rcases hkind with hk | hk
      · exact hk
      · cases stop <;> cases hk
    obtain ⟨hut, hheld⟩ := ht.held hu
    rw [hux] at hut hheld
    exact hquiet h0.symm (hwait hend x.task task' hheld (hother hut))
  · rcases hown _ hm with ⟨hxt, hsig⟩ | ⟨hk, h0, msg, hmsg, hxm⟩
    · have hstop := hself hxt
      rw [waitKind_status] at hsig
      unfold Release.Transparent
      rw [hstop]
      cases stop with
      | attach => exact absurd hrun hattach
      | signal sig => exact hsig
      | syscallEntry c => exact hsig
      | syscallExit c ret => exact hsig
      | _ => trivial
    · rw [waitKind_status] at hk
      cases stop with
      | newTask c how child =>
        have hmc : msg = child.setWidth 64 := by simpa [Env.agrees, hmsg] using hag
        have hchild' : msg.setWidth 32 = child := by
          rw [hmc]
          exact BitVec.setWidth_setWidth_of_le child (by decide)
        have hxc : x.task = child := hxm.trans hchild'
        by_cases hxt : x.task = t
        · unfold Release.Transparent
          rw [hself hxt]
          trivial
        · refine hquiet h0 (hchild c how child hrun (by rw [hmsg]; rfl) task' ?_)
          rw [← hxc]
          exact hother hxt
      | _ => cases hk

theorem deaths_transparent (hc : Consistent s.loop) (hok : SignalsKept s (.turn t env)) {death : Death}
    (htask : s.tasks t = some task) (hrun : task.run = .zombie death) {x : Release}
    (hx : x ∈ (Tasks.resumeAll (Function.update s.tasks t none)
      (resumes (loopIter g env t death.status s.loop).out)).2) : x.Transparent := by
  obtain ⟨woken, ht, -⟩ := loopIter_gone g env t hc (waitKind_death death)
  obtain ⟨hmem, task', h', hr'⟩ := mem_releases hx
  rw [ht.requests, List.append_nil] at hmem
  obtain ⟨u, hu, he⟩ := List.mem_map.mp hmem
  obtain ⟨hux, h0⟩ := Prod.mk.inj he
  obtain ⟨hut, hheld⟩ := ht.held hu
  rw [hux] at hut hheld
  rw [Function.update_of_ne hut] at h'
  have hend : MayEndCapture s t :=
    ⟨ht.ends (List.ne_nil_of_mem hu), task, htask, Or.inr ⟨death, hrun⟩⟩
  refine .of_zero h0.symm fun sig hs => ?_
  have hq := (hok task htask).2.2 hend x.task task' hheld h'
  rw [hr', hs] at hq
  cases hq

/-- The stop that is handled in a turn is left behind only at a syscall entry. -/
theorem handle_noneLeft (hc : Consistent s.loop) (h : NoneLeft s.tasks) {stop : Stop} :
    NoneLeft (s.handle g t env stop.status (s.tasks.report t task stop)).1.tasks := by
  obtain ⟨woken, own, ht, -, -⟩ := loopIter_turned g env t stop.status hc
  intro u other sig ho hr
  by_cases hut : u = t
  · subst hut
    cases stop with
    | signal n =>
      have hk : waitKind (Stop.signal n).status = .otherStop n.word := waitKind_status (.signal n)
      obtain ⟨ht', -⟩ := loopIter_other g env u hc hk
      have hself := handle_self task (.signal n) ht' List.mem_cons_self
      rw [hself] at ho
      cases ho
      cases hr
    | _ =>
      rw [handle_tasks ht u, Tasks.report, Function.update_self] at ho
      split at ho <;> cases ho <;> cases hr
  · rw [handle_tasks ht u, Tasks.report, Function.update_of_ne hut] at ho
    split at ho
    · obtain ⟨task₀, h₀, rfl⟩ := Option.map_eq_some_iff.mp ho
      exact Run.released_ne_stopped _ _ _ hr
    · exact h u other sig ho hr

theorem handle_noneLeft_gone (hc : Consistent s.loop) (h : NoneLeft s.tasks) {status : I32} :
    NoneLeft (s.handle g t env status (Function.update s.tasks t none)).1.tasks := by
  obtain ⟨woken, own, ht, -, -⟩ := loopIter_turned g env t status hc
  intro u other sig ho hr
  rw [handle_tasks ht u] at ho
  split at ho
  · obtain ⟨task₀, h₀, rfl⟩ := Option.map_eq_some_iff.mp ho
    exact Run.released_ne_stopped _ _ _ hr
  · by_cases hut : u = t
    · rw [hut, Function.update_self] at ho
      cases ho
    · rw [Function.update_of_ne hut] at ho
      exact h u other sig ho hr

end Turns

/-! ### Runs -/

theorem signal_step {g : Globals} {s s' : Sys} {m : Pid → Option Signal} {l : Label}
    (hc : Consistent s.loop) (hl : NoneLeft s.tasks) (ha : Awaits s.tasks m) (hok : SignalsKept s l)
    (hs : s.step g l = some s') :
    ∃ m', (signalEvents g s l s').foldlM SignalEvent.accept m = some m' ∧
      Consistent s'.loop ∧ NoneLeft s'.tasks ∧ Awaits s'.tasks m' := by
  obtain ⟨⟨s₁, released⟩, hobs, rfl⟩ := Option.map_eq_some_iff.mp hs
  cases l with
  | move mv =>
    obtain ⟨k, hm, he⟩ := Option.map_eq_some_iff.mp hobs
    cases he
    obtain ⟨m', hm', ha'⟩ := ha.move hm
    exact ⟨m', hm', hc, hl.move hm, ha'⟩
  | attached =>
    have hev : signalEvents g s .attached s₁ = released.flatMap Release.events := by
      simp only [signalEvents, hobs]
    obtain ⟨-, task, stop, htask, hrun, rfl, rfl⟩ := attached_cases hobs
    have hquiet := hok task htask
    obtain ⟨m', hm', ha'⟩ := (ha.report htask hrun).resume s.target 0 fun x hx => by
      have hx' : x ∈ ((s.tasks.report s.target task stop).resumeAll [(s.target, 0)]).2 :=
        List.mem_append_left _ hx
      obtain ⟨hmem, task', h', hr'⟩ := mem_releases hx'
      obtain ⟨hxt, hx0⟩ := Prod.mk.inj (List.mem_singleton.mp hmem)
      refine .of_zero hx0 fun sig hsig => ?_
      rw [hxt, Tasks.report, Function.update_self] at h'
      cases h'
      rw [hrun, (Run.stopped.inj hr').1, hsig] at hquiet
      cases hquiet
    refine ⟨m', hev ▸ hm', hc, ?_, ha'⟩
    intro u other sig ho hr
    dsimp only at ho
    rw [resume_tasks, Tasks.report] at ho
    split at ho
    · obtain ⟨task₀, h₀, rfl⟩ := Option.map_eq_some_iff.mp ho
      exact Run.released_ne_stopped _ _ _ hr
    · rename_i hut
      rw [Function.update_of_ne hut] at ho
      exact hl u other sig ho hr
  | turn t env =>
    have hev : signalEvents g s (.turn t env) s₁ = released.flatMap Release.events := by
      simp only [signalEvents, hobs]
    obtain ⟨-, task, htask, ⟨stop, hrun, hag, hh⟩ | ⟨death, hrun, hh⟩⟩ := turn_cases hobs
    · obtain ⟨rfl, rfl⟩ := Prod.mk.inj hh
      obtain ⟨m', hm', ha'⟩ := (ha.report htask hrun).resumeAll
        (resumes (loopIter g env t stop.status s.loop).out)
        fun x hx => releases_transparent hc hok htask hrun hag hx
      exact ⟨m', hev ▸ hm', handle_consistent hc, handle_noneLeft hc hl, ha'⟩
    · obtain ⟨rfl, rfl⟩ := Prod.mk.inj hh
      have hgone : Awaits (Function.update s.tasks t none) m := by
        refine ha.same t none (fun old ho => ?_) fun new hn => by cases hn
        cases htask.symm.trans ho
        rw [hrun]
        rfl
      obtain ⟨m', hm', ha'⟩ := hgone.resumeAll
        (resumes (loopIter g env t death.status s.loop).out)
        fun x hx => deaths_transparent hc hok htask hrun hx
      exact ⟨m', hev ▸ hm', handle_consistent hc, handle_noneLeft_gone hc hl, ha'⟩

theorem signal_start {s : Sys} (hs : sysStart s) :
    Consistent s.loop ∧ NoneLeft s.tasks ∧ Awaits s.tasks fun _ => none := by
  obtain ⟨target, controller, fdPaths, hiddenFds, ranges, rfl⟩ := hs
  refine ⟨initialLoop_consistent _ _ _ _, ?_, ?_⟩
  · intro t task sig ht
    obtain ⟨-, rfl⟩ := initial_task ht
    nofun
  · intro t sig
    refine iff_of_false (fun hn => by cases hn) ?_
    rintro ⟨task, r, ht, hr⟩
    obtain ⟨-, rfl⟩ := initial_task ht
    cases hr

/-- Every signal that arrived has been injected once into its task, or its task was
killed first, or its stop is still pending; no other signal has been injected. -/
theorem signal_transparency (g : Globals) (s : Sys) (w : List SignalEvent)
    (h : (tracer g).Trace SignalsKept (signalEvents g) s w) :
    ∃ m, w.foldlM SignalEvent.accept (fun _ => none) = some m ∧
      ∀ t sig, m t = some sig ↔
        ∃ task, s.tasks t = some task ∧ task.run = .stopped (.signal sig) false := by
  obtain ⟨m, hm, -, hl, ha⟩ := h.monitor
    (R := fun s m => Consistent s.loop ∧ NoneLeft s.tasks ∧ Awaits s.tasks m)
    (fun s hs => signal_start hs)
    (fun s m l s' hR hok hs => signal_step hR.1 hR.2.1 hR.2.2 hok hs)
  refine ⟨m, hm, fun t sig => (ha t sig).trans ?_⟩
  constructor
  · rintro ⟨task, r, ht, hr⟩
    cases r with
    | true => exact absurd hr (hl t task sig ht)
    | false => exact ⟨task, ht, hr⟩
  · rintro ⟨task, ht, hr⟩
    exact ⟨task, false, ht, hr⟩

/-- The steps that keep the signals whatever else is in the state, for a free capture. -/
def Sys.signalStep (g : Globals) (s : Sys) (l : Label) : Option Sys :=
  match l with
  | .move _ => s.step g l
  | .attached =>
    if (s.tasks s.target).any (·.run.inSignalStop) then none else s.step g l
  | .turn t _ =>
    if (s.tasks t).all (·.run.inSignalStop) && s.loop.owner.isNone then s.step g l else none

theorem signalStep_kept {g : Globals} (s : Sys) (l : Label) (s' : Sys)
    (h : s.signalStep g l = some s') : SignalsKept s l ∧ s.step g l = some s' := by
  cases l with
  | move m => exact ⟨trivial, h⟩
  | attached =>
    simp only [Sys.signalStep] at h
    split at h
    · cases h
    · rename_i hn
      refine ⟨fun task htask => ?_, h⟩
      rw [htask] at hn
      simpa using hn
  | turn t env =>
    simp only [Sys.signalStep] at h
    split at h
    · rename_i hand
      obtain ⟨hall, hfree⟩ := (Bool.and_eq_true _ _).mp hand
      refine ⟨fun task htask => ?_, h⟩
      rw [htask] at hall
      have hin : task.run.inSignalStop = true := hall
      refine ⟨fun hr => ?_, fun c how child hr => ?_, fun he => ?_⟩
      · rw [hr] at hin
        cases hin
      · rw [hr] at hin
        cases hin
      · have howner := he.1
        rw [Option.isNone_iff_eq_none.mp hfree] at howner
        cases howner
    · cases h

/-- SIGUSR1. -/
def sigusr1 : Signal := ⟨10#8, by decide⟩

def signalSteps : List Label := attachSteps ++ [.move (.signal 100 sigusr1), .turn 100 .silent]

/-- The steps of `ls` from `s` with what happens to signals. -/
def signalRun (step : Sys → Label → Option Sys) (s : Sys) (ls : List Label) :
    Option (Sys × List SignalEvent) :=
  ls.foldlM (fun p l => (step p.1 l).map fun s' =>
    (s', p.2 ++ signalEvents plainGlobals p.1 l s')) (s, [])

theorem signal_transparency_usr1 : ∃ s w, (tracer plainGlobals).Trace SignalsKept
      (signalEvents plainGlobals) s w ∧
    w = [.arrived 100 sigusr1, .injected 100 10] ∧
    ∃ m, w.foldlM SignalEvent.accept (fun _ => none) = some m ∧
      ∀ t sig, m t = some sig ↔
        ∃ task, s.tasks t = some task ∧ task.run = .stopped (.signal sig) false := by
  have hrun : (signalRun (Sys.signalStep plainGlobals) bareSys signalSteps).any
      (fun p => decide (p.2 = [.arrived 100 sigusr1, .injected 100 10])) = true := by decide
  obtain ⟨⟨s, w⟩, hs, hw⟩ := (Option.any_eq_true _ _).mp hrun
  have htrace := System.Trace.of_foldlM signalStep_kept
    (.start (S := tracer plainGlobals) (s := bareSys)
      ⟨100, _, _, _, _, rfl⟩) hs
  exact ⟨s, w, htrace, of_decide_eq_true hw, signal_transparency plainGlobals s w htrace⟩

/-- SIGUSR1 reaches the target together with the SIGSTOP of the attach, so its stop is
the one `wait_for_stop` takes, and it is lost. -/
theorem signal_transparency_lost : ¬ ∀ (s : Sys) (w : List SignalEvent),
    (tracer plainGlobals).Trace (fun _ _ => True) (signalEvents plainGlobals) s w →
      ∃ m, w.foldlM SignalEvent.accept (fun _ => none) = some m := by
  intro hall
  have hrun : (signalRun (Sys.step plainGlobals) bareSys
      [.move (.signal 100 sigusr1), .attached]).any
      (fun p => decide (p.2 = [.arrived 100 sigusr1, .suppressed 100])) = true := by decide
  obtain ⟨⟨s, w⟩, hs, hw⟩ := (Option.any_eq_true _ _).mp hrun
  have htrace := System.Trace.of_foldlM (fun _ _ _ hf => ⟨trivial, hf⟩)
    (.start (S := tracer plainGlobals) (s := bareSys)
      ⟨100, _, _, _, _, rfl⟩) hs
  obtain ⟨m, hm⟩ := hall s w htrace
  rw [show w = _ from of_decide_eq_true hw] at hm
  cases hm

end CudaTrace.Ptrace
