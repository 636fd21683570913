import CudaTrace.Ptrace.Kernel

/-!
# Syscall phase parity

The bit with which the loop tells a syscall entry from an exit, against the phase
the task is really in.
-/

namespace CudaTrace.Ptrace
open CudaTrace.Base CudaTrace.Fgraph

/-- The call the tracer should have on record for a task. -/
def Run.recorded : Run → Option Call
  | .kernel c => some c
  | .stopped (.syscallEntry c) reported => if reported then some c else none
  | .stopped (.syscallExit c _) _ | .stopped (.newTask c _ _) _ | .stopped (.exec c _) _ => some c
  | _ => none

/-- A task that can only die. -/
def Run.dying : Run → Bool
  | .stopped .exit _ | .exiting | .zombie _ => true
  | _ => false

/-- A record with a clear bit, or one of the call. -/
def Records (r : Option SyscallState) : Option Call → Prop
  | none => ∀ st, r = some st → st.active = false
  | some c => ∃ st, r = some st ∧ st.active = true ∧ st.nr = c.nr ∧ st.args = c.args

/-- The part of a record that a hand-over of the capture leaves alone. -/
def SyscallState.call (st : SyscallState) : Bool × I64 × Vector U64 6 := (st.active, st.nr, st.args)

theorem Records.congr {r r' : Option SyscallState} {c : Option Call}
    (h : r'.map SyscallState.call = r.map SyscallState.call) (hr : Records r c) : Records r' c := by
  cases r' with
  | none =>
    cases r with
    | none => exact hr
    | some st => cases h
  | some st' =>
    cases r with
    | none => cases h
    | some st =>
      obtain ⟨hact, hnr, hargs⟩ : st'.active = st.active ∧ st'.nr = st.nr ∧ st'.args = st.args := by
        simpa [SyscallState.call] using h
      cases c with
      | none =>
        intro st₁ h₁
        cases h₁
        exact hact.trans (hr st rfl)
      | some c =>
        obtain ⟨st₁, h₁, h2, h3, h4⟩ := hr
        cases h₁
        exact ⟨st', rfl, hact.trans h2, hnr.trans h3, hargs.trans h4⟩

theorem Turned.call {pid : Pid} {s s' : LoopState} {woken : List Pid} {own : List (Pid × I32)}
    (h : Turned pid s s' woken own) {t : Pid} (ht : t ≠ pid) :
    (s'.states t).map SyscallState.call = (s.states t).map SyscallState.call := by
  by_cases hw : t ∈ woken
  · obtain ⟨st, hst, hst'⟩ := h.woke t hw
    rw [hst, hst']
    rfl
  · rw [h.others t ht hw]

theorem Turned.held_after {pid : Pid} {s s' : LoopState} {woken : List Pid}
    {own : List (Pid × I32)} (h : Turned pid s s' woken own) {t : Pid} (ht : t ≠ pid)
    (hh : s'.Held t) : s.Held t ∧ t ∉ woken := by
  have hw : t ∉ woken := by
    intro hw
    obtain ⟨st, -, hst'⟩ := h.woke t hw
    obtain ⟨st₁, h₁, -, hwait⟩ := hh.record
    rw [hst'] at h₁
    cases h₁
    cases hwait
  exact ⟨(isHeld_congr (h.others t ht hw)).symm.trans hh, hw⟩

/-! ### The invariant -/

def Run.inCall : Run → Bool
  | .kernel _ | .stopped (.syscallEntry _) _ | .stopped (.syscallExit _ _) _
  | .stopped (.newTask _ _ _) _ | .stopped (.exec _ _) _ => true
  | _ => false

structure Parity (s : Sys) : Prop where
  consistent : Consistent s.loop
  tracked : ∀ t task, s.tasks t = some task → task.run.dying = false →
    Records (s.loop.states t) task.run.recorded
  untracked : ∀ t, s.tasks t = none → s.loop.states t = none
  standing : ∀ t task stop, s.tasks t = some task → task.run = .stopped stop true →
    ∃ c, stop = .syscallEntry c
  booting : s.booting = true → ∀ t task, s.tasks t = some task →
    task.run.inCall = false ∧ (task.run = .user → task.attachPending = true)

theorem Run.recorded_eq_none {run : Run} (h : run.inCall = false) : run.recorded = none := by
  cases run with
  | stopped stop r => cases stop <;> first | rfl | cases h
  | kernel c => cases h
  | _ => rfl

/-- What a move does to the task that makes it. -/
theorem Task.move_run {task task' : Task} {m : Move} (h : task.move m = some task') :
    task'.tgid = task.tgid ∧
    ((∃ stop, task.run = .user ∧ task'.run = .stop stop ∧ (Run.stop stop).recorded = none ∧
        ((∃ c, stop = .syscallEntry c) → task.attachPending = false) ∧
        (task'.attachPending = task.attachPending ∨ stop = .attach)) ∨
      (∃ c stop, task.run = .kernel c ∧ task'.run = .stop stop ∧
        (Run.stop stop).recorded = some c) ∨
      (task.run.dying = false ∧ task'.run = .stop .exit) ∨
      (∃ death, task'.run = .zombie death)) := by
  cases m with
  | enter t c =>
    simp only [Task.move] at h
    split at h
    · rename_i hg
      cases h
      exact ⟨rfl, Or.inl ⟨_, hg.1, rfl, rfl, fun _ => by simpa using hg.2, Or.inl rfl⟩⟩
    · cases h
  | complete t ret =>
    simp only [Task.move] at h
    split at h
    · rename_i c hr
      cases h
      exact ⟨rfl, Or.inr (Or.inl ⟨c, _, hr, rfl, rfl⟩)⟩
    · cases h
  | spawn t child how thread =>
    simp only [Task.move] at h
    split at h
    · rename_i c hr
      cases h
      exact ⟨rfl, Or.inr (Or.inl ⟨c, _, hr, rfl, rfl⟩)⟩
    · cases h
  | attachStop t =>
    simp only [Task.move] at h
    split at h
    · rename_i hg
      cases h
      exact ⟨rfl, Or.inl ⟨_, hg.1, rfl, rfl, nofun, Or.inr rfl⟩⟩
    · cases h
  | signal t sig =>
    simp only [Task.move] at h
    split at h
    · rename_i hr
      cases h
      exact ⟨rfl, Or.inl ⟨_, hr, rfl, rfl, nofun, Or.inl rfl⟩⟩
    · cases h
  | group t sig =>
    simp only [Task.move] at h
    split at h
    · rename_i hr
      cases h
      exact ⟨rfl, Or.inl ⟨_, hr, rfl, rfl, nofun, Or.inl rfl⟩⟩
    · cases h
  | exec t =>
    simp only [Task.move] at h
    split at h
    · rename_i c hr
      cases h
      exact ⟨rfl, Or.inr (Or.inl ⟨c, _, hr, rfl, rfl⟩)⟩
    · cases h
  | exitStop t =>
    simp only [Task.move] at h
    split at h
    · cases h
    · cases h
    · cases h
    · rename_i h1 h2 h3
      cases h
      refine ⟨rfl, Or.inr (Or.inr (Or.inl ⟨?_, rfl⟩))⟩
      cases hr : task.run with
      | exiting => exact absurd hr h1
      | zombie death => exact absurd hr (h2 death)
      | stopped stop r =>
        cases stop with
        | exit => exact absurd hr (h3 r)
        | _ => rfl
      | _ => rfl
  | die t death =>
    simp only [Task.move] at h
    split at h
    · cases h
    · cases h
      exact ⟨rfl, Or.inr (Or.inr (Or.inr ⟨death, rfl⟩))⟩

theorem Task.move_recorded {task task' : Task} {m : Move} (h : task.move m = some task')
    (hd : task'.run.dying = false) :
    task.run.dying = false ∧ task'.run.recorded = task.run.recorded := by
  rcases (Task.move_run h).2 with ⟨stop, hr, hr', hn, -⟩ | ⟨c, stop, hr, hr', hn⟩ | ⟨-, hr'⟩ | ⟨death, hr'⟩
  · rw [hr, hr', hn]
    exact ⟨rfl, rfl⟩
  · rw [hr, hr', hn]
    exact ⟨rfl, rfl⟩
  · rw [hr'] at hd
    cases hd
  · rw [hr'] at hd
    cases hd

theorem Run.released_dying (run : Run) : run.released.dying = run.dying := by
  cases run with
  | stopped stop r => cases stop <;> rfl
  | _ => rfl

theorem Task.move_pending {task task' : Task} {m : Move} (h : task.move m = some task') (stop : Stop) :
    task'.run ≠ .stopped stop true := by
  rcases (Task.move_run h).2 with ⟨_, -, hr', -⟩ | ⟨_, _, -, hr', -⟩ | ⟨-, hr'⟩ | ⟨_, hr'⟩ <;>
  · rw [hr']
    nofun

/-- Before the first stop of the target is taken no task gets into a syscall. -/
theorem Task.move_outside {task task' : Task} {m : Move} (h : task.move m = some task')
    (hc : task.run.inCall = false) (hp : task.run = .user → task.attachPending = true) :
    task'.run.inCall = false ∧ (task'.run = .user → task'.attachPending = true) := by
  rcases (Task.move_run h).2 with ⟨stop, hr, hr', hn, hentry, -⟩ | ⟨c, stop, hr, -⟩ | ⟨-, hr'⟩ |
    ⟨death, hr'⟩
  · refine ⟨?_, by rw [hr']; nofun⟩
    rw [hr']
    cases stop with
    | syscallEntry c =>
      have hfalse := hentry ⟨c, rfl⟩
      rw [hp hr] at hfalse
      cases hfalse
    | syscallExit c ret => cases hn
    | newTask c how child => cases hn
    | exec c former => cases hn
    | _ => rfl
  · rw [hr] at hc
    cases hc
  · rw [hr']
    exact ⟨rfl, nofun⟩
  · rw [hr']
    exact ⟨rfl, nofun⟩

/-! ### Moves and the first stop -/

theorem Parity.move {s : Sys} {m : Move} {k : Tasks} (h : Parity s)
    (hexec : ∀ t, m = .exec t → ∀ task, s.tasks t = some task → task.tgid = t)
    (hm : s.tasks.move m = some k) : Parity { s with tasks := k } := by
  obtain ⟨task, task', htask, hmove, hcase⟩ := move_cases hm
  -- what the invariant says of the task that moved
  have hself : (task'.run.dying = false → Records (s.loop.states m.task) task'.run.recorded) := by
    intro hd
    obtain ⟨hd0, hrec⟩ := Task.move_recorded hmove hd
    rw [hrec]
    exact h.tracked m.task task htask hd0
  have hboot : s.booting = true →
      task'.run.inCall = false ∧ (task'.run = .user → task'.attachPending = true) := by
    intro hb
    obtain ⟨hc, hp⟩ := h.booting hb m.task task htask
    exact Task.move_outside hmove hc hp
  rcases hcase with ⟨hk, -, -⟩ | ⟨t, child, how, thread, tgid, rfl, hc, hk⟩ |
    ⟨t, leader, death, rfl, hne, -, -, -⟩
  · subst hk
    refine ⟨h.consistent, ?_, ?_, ?_, ?_⟩
    · intro u other hu hd
      rcases update_some hu with ⟨rfl, rfl⟩ | ⟨-, hu⟩
      · exact hself hd
      · exact h.tracked u other hu hd
    · intro u hu
      exact h.untracked u (update_none hu).2
    · intro u other stop hu hr
      rcases update_some hu with ⟨rfl, rfl⟩ | ⟨-, hu⟩
      · exact absurd hr (Task.move_pending hmove stop)
      · exact h.standing u other stop hu hr
    · intro hb u other hu
      rcases update_some hu with ⟨rfl, rfl⟩ | ⟨-, hu⟩
      · exact hboot hb
      · exact h.booting hb u other hu
  · subst hk
    refine ⟨h.consistent, ?_, ?_, ?_, ?_⟩
    · intro u other hu hd
      rcases update_some hu with ⟨rfl, rfl⟩ | ⟨-, hu⟩
      · intro st hst
        rw [h.untracked u hc] at hst
        cases hst
      · rcases update_some hu with ⟨rfl, rfl⟩ | ⟨-, hu⟩
        · exact hself hd
        · exact h.tracked u other hu hd
    · intro u hu
      exact h.untracked u (update_none (update_none hu).2).2
    · intro u other stop hu hr
      rcases update_some hu with ⟨rfl, rfl⟩ | ⟨-, hu⟩
      · cases hr
      · rcases update_some hu with ⟨rfl, rfl⟩ | ⟨-, hu⟩
        · exact absurd hr (Task.move_pending hmove stop)
        · exact h.standing u other stop hu hr
    · intro hb u other hu
      rcases update_some hu with ⟨rfl, rfl⟩ | ⟨-, hu⟩
      · exact ⟨rfl, fun _ => rfl⟩
      · rcases update_some hu with ⟨rfl, rfl⟩ | ⟨-, hu⟩
        · exact hboot hb
        · exact h.booting hb u other hu
  · exact absurd (hexec t rfl task htask) hne

theorem Parity.attached {g : Globals} {s s' : Sys} {released : List Release} (h : Parity s)
    (hs : s.stepObs g .attached = some (s', released)) : Parity s' := by
  obtain ⟨hb, task, stop, htask, hrun, rfl, -⟩ := attached_cases hs
  obtain ⟨hc, -⟩ := h.booting hb _ task htask
  have hk : ((s.tasks.report s.target task stop).resume s.target 0).1 =
      Function.update s.tasks s.target (some { task with run := stop.resumed }) := by
    funext u
    rw [resume_tasks, Tasks.report]
    by_cases hu : u = s.target
    · subst hu
      rw [if_pos rfl, Function.update_self, Function.update_self]
      rfl
    · rw [if_neg hu, Function.update_of_ne hu, Function.update_of_ne hu]
  rw [hk]
  -- the first stop lies outside every syscall, so nothing is to be recorded
  have hnone : stop.resumed.recorded = none := by
    rw [hrun] at hc
    cases stop <;> first | rfl | cases hc
  have hbit : ∀ st, s.loop.states s.target = some st → task.run.dying = false → st.active = false := by
    intro st hst hd
    have hrec := h.tracked _ task htask hd
    rw [Run.recorded_eq_none hc] at hrec
    exact hrec st hst
  refine ⟨h.consistent, ?_, ?_, ?_, nofun⟩
  · intro u other hu hd
    rcases update_some hu with ⟨rfl, rfl⟩ | ⟨-, hu⟩
    · dsimp only at hd ⊢
      rw [hnone]
      intro st hst
      refine hbit st hst ?_
      rw [hrun]
      cases stop <;> first | rfl | cases hd
    · exact h.tracked u other hu hd
  · intro u hu
    exact h.untracked u (update_none hu).2
  · intro u other stop' hu hr
    rcases update_some hu with ⟨rfl, rfl⟩ | ⟨-, hu⟩
    · cases stop <;> cases hr
    · exact h.standing u other stop' hu hr

/-! ### Turns -/

section Handle

variable {g : Globals} {s : Sys} {t : Pid} {env : Env} {status : I32} {k : Tasks}
  {woken : List Pid} {own : List (Pid × I32)}

theorem Turned.requests {loop loop' : LoopState}
    (ht : Turned t (drained env loop) loop' woken own) :
    resumes loop'.out = (woken.map fun u => (u, 0)) ++ own := by
  obtain ⟨o, hout, hres⟩ := ht.resumed
  rw [hout]
  exact hres

theorem handle_tasks
    (ht : Turned t (drained env s.loop) (loopIter g env t status s.loop) woken own) (u : Pid) :
    (s.handle g t env status k).1.tasks u =
      if u ∈ woken ∨ u ∈ own.map Prod.fst then (k u).map Task.released else k u := by
  have hk : (s.handle g t env status k).1.tasks u =
      (k.resumeAll (resumes (loopIter g env t status s.loop).out)).1 u := rfl
  rw [hk, resumeAll_tasks, ht.requests]
  simp

theorem handle_consistent (hc : Consistent s.loop) : Consistent (s.handle g t env status k).1.loop := by
  obtain ⟨woken, own, ht, -, -⟩ := loopIter_turned g env t status hc
  exact ht.consistent

/-- A turn that resumes no other task out of a pending stop, but for attach and exit
stops, keeps the records of the others right. -/
theorem Parity.handle (h : Parity s) (hb : s.booting = false)
    (ht : Turned t (drained env s.loop) (loopIter g env t status s.loop) woken own)
    (hother : ∀ u, u ≠ t → k u = s.tasks u)
    (hpending : ∀ u, u ∈ woken ∨ u ∈ own.map Prod.fst → u ≠ t → ∀ task stop,
      s.tasks u = some task → task.run = .stopped stop false → stop = .attach ∨ stop = .exit)
    (hself : ∀ task, (s.handle g t env status k).1.tasks t = some task →
      (task.run.dying = false →
        Records ((loopIter g env t status s.loop).states t) task.run.recorded) ∧
      ∀ stop, task.run = .stopped stop true → ∃ c, stop = .syscallEntry c)
    (hnone : (s.handle g t env status k).1.tasks t = none →
      (loopIter g env t status s.loop).states t = none) :
    Parity (s.handle g t env status k).1 := by
  have htasks := handle_tasks (k := k) ht
  -- another task afterwards is the old one, or the old one resumed
  have hlook : ∀ u task, u ≠ t → (s.handle g t env status k).1.tasks u = some task →
      ∃ task₀, s.tasks u = some task₀ ∧ (task = task₀ ∨ (task = task₀.released ∧
        ∀ stop, task₀.run = .stopped stop false → stop = .attach ∨ stop = .exit)) := by
    intro u task hut hu
    rw [htasks u, hother u hut] at hu
    split at hu
    · rename_i hm
      obtain ⟨task₀, h₀, rfl⟩ := Option.map_eq_some_iff.mp hu
      exact ⟨task₀, h₀, Or.inr ⟨rfl, fun stop => hpending u hm hut task₀ stop h₀⟩⟩
    · exact ⟨task, hu, Or.inl rfl⟩
  refine ⟨ht.consistent, ?_, ?_, ?_, fun hb' => absurd (hb.symm.trans hb') Bool.false_ne_true⟩
  · intro u task hu hd
    by_cases hut : u = t
    · subst hut
      exact (hself task hu).1 hd
    · refine Records.congr (ht.call hut) ?_
      obtain ⟨task₀, h₀, rfl | ⟨rfl, hstop⟩⟩ := hlook u task hut hu
      · exact h.tracked u task h₀ hd
      · have hd₀ : task₀.run.dying = false := (Run.released_dying task₀.run).symm.trans hd
        have hrec : task₀.released.run.recorded = task₀.run.recorded := by
          cases hrun : task₀.run with
          | stopped stop reported =>
            cases reported with
            | true =>
              obtain ⟨c, rfl⟩ := h.standing u task₀ stop h₀ hrun
              rw [Task.released, hrun]
              rfl
            | false =>
              rcases hstop stop hrun with rfl | rfl
              · rw [Task.released, hrun]
                rfl
              · rw [hrun] at hd₀
                cases hd₀
          | _ =>
            rw [Task.released, hrun]
            rfl
        rw [hrec]
        exact h.tracked u task₀ h₀ hd₀
  · intro u hu
    by_cases hut : u = t
    · subst hut
      exact hnone hu
    · have h₀ : s.tasks u = none := by
        rw [htasks u, hother u hut] at hu
        split at hu
        · exact Option.map_eq_none_iff.mp hu
        · exact hu
      have hcall := ht.call hut
      rw [show (drained env s.loop).states u = none from h.untracked u h₀] at hcall
      exact Option.map_eq_none_iff.mp hcall
  · intro u task stop hu hr
    by_cases hut : u = t
    · subst hut
      exact (hself task hu).2 stop hr
    · obtain ⟨task₀, h₀, rfl | ⟨rfl, -⟩⟩ := hlook u task hut hu
      · exact h.standing u task stop h₀ hr
      · exact absurd hr (Run.released_ne_stopped _ _ _)

theorem handle_self (task : Task) (stop : Stop)
    (ht : Turned t (drained env s.loop) (loopIter g env t status s.loop) woken own)
    (hm : t ∈ own.map Prod.fst) :
    (s.handle g t env status (s.tasks.report t task stop)).1.tasks t =
      some { task with run := stop.resumed } := by
  rw [handle_tasks ht t, if_pos (Or.inr hm), Tasks.report, Function.update_self]
  rfl

theorem handle_self_kept
    (ht : Turned t (drained env s.loop) (loopIter g env t status s.loop) woken own)
    (hm : t ∉ own.map Prod.fst) : (s.handle g t env status k).1.tasks t = k t := by
  rw [handle_tasks ht t, if_neg]
  intro hc
  rcases hc with hc | hc
  · exact (ht.held hc).1 rfl
  · exact hm hc

end Handle

/-- The turn for `t` closes the open capture. -/
def EndsCapture (s : Sys) (t : Pid) : Prop :=
  s.loop.owner = some t ∧ ∃ task, s.tasks t = some task ∧
    ((∃ c ret, task.run = .stopped (.syscallExit c ret) false) ∨ ∃ death, task.run = .zombie death)

/-- The steps on which the loop keeps track of every task: registers can be read at
syscall stops, a new task's pending stop at its parent's event is none but its attach
stop, and only a leader executes. -/
def Tracked (s : Sys) : Label → Prop
  | .move (.exec t) => ∀ task, s.tasks t = some task → task.tgid = t
  | .move _ | .attached => True
  | .turn t env => ∀ task stop, s.tasks t = some task → task.run = .stopped stop false →
    match stop with
    | .syscallEntry _ | .syscallExit _ _ => (env.getregs t).isSome
    | .newTask _ _ child => (env.geteventmsg t).isSome → ∀ task' stop', s.tasks child = some task' →
        task'.run = .stopped stop' false → stop' = .attach
    | _ => True

/-- The pending stop of a held task, if there is one, is its exit stop. -/
def WaitersParked (s : Sys) : Label → Prop
  | .turn t _ => EndsCapture s t → ∀ u task stop, s.loop.Held u → s.tasks u = some task →
      task.run = .stopped stop false → stop = .exit
  | _ => True

theorem Parity.turn {g : Globals} {s s' : Sys} {t : Pid} {env : Env} {released : List Release}
    (h : Parity s) (hok : Tracked s (.turn t env)) (hpark : WaitersParked s (.turn t env))
    (hs : s.stepObs g (.turn t env) = some (s', released)) : Parity s' := by
  obtain ⟨hb, task, htask, hcase⟩ := turn_cases hs
  have hreport : ∀ stop u, u ≠ t → s.tasks.report t task stop u = s.tasks u :=
    fun stop u hu => Function.update_of_ne hu _ _
  -- nothing but `t` itself is resumed
  have honly : ∀ own : List (Pid × I32), (∀ x ∈ own, x.1 = t) →
      ∀ u, u ∈ ([] : List Pid) ∨ u ∈ own.map Prod.fst → u ≠ t → ∀ task stop,
        s.tasks u = some task → task.run = .stopped stop false → stop = .attach ∨ stop = .exit := by
    intro own hown u hu hut
    rcases hu with hu | hu
    · cases hu
    · obtain ⟨x, hx, rfl⟩ := List.mem_map.mp hu
      exact absurd (hown x hx) hut
  have hsingle : ∀ sig : I32, ∀ x ∈ [(t, sig)], x.1 = t := by
    intro sig x hx
    obtain rfl := List.mem_singleton.mp hx
    rfl
  -- a turn that leaves the records alone and resumes `t` from a stop outside the calls
  have hquiet : ∀ (stop : Stop) (own : List (Pid × I32)) (hrun : task.run = .stopped stop false)
      (ht : Turned t (drained env s.loop) (loopIter g env t stop.status s.loop) [] own)
      (hst : (loopIter g env t stop.status s.loop).states = s.loop.states)
      (hm : t ∈ own.map Prod.fst) (hrec : stop.resumed.recorded = (Run.stop stop).recorded)
      (hpending : ∀ u, u ∈ ([] : List Pid) ∨ u ∈ own.map Prod.fst → u ≠ t → ∀ task stop,
        s.tasks u = some task → task.run = .stopped stop false → stop = .attach ∨ stop = .exit),
      Parity (s.handle g t env stop.status (s.tasks.report t task stop)).1 := by
    intro stop own hrun ht hst hm hrec hpending
    have hself := handle_self task stop ht hm
    refine h.handle hb ht (hreport stop) hpending ?_ ?_
    · intro task' h'
      rw [hself] at h'
      cases h'
      refine ⟨fun hd => ?_, fun stop' hr => ?_⟩
      · have hd₀ : task.run.dying = false := by
          rw [hrun]
          exact (Run.released_dying (.stopped stop false)).symm.trans hd
        have hold := h.tracked t task htask hd₀
        rw [hrun] at hold
        dsimp only
        rw [hst, hrec]
        exact hold
      · cases stop <;> cases hr
    · intro hn
      rw [hself] at hn
      cases hn
  rcases hcase with ⟨stop, hrun, hag, hh⟩ | ⟨death, hrun, hh⟩
  · have hkind := waitKind_status stop
    have hok' := hok task stop htask hrun
    obtain rfl : (s.handle g t env stop.status (s.tasks.report t task stop)).1 = s' := by rw [hh]
    cases stop with
    | syscallEntry c =>
      obtain ⟨regs, hregs⟩ := Option.isSome_iff_exists.mp hok'
      have hidle : ∀ st, s.loop.states t = some st → st.active = false := by
        have hrec := h.tracked t task htask (by rw [hrun]; rfl)
        rw [hrun] at hrec
        exact hrec
      have hcall : regs.origRax = c.nr ∧
          regs.args = c.args := by
        simpa [Env.agrees, hregs] using hag
      obtain ⟨state, w, b, ht, hst⟩ := loopIter_entry g env t h.consistent hkind hregs hidle
      have hrec : Records ((loopIter g env t (Stop.syscallEntry c).status s.loop).states t) (some c) :=
        ⟨_, hst, rfl, hcall.1, hcall.2⟩
      cases w with
      | true =>
        have hself := handle_self_kept (k := s.tasks.report t task (.syscallEntry c)) ht nofun
        rw [Tasks.report, Function.update_self] at hself
        refine h.handle hb ht (hreport _) (honly _ nofun) ?_ ?_
        · intro task' h'
          rw [Tasks.report] at h'
          rw [hself] at h'
          cases h'
          exact ⟨fun _ => hrec, fun stop' hr => ⟨c, by cases hr; rfl⟩⟩
        · intro hn
          rw [Tasks.report] at hn
          rw [hself] at hn
          cases hn
      | false =>
        have hself := handle_self task (.syscallEntry c) ht List.mem_cons_self
        refine h.handle hb ht (hreport _) (honly _ (hsingle 0)) ?_ ?_
        · intro task' h'
          rw [hself] at h'
          cases h'
          exact ⟨fun _ => hrec, fun stop' hr => by cases hr⟩
        · intro hn
          rw [hself] at hn
          cases hn
    | syscallExit c ret =>
      obtain ⟨regs, hregs⟩ := Option.isSome_iff_exists.mp hok'
      obtain ⟨state, hst, hact, -⟩ : Records (s.loop.states t) (some c) := by
        have hrec := h.tracked t task htask (by rw [hrun]; rfl)
        rw [hrun] at hrec
        exact hrec
      obtain ⟨-, woken, ht, hst'⟩ := loopIter_exit g env t h.consistent hkind hregs hst hact
      have hself := handle_self task (.syscallExit c ret) ht List.mem_cons_self
      refine h.handle hb ht (hreport _) ?_ ?_ ?_
      · intro u hu hut task' stop' h' hr'
        rcases hu with hu | hu
        · have howner : s.loop.owner = some t := ht.ends (List.ne_nil_of_mem hu)
          exact Or.inr (hpark ⟨howner, task, htask, Or.inl ⟨c, ret, hrun⟩⟩ u task' stop'
            (ht.held hu).2 h' hr')
        · exact absurd (List.mem_singleton.mp hu) hut
      · intro task' h'
        rw [hself] at h'
        cases h'
        refine ⟨fun _ => ?_, fun stop' hr => by cases hr⟩
        rw [hst']
        intro st he
        cases he
        rfl
      · intro hn
        rw [hself] at hn
        cases hn
    | newTask c how child =>
      obtain ⟨ht, hst⟩ := loopIter_newTask g env t h.consistent hkind
      cases hmsg : env.geteventmsg t with
      | none =>
        rw [hmsg] at ht
        exact hquiet _ _ hrun ht hst List.mem_cons_self rfl (honly _ (hsingle 0))
      | some msg =>
        rw [hmsg] at ht
        have hchild : msg.setWidth 32 = child := by
          have hm : msg = child.setWidth 64 := by simpa [Env.agrees, hmsg] using hag
          rw [hm]
          exact BitVec.setWidth_setWidth_of_le child (by decide)
        refine hquiet _ _ hrun ht hst (by simp) rfl ?_
        intro u hu hut task' stop' h' hr'
        have hu' : u = child := by
          rcases hu with hu | hu
          · cases hu
          · rcases List.mem_cons.mp hu with hu | hu
            · exact hu.trans hchild
            · exact absurd (List.mem_singleton.mp hu) hut
        subst hu'
        exact Or.inl (hok' (by rw [hmsg]; rfl) task' stop' h' hr')
    | exec c former =>
      obtain ⟨ht, hst⟩ := loopIter_exec g env t h.consistent hkind
      exact hquiet _ _ hrun ht hst List.mem_cons_self rfl (honly _ (hsingle 0))
    | exit =>
      obtain ⟨ht, hst⟩ := loopIter_other g env t h.consistent hkind
      exact hquiet _ _ hrun ht hst List.mem_cons_self rfl (honly _ (hsingle _))
    | signal sig =>
      obtain ⟨ht, hst⟩ := loopIter_other g env t h.consistent hkind
      exact hquiet _ _ hrun ht hst List.mem_cons_self rfl (honly _ (hsingle _))
    | group sig =>
      obtain ⟨ht, hst⟩ := loopIter_other g env t h.consistent hkind
      exact hquiet _ _ hrun ht hst List.mem_cons_self rfl (honly _ (hsingle _))
    | attach =>
      obtain ⟨ht, hst⟩ := loopIter_other g env t h.consistent hkind
      exact hquiet _ _ hrun ht hst List.mem_cons_self rfl (honly _ (hsingle _))
  · obtain rfl : (s.handle g t env death.status (Function.update s.tasks t none)).1 = s' := by
      rw [hh]
    obtain ⟨woken, ht, hst⟩ := loopIter_gone g env t h.consistent (waitKind_death death)
    have hself := handle_self_kept (k := Function.update s.tasks t none) ht nofun
    rw [Function.update_self] at hself
    refine h.handle hb ht (fun u hu => Function.update_of_ne hu _ _) ?_ ?_ fun _ => hst
    · intro u hu hut task' stop' h' hr'
      rcases hu with hu | hu
      · have howner : s.loop.owner = some t := ht.ends (List.ne_nil_of_mem hu)
        exact Or.inr (hpark ⟨howner, task, htask, Or.inr ⟨death, hrun⟩⟩ u task' stop'
          (ht.held hu).2 h' hr')
      · cases hu
    · intro task' h'
      rw [hself] at h'
      cases h'

/-! ### Runs -/

theorem Parity.start {s : Sys} (hs : sysStart s) : Parity s := by
  obtain ⟨target, controller, fdPaths, hiddenFds, ranges, rfl⟩ := hs
  refine ⟨initialLoop_consistent _ _ _ _, ?_, fun _ _ => rfl, ?_, ?_⟩
  · intro t task h _
    obtain ⟨-, rfl⟩ := initial_task h
    exact nofun
  · intro t task stop h hr
    obtain ⟨-, rfl⟩ := initial_task h
    cases hr
  · intro _ t task h
    obtain ⟨-, rfl⟩ := initial_task h
    exact ⟨rfl, fun _ => rfl⟩

theorem Parity.step {g : Globals} {s s' : Sys} {l : Label} (h : Parity s) (hok : Tracked s l)
    (hpark : WaitersParked s l) (hs : s.step g l = some s') : Parity s' := by
  obtain ⟨⟨s₁, released⟩, hobs, rfl⟩ := Option.map_eq_some_iff.mp hs
  cases l with
  | move m =>
    obtain ⟨k, hm, he⟩ := Option.map_eq_some_iff.mp hobs
    cases he
    refine h.move (fun t ht task htask => ?_) hm
    subst ht
    exact hok task htask
  | attached => exact h.attached hobs
  | turn t env => exact h.turn hok hpark hobs

theorem parity_of_reach {g : Globals} {ok : Sys → Label → Prop} {s : Sys}
    (hok : ∀ s l, ok s l → Tracked s l ∧ WaitersParked s l) (h : (tracer g).Reach ok s) : Parity s :=
  h.invariant (fun _ hs => .start hs) fun s l _ hinv hl hs =>
    hinv.step (hok s l hl).1 (hok s l hl).2 hs

end CudaTrace.Ptrace
