import Mathlib.Data.Finset.Card
import CudaTrace.Base.Transition
import CudaTrace.Ptrace.Kernel

/-!
# Records under way (ptrace.rs, the two pipes)

A traced thread publishes a record inside a write call of its own, and the tracer stops it
like in any other call. The tracer drains both pipes after each return of `waitpid`; while
it handles the reported stop, the other threads go on.
-/

namespace CudaTrace.Ptrace
open CudaTrace.Base

inductive Record where
  | depth (msg : DepthUpdate)
  | window (msg : FgraphWindowUpdate)

inductive RecordKind where
  | depth
  | window
  deriving DecidableEq

def Record.kind : Record → RecordKind
  | .depth _ => .depth
  | .window _ => .window

/-- The sizes of `DepthUpdate` and `FgraphWindowUpdate` in bytes. -/
def RecordKind.size : RecordKind → ℕ
  | .depth => 8
  | .window => 112

def Record.depth? : Record → Option DepthUpdate
  | .depth msg => some msg
  | .window _ => none

def Record.window? : Record → Option FgraphWindowUpdate
  | .depth _ => none
  | .window msg => some msg

/-- The tracer and its tasks with the undrained records, oldest first, each beside its
writer; `turn` is the stop that was reported and not handled yet, and `published` marks the
threads whose current write call has been carried out. -/
structure Backlog where
  sys : Sys
  published : Pid → Bool
  records : List (Pid × Record)
  turn : Option (Pid × Env × I32)

/-- `waited` is a return of `waitpid` with the two drains, `handle` the rest of the turn. -/
inductive BacklogLabel where
  | move (m : Move)
  | attached
  | publish (t : Pid) (r : Record)
  | waited (t : Pid) (env : Env)
  | handle

inductive Transfer where
  | sent (t : Pid) (r : Record)
  | refused (t : Pid) (r : Record)
  | drained (records : List (Pid × Record))

/-- The thread is inside a write call. -/
def Tasks.writing (k : Tasks) (t : Pid) : Bool :=
  match k t with
  | some ⟨_, _, .kernel c⟩ => c.nr = sysWrite
  | _ => false

/-- The moves of a call that makes a task or starts a program. -/
def Move.starts : Move → Bool
  | .spawn _ _ _ _ | .exec _ => true
  | _ => false

/-- A new call has published nothing. -/
def Move.republish (m : Move) (published : Pid → Bool) : Pid → Bool :=
  match m with
  | .enter t _ => Function.update published t false
  | _ => published

namespace Backlog

def queue (s : Backlog) (kind : RecordKind) : List (Pid × Record) :=
  s.records.filter (·.2.kind = kind)

/-- The pipe takes one more record. -/
def room (cap : RecordKind → ℕ) (s : Backlog) (kind : RecordKind) : Bool :=
  ((s.queue kind).length + 1) * kind.size ≤ cap kind

/-- A write call makes no task and starts no program. -/
def allows (s : Backlog) (m : Move) : Bool := !(m.starts && s.sys.tasks.writing m.task)

/-- What the tracer is answered when it drains the pipes. -/
def drainedEnv (s : Backlog) (env : Env) : Env :=
  { env with
    depthRecords := s.records.filterMap (·.2.depth?)
    windowRecords := s.records.filterMap (·.2.window?) }

/-- The answers of the rest of the turn, in which nothing is drained. -/
def restEnv (env : Env) : Env := { env with depthRecords := [], windowRecords := [] }

/-- The records are drained for a status word of `t`. -/
def wait (s : Backlog) (t : Pid) (env : Env) (status : I32) (k : Tasks) : Backlog :=
  { s with
    sys := { s.sys with tasks := k, loop := drained (s.drainedEnv env) s.sys.loop }
    records := []
    turn := some (t, restEnv env, status) }

/-- One step, with the records that moved. -/
def stepObs (g : Globals) (cap : RecordKind → ℕ) (s : Backlog) :
    BacklogLabel → Option (Backlog × List Transfer)
  | .move m =>
    if s.allows m then
      (s.sys.tasks.move m).map fun k =>
        ({ s with
            sys := { s.sys with tasks := k }
            published := m.republish s.published }, [])
    else none
  | .attached => (s.sys.step g .attached).map fun sys => ({ s with sys := sys }, [])
  | .publish t r =>
    if s.sys.tasks.writing t && !s.published t then
      let s' := { s with published := Function.update s.published t true }
      if s.room cap r.kind then some ({ s' with records := s.records ++ [(t, r)] }, [.sent t r])
      else some (s', [.refused t r])
    else none
  | .waited t env =>
    if s.turn.isSome || s.sys.booting then none
    else match s.sys.tasks t with
      | some task =>
        match task.run with
        | .stopped stop false =>
          if env.agrees t stop then
            some (s.wait t env stop.status (s.sys.tasks.report t task stop), [.drained s.records])
          else none
        | .zombie death =>
          some (s.wait t env death.status (Function.update s.sys.tasks t none),
            [.drained s.records])
        | _ => none
      | none => none
  | .handle =>
    match s.turn with
    | some (t, env, status) =>
      some ({ s with sys := (s.sys.handle g t env status s.sys.tasks).1, turn := none }, [])
    | none => none

def step (g : Globals) (cap : RecordKind → ℕ) (s : Backlog) (l : BacklogLabel) : Option Backlog :=
  (s.stepObs g cap l).map Prod.fst

def transfers (g : Globals) (cap : RecordKind → ℕ) (s : Backlog) (l : BacklogLabel)
    (_ : Backlog) : List Transfer :=
  ((s.stepObs g cap l).map Prod.snd).getD []

def initial (sys : Sys) : Backlog := ⟨sys, fun _ => false, [], none⟩

/-- The traced threads are few enough for one record each to fit. -/
def Fits (cap : RecordKind → ℕ) (s : Backlog) : Prop :=
  ∃ traced : Finset Pid, (∀ t task, s.sys.tasks t = some task → t ∈ traced) ∧
    ∀ kind, traced.card * kind.size ≤ cap kind

end Backlog

def backlog (g : Globals) (cap : RecordKind → ℕ) : System Backlog BacklogLabel :=
  System.ofPartial (fun s => ∃ sys, sysStart sys ∧ s = .initial sys) (Backlog.step g cap)

/-! ### A turn in two steps -/

section

variable (env : Env) (pid : Pid)

theorem readCstringLoop_restEnv (fuel : ℕ) (cursor : U64) (out : List UInt8) :
    readCstringLoop (Backlog.restEnv env) pid fuel cursor out =
      readCstringLoop env pid fuel cursor out := by
  induction fuel generalizing cursor out with
  | zero => rfl
  | succ fuel ih =>
    unfold readCstringLoop
    simp only [ih]
    rfl

theorem capturePathHint_restEnv (nr : I64) (args : Vector U64 6) :
    capturePathHint (Backlog.restEnv env) pid nr args = capturePathHint env pid nr args := by
  have hstring : ∀ addr, readRemoteCstring (Backlog.restEnv env) pid addr =
      readRemoteCstring env pid addr := by
    intro addr
    unfold readRemoteCstring
    rw [readCstringLoop_restEnv]
  unfold capturePathHint
  simp only [hstring]
  rfl

theorem onSyscallStop_restEnv (g : Globals) (s : LoopState) :
    onSyscallStop g (Backlog.restEnv env) pid s = onSyscallStop g env pid s := by
  have hentry : ∀ regs state, entryState g (Backlog.restEnv env) pid regs state s =
      entryState g env pid regs state s := by
    intro regs state
    unfold entryState
    simp only [capturePathHint_restEnv]
    rfl
  unfold onSyscallStop onEntry
  simp only [hentry]
  rfl

/-- Draining first and then handling with empty pipes is a turn of the loop. -/
theorem loopIter_restEnv (g : Globals) (status : I32) (s : LoopState) :
    loopIter g (Backlog.restEnv env) pid status (drained env s) = loopIter g env pid status s := by
  have hd : drained (Backlog.restEnv env) (drained env s) = drained env s := rfl
  unfold loopIter
  rw [hd]
  cases waitKind status with
  | syscallStop => exact onSyscallStop_restEnv env pid g _
  | _ => rfl

/-- A turn in which nothing happens between its two steps is a turn of `tracer`. -/
theorem waited_handle {g : Globals} {cap : RecordKind → ℕ} {s s₁ s₂ : Backlog}
    (hw : s.step g cap (.waited pid env) = some s₁) (hh : s₁.step g cap .handle = some s₂) :
    s.sys.step g (.turn pid (s.drainedEnv env)) = some s₂.sys ∧ s₂.records = [] := by
  have hturn : ∀ status k, s₁ = s.wait pid env status k → s₂.records = [] ∧
      s₂.sys = (s.sys.handle g pid (s.drainedEnv env) status k).1 := by
    rintro status k rfl
    cases hh
    have hrest : Backlog.restEnv env = Backlog.restEnv (s.drainedEnv env) := rfl
    refine ⟨rfl, ?_⟩
    unfold Sys.handle Backlog.wait
    dsimp only
    rw [hrest, loopIter_restEnv]
  unfold Backlog.step Backlog.stepObs at hw
  dsimp only at hw
  split at hw
  · cases hw
  · rename_i hb
    have hboot : s.sys.booting = false := by
      cases h : s.sys.booting with
      | false => rfl
      | true => exact absurd (by rw [h, Bool.or_true]) hb
    unfold Sys.step Sys.stepObs
    rw [hboot]
    cases htask : s.sys.tasks pid with
    | none => simp [htask] at hw
    | some task =>
      simp only [htask] at hw ⊢
      split at hw
      · rename_i stop hrun
        split_ifs at hw with hag
        · obtain ⟨hrec, hsys⟩ := hturn _ _ (Option.some.inj hw).symm
          have hag' : (s.drainedEnv env).agrees pid stop = true := hag
          simp only [hrun, hag', if_true, Bool.false_eq_true, if_false, Option.map_some]
          exact ⟨congrArg some hsys.symm, hrec⟩
        · cases hw
      · rename_i death hrun
        obtain ⟨hrec, hsys⟩ := hturn _ _ (Option.some.inj hw).symm
        simp only [hrun, Bool.false_eq_true, if_false, Option.map_some]
        exact ⟨congrArg some hsys.symm, hrec⟩
      · cases hw

end

/-! ### Who may still publish -/

/-- The task enters no call and carries none out before the tracer resumes it. -/
def Task.Waits (task : Task) : Prop :=
  (∀ c, task.run ≠ .kernel c) ∧ (task.run = .user → task.attachPending = true)

/-- A task with an undrained record: it is not about to carry out a write call. The second
case is a thread that took over the id of the writer. -/
def Task.Calm (published : Bool) (t : Pid) (task : Task) : Prop :=
  ∀ c, task.run = .kernel c →
    (c.nr = sysWrite ∧ published = true) ∨ (c.nr ≠ sysWrite ∧ task.tgid = t)

/-- A task with a record that was published after the last drain. -/
def Task.Parked (published : Bool) (t : Pid) (task : Task) : Prop :=
  match task.run with
  | .kernel c => c.nr = sysWrite ∧ published = true
  | .stopped (.exec c _) _ => c.nr ≠ sysWrite ∧ task.tgid = t
  | .stopped (.syscallExit _ _) _ | .stopped .exit _ | .exiting | .zombie _ => True
  | _ => False

theorem Task.Parked.calm {published : Bool} {t : Pid} {task : Task}
    (h : task.Parked published t) : task.Calm published t := by
  intro c hc
  unfold Task.Parked at h
  rw [hc] at h
  exact Or.inl h

/-- Resumed at the end of a turn, the writer of a record is not about to write. -/
theorem Task.Parked.released {published : Bool} {t : Pid} {task : Task}
    (h : task.Parked published t) : task.released.Calm published t := by
  intro c hc
  obtain ⟨tgid, pending, run⟩ := task
  cases run with
  | kernel c' =>
    cases hc
    exact Or.inl h
  | stopped stop r =>
    cases stop with
    | exec c' former =>
      cases hc
      exact Or.inr h
    | syscallExit c' ret => cases hc
    | exit => cases hc
    | _ => exact h.elim
  | exiting => cases hc
  | zombie death => cases hc
  | user => cases hc

/-- Every move ends in a stop or in death. -/
theorem Task.move_ends {task task' : Task} {m : Move} (h : task.move m = some task') :
    (∃ stop, task'.run = .stopped stop false) ∨ ∃ death, task'.run = .zombie death := by
  cases m <;> simp only [Task.move] at h <;>
    first
    | (obtain ⟨-, he⟩ := Option.ite_none_right_eq_some.mp h
       cases he
       exact Or.inl ⟨_, rfl⟩)
    | (split at h <;> cases h
       first | exact Or.inl ⟨_, rfl⟩ | exact Or.inr ⟨_, rfl⟩)

theorem Task.move_waits {task task' : Task} {m : Move} (h : task.move m = some task') :
    task'.Waits := by
  rcases Task.move_ends h with ⟨stop, hr⟩ | ⟨death, hr⟩
  · unfold Task.Waits
    rw [hr]
    exact ⟨nofun, nofun⟩
  · unfold Task.Waits
    rw [hr]
    exact ⟨nofun, nofun⟩

theorem Task.Waits.calm {task : Task} (h : task.Waits) (published : Bool) (t : Pid) :
    task.Calm published t := fun c hc => absurd hc (h.1 c)

theorem writing_spec {k : Tasks} {t : Pid} (h : k.writing t = true) :
    ∃ task c, k t = some task ∧ task.run = .kernel c ∧ c.nr = sysWrite := by
  unfold Tasks.writing at h
  split at h
  · rename_i tgid pending c hk
    exact ⟨_, c, hk, rfl, of_decide_eq_true h⟩
  · cases h

/-- Out of its call, what a task has published no longer matters. -/
theorem Task.Parked.of_waits {published published' : Bool} {t : Pid} {task : Task}
    (h : task.Parked published t) (hw : task.Waits) : task.Parked published' t := by
  obtain ⟨tgid, pending, run⟩ := task
  cases run with
  | kernel c => exact absurd rfl (hw.1 c)
  | stopped stop r => cases stop <;> exact h
  | _ => exact h

theorem Move.republish_of_ne {m : Move} {t : Pid} (h : t ≠ m.task) (published : Pid → Bool) :
    m.republish published t = published t := by
  cases m with
  | enter u c => exact Function.update_of_ne h _ _
  | _ => rfl

/-- A writer with a fresh record only completes its call or dies. -/
theorem Task.Parked.move {published : Bool} {t : Pid} {task task' : Task} {m : Move}
    (h : task.Parked published t) (hm : task.move m = some task')
    (hstarts : m.starts = true → ∀ c, task.run = .kernel c → c.nr ≠ sysWrite) :
    task'.Parked published t := by
  have hcall : ∀ c, task.run = .kernel c → c.nr = sysWrite := by
    intro c hc
    unfold Task.Parked at h
    rw [hc] at h
    exact h.1
  have huser : task.run ≠ .user := by
    intro hu
    unfold Task.Parked at h
    rw [hu] at h
    exact h
  cases m with
  | complete _ ret =>
    simp only [Task.move] at hm
    split at hm <;> cases hm
    trivial
  | spawn _ child how thread =>
    simp only [Task.move] at hm
    split at hm
    · rename_i c hc
      exact absurd (hcall c hc) (hstarts rfl c hc)
    · cases hm
  | exec _ =>
    simp only [Task.move] at hm
    split at hm
    · rename_i c hc
      exact absurd (hcall c hc) (hstarts rfl c hc)
    · cases hm
  | exitStop _ =>
    simp only [Task.move] at hm
    split at hm <;> cases hm
    trivial
  | die _ death =>
    simp only [Task.move] at hm
    split at hm <;> cases hm
    trivial
  | enter _ c => exact absurd (Option.ite_none_right_eq_some.mp hm).1.1 huser
  | attachStop _ => exact absurd (Option.ite_none_right_eq_some.mp hm).1.1 huser
  | signal _ sig => exact absurd (Option.ite_none_right_eq_some.mp hm).1 huser
  | group _ sig => exact absurd (Option.ite_none_right_eq_some.mp hm).1 huser

/-! ### The invariant -/

namespace Backlog

def writers (s : Backlog) : List Pid := s.records.map Prod.fst

/-- What is known of the writer of an undrained record. -/
def Writer (s : Backlog) (t : Pid) (task : Task) : Prop :=
  match s.turn with
  | none => task.Calm (s.published t) t
  | some _ => task.Parked (s.published t) t

structure Inv (s : Backlog) : Prop where
  once : s.writers.Nodup
  writer : ∀ t ∈ s.writers, ∃ task, s.sys.tasks t = some task ∧ s.Writer t task
  booting : s.sys.booting = true → s.records = [] ∧ s.turn = none ∧
    ∀ t task, s.sys.tasks t = some task → task.Waits
  turn : ∀ t env status, s.turn = some (t, env, status) → t ∉ s.writers ∧
    ∀ task, s.sys.tasks t = some task → task.Waits

theorem Writer.calm {s : Backlog} {t : Pid} {task : Task} (h : s.Writer t task) :
    task.Calm (s.published t) t := by
  unfold Writer at h
  split at h
  · exact h
  · exact h.calm

/-- A task that may carry out a write call has no undrained record. -/
theorem Inv.not_writer {s : Backlog} (h : s.Inv) {t : Pid} (hw : s.sys.tasks.writing t = true)
    (hp : s.published t = false) : t ∉ s.writers := by
  intro hmem
  obtain ⟨task, c, htask, hrun, hnr⟩ := writing_spec hw
  obtain ⟨task', htask', hwriter⟩ := h.writer t hmem
  obtain rfl := Option.some.inj (htask.symm.trans htask')
  rcases hwriter.calm c hrun with ⟨-, hpub⟩ | ⟨hne, -⟩
  · rw [hp] at hpub
    cases hpub
  · exact hne hnr

/-- The tasks change, and what is known of them carries over. -/
theorem Inv.of_tasks {s s' : Backlog} (h : s.Inv) (hr : s'.records = s.records)
    (ht : s'.turn = s.turn) (hb : s'.sys.booting = s.sys.booting)
    (hwriter : ∀ t ∈ s.writers, ∀ task, s.sys.tasks t = some task → s.Writer t task →
      ∃ task', s'.sys.tasks t = some task' ∧ s'.Writer t task')
    (hwaits : ∀ t task, s'.sys.tasks t = some task → s.sys.tasks t = some task ∨ task.Waits) :
    s'.Inv := by
  have hws : s'.writers = s.writers := by rw [writers, hr, writers]
  refine ⟨hws ▸ h.once, ?_, ?_, ?_⟩
  · intro t hmem
    rw [hws] at hmem
    obtain ⟨task, htask, hw⟩ := h.writer t hmem
    exact hwriter t hmem task htask hw
  · intro hboot
    rw [hb] at hboot
    obtain ⟨hrec, hturn, hall⟩ := h.booting hboot
    refine ⟨hr.trans hrec, ht.trans hturn, fun t task htask => ?_⟩
    rcases hwaits t task htask with hold | hw
    · exact hall t task hold
    · exact hw
  · intro t env status hturn
    rw [ht] at hturn
    obtain ⟨hnot, hall⟩ := h.turn t env status hturn
    refine ⟨hws ▸ hnot, fun task htask => ?_⟩
    rcases hwaits t task htask with hold | hw
    · exact hall task hold
    · exact hw

theorem not_starts {s : Backlog} {m : Move} {task : Task} (h : s.allows m = true)
    (htask : s.sys.tasks m.task = some task) (hstarts : m.starts = true) :
    ∀ c, task.run = .kernel c → c.nr ≠ sysWrite := by
  intro c hc hnr
  obtain ⟨tgid, pending, run⟩ := task
  cases hc
  have hw : s.sys.tasks.writing m.task = true := by
    unfold Tasks.writing
    rw [htask]
    exact decide_eq_true hnr
  unfold allows at h
  rw [hstarts, hw] at h
  cases h

theorem Inv.move_inv {s : Backlog} {m : Move} {k : Tasks} (h : s.Inv) (hallow : s.allows m = true)
    (hm : s.sys.tasks.move m = some k) :
    ({ s with
      sys := { s.sys with tasks := k }
      published := m.republish s.published } : Backlog).Inv := by
  obtain ⟨task, task', htask, hmove, hcase⟩ := move_cases hm
  have hwaits := Task.move_waits hmove
  -- the writer that moves
  have hself : s.Writer m.task task → ∀ published, ({ s with
      sys := { s.sys with tasks := k }, published := published } : Backlog).Writer m.task task' := by
    intro hw published
    unfold Writer at hw ⊢
    dsimp only
    cases hturn : s.turn with
    | none => exact hwaits.calm _ _
    | some turn =>
      rw [hturn] at hw
      exact (hw.move hmove (not_starts hallow htask)).of_waits hwaits
  -- a writer that does not
  have hother : ∀ t other, t ≠ m.task → s.Writer t other → ({ s with
      sys := { s.sys with tasks := k }
      published := m.republish s.published } : Backlog).Writer t other := by
    intro t other hne hw
    unfold Writer at hw ⊢
    dsimp only
    rw [Move.republish_of_ne hne]
    exact hw
  refine h.of_tasks rfl rfl rfl (fun t hmem old hold hw => ?_) (fun t new hnew => ?_)
  · dsimp only
    rcases hcase with ⟨rfl, -, -⟩ | ⟨u, child, how, thread, tgid, rfl, hfree, rfl⟩ |
      ⟨u, leader, death, rfl, hne, hl, -, rfl⟩
    · by_cases ht : t = m.task
      · subst ht
        obtain rfl := Option.some.inj (htask.symm.trans hold)
        exact ⟨task', Function.update_self _ _ _, hself hw _⟩
      · exact ⟨old, (Function.update_of_ne ht _ _).trans hold, hother t old ht hw⟩
    · have hchild : t ≠ child := by
        rintro rfl
        rw [hold] at hfree
        cases hfree
      by_cases ht : t = u
      · subst ht
        obtain rfl := Option.some.inj (htask.symm.trans hold)
        exact ⟨task', (Function.update_of_ne hchild _ _).trans (Function.update_self _ _ _),
          hself hw _⟩
      · exact ⟨old, (Function.update_of_ne hchild _ _).trans
          ((Function.update_of_ne ht _ _).trans hold), hother t old ht hw⟩
    · -- the thread whose id is gone had nothing under way
      simp only [Task.move] at hmove
      split at hmove
      · rename_i c hrun
        cases hmove
        have hnr := not_starts hallow htask rfl c hrun
        have hgone : t ≠ u := by
          rintro rfl
          obtain rfl := Option.some.inj (htask.symm.trans hold)
          rcases hw.calm c hrun with ⟨hwrite, -⟩ | ⟨-, htg⟩
          · exact hnr hwrite
          · exact hne htg
        by_cases ht : t = task.tgid
        · subst ht
          refine ⟨_, Function.update_self _ _ _, ?_⟩
          unfold Writer
          dsimp only
          split
          · exact hwaits.calm _ _
          · exact ⟨hnr, rfl⟩
        · exact ⟨old, (Function.update_of_ne ht _ _).trans
            ((Function.update_of_ne hgone _ _).trans hold), hother t old hgone hw⟩
      · cases hmove
  · dsimp only at hnew
    rcases hcase with ⟨rfl, -, -⟩ | ⟨u, child, how, thread, tgid, rfl, hfree, rfl⟩ |
      ⟨u, leader, death, rfl, hne, hl, -, rfl⟩
    · rcases update_some hnew with ⟨-, rfl⟩ | ⟨-, hnew⟩
      · exact Or.inr hwaits
      · exact Or.inl hnew
    · rcases update_some hnew with ⟨-, rfl⟩ | ⟨-, hnew⟩
      · exact Or.inr ⟨nofun, fun _ => rfl⟩
      · rcases update_some hnew with ⟨-, rfl⟩ | ⟨-, hnew⟩
        · exact Or.inr hwaits
        · exact Or.inl hnew
    · rcases update_some hnew with ⟨-, rfl⟩ | ⟨-, hnew⟩
      · exact Or.inr hwaits
      · by_cases ht : t = u
        · rw [ht, Function.update_self] at hnew
          cases hnew
        · rw [Function.update_of_ne ht] at hnew
          exact Or.inl hnew

theorem Inv.publish_inv {s : Backlog} {t : Pid} (h : s.Inv) (hw : s.sys.tasks.writing t = true)
    (hp : s.published t = false) {records : List (Pid × Record)}
    (hr : records = s.records ∨ ∃ r, records = s.records ++ [(t, r)]) :
    ({ s with
      published := Function.update s.published t true
      records := records } : Backlog).Inv := by
  have hnot := h.not_writer hw hp
  obtain ⟨task, c, htask, hrun, hnr⟩ := writing_spec hw
  have hrecords : ∀ u, u ∈ records.map Prod.fst → u = t ∨ u ∈ s.writers := by
    intro u hu
    rcases hr with rfl | ⟨r, rfl⟩
    · exact Or.inr hu
    · rw [List.map_append] at hu
      rcases List.mem_append.mp hu with hu | hu
      · exact Or.inr hu
      · exact Or.inl (List.mem_singleton.mp hu)
  have hkernel : ¬ task.Waits := fun hwaits => hwaits.1 c hrun
  refine ⟨?_, ?_, ?_, ?_⟩
  · rcases hr with rfl | ⟨r, rfl⟩
    · exact h.once
    · change (List.map Prod.fst (s.records ++ [(t, r)])).Nodup
      rw [List.map_append]
      exact h.once.append (List.nodup_singleton t) (List.disjoint_singleton.mpr hnot)
  · intro u hu
    rcases hrecords u hu with rfl | hu
    · refine ⟨task, htask, ?_⟩
      unfold Writer
      dsimp only
      rw [Function.update_self]
      split
      · exact fun c' hc' => Or.inl ⟨by rw [← Run.kernel.inj (hrun.symm.trans hc')]; exact hnr, rfl⟩
      · unfold Task.Parked
        rw [hrun]
        exact ⟨hnr, rfl⟩
    · obtain ⟨other, hother, hwriter⟩ := h.writer u hu
      have hne : u ≠ t := fun he => hnot (he ▸ hu)
      refine ⟨other, hother, ?_⟩
      unfold Writer at hwriter ⊢
      dsimp only
      rw [Function.update_of_ne hne]
      exact hwriter
  · exact fun hb => absurd ((h.booting hb).2.2 t task htask) hkernel
  · intro u env status hturn
    obtain ⟨hnu, hall⟩ := h.turn u env status hturn
    have hne : u ≠ t := by
      rintro rfl
      exact hkernel (hall task htask)
    refine ⟨fun hu => ?_, hall⟩
    rcases hrecords u hu with he | hu
    · exact hne he
    · exact hnu hu

theorem wait_inv {s : Backlog} {t : Pid} {k : Tasks} (hb : s.sys.booting = false)
    (ht : ∀ task, k t = some task → task.Waits) (env : Env) (status : I32) :
    (s.wait t env status k).Inv where
  once := List.nodup_nil
  writer := nofun
  booting hboot := by
    change s.sys.booting = true at hboot
    rw [hb] at hboot
    cases hboot
  turn u _ _ hturn := by
    cases hturn
    exact ⟨nofun, ht⟩

theorem Inv.handle_inv {s : Backlog} (h : s.Inv) {g : Globals} {t : Pid} {env : Env} {status : I32}
    (hturn : s.turn = some (t, env, status)) :
    ({ s with sys := (s.sys.handle g t env status s.sys.tasks).1, turn := none } : Backlog).Inv := by
  have hb : s.sys.booting = false := by
    cases hb : s.sys.booting with
    | false => rfl
    | true => cases (h.booting hb).2.1.symm.trans hturn
  refine ⟨h.once, fun u hu => ?_, fun hboot => ?_, nofun⟩
  · obtain ⟨task, htask, hw⟩ := h.writer u hu
    unfold Writer at hw
    rw [hturn] at hw
    have hk : (s.sys.handle g t env status s.sys.tasks).1.tasks u =
        if u ∈ (resumes (loopIter g env t status s.sys.loop).out).map Prod.fst then
          some task.released else some task := by
      have hall := resumeAll_tasks s.sys.tasks (resumes (loopIter g env t status s.sys.loop).out) u
      rw [htask] at hall
      exact hall
    split at hk
    · exact ⟨task.released, hk, hw.released⟩
    · exact ⟨task, hk, hw.calm⟩
  · change s.sys.booting = true at hboot
    rw [hb] at hboot
    cases hboot

/-- Everything that a step can do. -/
inductive Does (g : Globals) (cap : RecordKind → ℕ) (s : Backlog) :
    BacklogLabel → Backlog → List Transfer → Prop
  | move {m k} (hallow : s.allows m = true) (hk : s.sys.tasks.move m = some k) :
      Does g cap s (.move m)
        { s with
          sys := { s.sys with tasks := k }
          published := m.republish s.published } []
  | attached {sys} (hsys : s.sys.step g .attached = some sys) :
      Does g cap s .attached { s with sys := sys } []
  | sent {t r} (hwrite : s.sys.tasks.writing t = true) (hpub : s.published t = false) :
      Does g cap s (.publish t r)
        { s with
          published := Function.update s.published t true
          records := s.records ++ [(t, r)] } [.sent t r]
  | refused {t r} (hwrite : s.sys.tasks.writing t = true) (hpub : s.published t = false)
      (hroom : s.room cap r.kind = false) :
      Does g cap s (.publish t r)
        { s with published := Function.update s.published t true } [.refused t r]
  | waited {t env status k} (hboot : s.sys.booting = false)
      (hwaits : ∀ task, k t = some task → task.Waits)
      (hold : ∀ u task, k u = some task → ∃ old, s.sys.tasks u = some old) :
      Does g cap s (.waited t env) (s.wait t env status k) [.drained s.records]
  | handle {t env status} (hturn : s.turn = some (t, env, status)) :
      Does g cap s .handle
        { s with sys := (s.sys.handle g t env status s.sys.tasks).1, turn := none } []

theorem stepObs_does {g : Globals} {cap : RecordKind → ℕ} {s s' : Backlog} {l : BacklogLabel}
    {moved : List Transfer} (h : s.stepObs g cap l = some (s', moved)) :
    Does g cap s l s' moved := by
  cases l with
  | move m =>
    obtain ⟨hallow, hm⟩ := Option.ite_none_right_eq_some.mp h
    obtain ⟨k, hk, he⟩ := Option.map_eq_some_iff.mp hm
    cases he
    exact .move hallow hk
  | attached =>
    obtain ⟨sys, hsys, he⟩ := Option.map_eq_some_iff.mp h
    cases he
    exact .attached hsys
  | publish t r =>
    obtain ⟨hw, hif⟩ := Option.ite_none_right_eq_some.mp h
    obtain ⟨hwrite, hpub⟩ := (Bool.and_eq_true _ _).mp hw
    have hp : s.published t = false := by simpa using hpub
    dsimp only at hif
    split at hif
    · cases hif
      exact .sent hwrite hp
    · rename_i hroom
      cases hif
      exact .refused hwrite hp (by simpa using hroom)
  | waited t env =>
    dsimp only [stepObs] at h
    split at h
    · cases h
    · rename_i hno
      have hboot : s.sys.booting = false := by
        cases hb : s.sys.booting with
        | false => rfl
        | true => exact absurd (by rw [hb, Bool.or_true]) hno
      split at h
      · rename_i task htask
        split at h
        · rename_i stop hrun
          obtain ⟨-, he⟩ := Option.ite_none_right_eq_some.mp h
          cases he
          refine .waited hboot (fun new hnew => ?_) fun u new hnew => ?_
          · rcases update_some hnew with ⟨-, rfl⟩ | ⟨hne, -⟩
            · exact ⟨nofun, nofun⟩
            · exact absurd rfl hne
          · rcases update_some hnew with ⟨rfl, -⟩ | ⟨-, hnew⟩
            · exact ⟨task, htask⟩
            · exact ⟨new, hnew⟩
        · cases h
          refine .waited hboot (fun new hnew => ?_) fun u new hnew => ?_
          · rw [Function.update_self] at hnew
            cases hnew
          · by_cases hu : u = t
            · rw [hu, Function.update_self] at hnew
              cases hnew
            · rw [Function.update_of_ne hu] at hnew
              exact ⟨new, hnew⟩
        · cases h
      · cases h
  | handle =>
    dsimp only [stepObs] at h
    split at h
    · rename_i t env status hturn
      cases h
      exact .handle hturn
    · cases h

theorem Inv.does {g : Globals} {cap : RecordKind → ℕ} {s s' : Backlog} {l : BacklogLabel}
    {moved : List Transfer} (h : s.Inv) (hs : Does g cap s l s' moved) : s'.Inv := by
  cases hs with
  | move hallow hk => exact h.move_inv hallow hk
  | attached hsys =>
    obtain ⟨⟨_, _⟩, hatt, rfl⟩ := Option.map_eq_some_iff.mp hsys
    obtain ⟨hboot, task, stop, -, -, rfl, -⟩ := attached_cases hatt
    obtain ⟨hrec, hturn, -⟩ := h.booting hboot
    have hws : s.records.map Prod.fst = [] := by rw [hrec, List.map_nil]
    refine ⟨h.once, fun u hu => ?_, nofun, fun u env status hu => ?_⟩
    · unfold writers at hu
      rw [hws] at hu
      cases hu
    · cases hturn.symm.trans hu
  | sent hwrite hpub => exact h.publish_inv hwrite hpub (Or.inr ⟨_, rfl⟩)
  | refused hwrite hpub _ => exact h.publish_inv hwrite hpub (Or.inl rfl)
  | waited hboot hwaits _ => exact wait_inv hboot hwaits _ _
  | handle hturn => exact h.handle_inv hturn

/-- A step of the system and the records it moved. -/
theorem step_does {g : Globals} {cap : RecordKind → ℕ} {s s' : Backlog} {l : BacklogLabel}
    (h : (backlog g cap).step s l s') : Does g cap s l s' (s.transfers g cap l s') := by
  obtain ⟨⟨s₁, moved⟩, hobs, rfl⟩ := Option.map_eq_some_iff.mp h
  have hmoved : s.transfers g cap l s₁ = moved := by
    unfold transfers
    rw [hobs]
    rfl
  rw [hmoved]
  exact stepObs_does hobs

theorem initial_inv {sys : Sys} (h : sysStart sys) : (initial sys).Inv := by
  obtain ⟨target, controller, fdPaths, hiddenFds, ranges, rfl⟩ := h
  refine ⟨List.nodup_nil, nofun, fun _ => ⟨rfl, rfl, fun t task ht => ?_⟩, nofun⟩
  obtain ⟨-, rfl⟩ := initial_task ht
  exact ⟨nofun, fun _ => rfl⟩

theorem reach_inv {g : Globals} {cap : RecordKind → ℕ} {s : Backlog}
    {ok : Backlog → BacklogLabel → Prop} (h : (backlog g cap).Reach ok s) : s.Inv := by
  refine h.invariant ?_ fun _ _ _ hinv _ hs => hinv.does (step_does hs)
  rintro s ⟨sys, hsys, rfl⟩
  exact initial_inv hsys

/-! ### Nothing is refused -/

/-- With a record of `t` to come, the undrained ones are fewer than the traced threads. -/
theorem Inv.queue_lt {s : Backlog} (h : s.Inv) {traced : Finset Pid}
    (htraced : ∀ t task, s.sys.tasks t = some task → t ∈ traced) {t : Pid}
    (hw : s.sys.tasks.writing t = true) (hp : s.published t = false) (kind : RecordKind) :
    (s.queue kind).length + 1 ≤ traced.card := by
  have hnot := h.not_writer hw hp
  obtain ⟨task, -, htask, -, -⟩ := writing_spec hw
  have hsub : s.writers.toFinset ⊆ traced.erase t := by
    intro u hu
    have hmem := List.mem_toFinset.mp hu
    obtain ⟨other, hother, -⟩ := h.writer u hmem
    exact Finset.mem_erase.mpr ⟨fun he => hnot (he ▸ hmem), htraced u other hother⟩
  have hcard := Finset.card_le_card hsub
  rw [List.toFinset_card_of_nodup h.once, Finset.card_erase_of_mem (htraced t task htask)] at hcard
  have hlen : (s.queue kind).length ≤ s.writers.length := by
    unfold queue writers
    rw [List.length_map]
    exact List.length_filter_le _ _
  have hpos : 0 < traced.card := Finset.card_pos.mpr ⟨t, htraced t task htask⟩
  omega

theorem Inv.room {s : Backlog} (h : s.Inv) {cap : RecordKind → ℕ} (hfits : s.Fits cap) {t : Pid}
    (hw : s.sys.tasks.writing t = true) (hp : s.published t = false) (kind : RecordKind) :
    s.room cap kind = true := by
  obtain ⟨traced, htraced, hcap⟩ := hfits
  have hlt := h.queue_lt htraced hw hp kind
  exact decide_eq_true ((Nat.mul_le_mul_right _ hlt).trans (hcap kind))

/-! ### What becomes of the records -/

def sentRecords (w : List Transfer) : List (Pid × Record) :=
  w.flatMap fun
    | .sent t r => [(t, r)]
    | _ => []

def drainedRecords (w : List Transfer) : List (Pid × Record) :=
  w.flatMap fun
    | .drained records => records
    | _ => []

/-- A step sends one record, drains them all, or does neither. -/
theorem Does.accounted {g : Globals} {cap : RecordKind → ℕ} {s s' : Backlog} {l : BacklogLabel}
    {moved : List Transfer} (h : Does g cap s l s' moved) :
    s.records ++ sentRecords moved = drainedRecords moved ++ s'.records := by
  cases h with
  | sent _ _ => rfl
  | waited _ _ _ =>
    unfold drainedRecords
    rw [List.flatMap_singleton]
    rfl
  | _ => exact List.append_nil _

end Backlog

namespace Backlog

/-- Only task 100 is there. -/
def Single (s : Backlog) : Prop := ∀ t task, s.sys.tasks t = some task → t = 100

theorem Single.fits {s : Backlog} (h : s.Single) {cap : RecordKind → ℕ}
    (hcap : ∀ kind, kind.size ≤ cap kind) : s.Fits cap := by
  refine ⟨{100}, fun t task ht => Finset.mem_singleton.mpr (h t task ht), fun kind => ?_⟩
  rw [Finset.card_singleton, Nat.one_mul]
  exact hcap kind

theorem Does.single {g : Globals} {cap : RecordKind → ℕ} {s s' : Backlog} {l : BacklogLabel}
    {moved : List Transfer} (hs : Does g cap s l s' moved) (h : s.Single)
    (hl : ∀ t child how thread, l ≠ .move (.spawn t child how thread)) : s'.Single := by
  intro u task hu
  have hsys : ∀ {sys : Sys} {l' : Label}, s.sys.step g l' = some sys →
      (∀ t how thread, l' ≠ .move (.spawn t u how thread)) → sys.tasks u = some task → u = 100 := by
    intro sys l' hstep hno hsome
    rcases step_tasks hstep hsome with ⟨old, hold⟩ | ⟨t, how, thread, he⟩
    · exact h u old hold
    · exact absurd he (hno t how thread)
  cases hs with
  | @move m k _ hk =>
    have hstep : s.sys.step g (.move m) = some { s.sys with tasks := k } := by
      rw [Sys.step, Sys.stepObs, hk]
      rfl
    refine hsys hstep (fun t how thread he => ?_) hu
    cases he
    exact hl _ _ _ _ rfl
  | attached hstep => exact hsys hstep (fun t how thread he => by cases he) hu
  | sent => exact h u task hu
  | refused => exact h u task hu
  | waited _ _ hold =>
    obtain ⟨old, hold⟩ := hold u task hu
    exact h u old hold
  | handle =>
    obtain ⟨old, hold⟩ := exists_of_resumeAll hu
    exact h u old hold

/-- Steps that make no task. -/
def stepAlone (g : Globals) (cap : RecordKind → ℕ) (s : Backlog) (l : BacklogLabel) :
    Option Backlog :=
  match l with
  | .move (.spawn _ _ _ _) => none
  | l => s.step g cap l

theorem stepAlone_spec {g : Globals} {cap : RecordKind → ℕ} {s s' : Backlog} {l : BacklogLabel}
    (h : s.stepAlone g cap l = some s') : (backlog g cap).step s l s' ∧
      ∀ t child how thread, l ≠ .move (.spawn t child how thread) := by
  unfold stepAlone at h
  split at h
  · cases h
  · rename_i hl
    exact ⟨h, fun t child how thread he => hl t child how thread he⟩

theorem Single.run {g : Globals} {cap : RecordKind → ℕ} (hcap : ∀ kind, kind.size ≤ cap kind)
    {ls : List BacklogLabel} {p q : Backlog × List Transfer} (h : p.1.Single)
    (htrace : (backlog g cap).Trace (fun s _ => s.Fits cap) (transfers g cap) p.1 p.2)
    (hrun : ls.foldlM (fun p l =>
      (p.1.stepAlone g cap l).map fun s' => (s', p.2 ++ p.1.transfers g cap l s')) p = some q) :
    (backlog g cap).Trace (fun s _ => s.Fits cap) (transfers g cap) q.1 q.2 := by
  induction ls generalizing p with
  | nil =>
    obtain rfl : p = q := Option.some.inj hrun
    exact htrace
  | cons l ls ih =>
    rw [List.foldlM_cons] at hrun
    obtain ⟨p', hp, hrest⟩ := Option.bind_eq_some_iff.mp hrun
    obtain ⟨s', hs, rfl⟩ := Option.map_eq_some_iff.mp hp
    obtain ⟨hstep, hl⟩ := stepAlone_spec hs
    exact ih ((step_does hstep).single h hl) (htrace.step (h.fits hcap) hstep) hrest

end Backlog

def publishCall : Call := ⟨sysWrite, #v[5, 0, 8, 0, 0, 0]⟩

/-- Task 100 is attached to, enters a write call and carries it out. -/
def publishOnce : List BacklogLabel :=
  [.move (.attachStop 100), .attached, .move (.enter 100 publishCall),
    .waited 100 (.regsAt { UserRegs.entering sysWrite with rdi := 5, rdx := 8 }), .handle,
    .publish 100 (.depth ⟨100, 1⟩), .move (.complete 100 8)]

def pipeCapacity (_ : RecordKind) : ℕ := 65536

end CudaTrace.Ptrace
