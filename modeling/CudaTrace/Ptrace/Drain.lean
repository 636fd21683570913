import CudaTrace.Ptrace.Loop
import Mathlib.Data.List.Nodup

/-!
# Draining the queue of held tasks

What `maybe_resume_waiting_fgraph_tid` does to the records, the queue and the
tasks, for every outcome of the captures it tries to begin.
-/

namespace CudaTrace.Ptrace
open CudaTrace.Fgraph

/-! ### Small lemmas -/

@[simp] theorem resumes_nil : resumes [] = [] := rfl

@[simp] theorem resumes_append (a b : List Action) : resumes (a ++ b) = resumes a ++ resumes b :=
  List.filterMap_append

@[simp] theorem resumes_resume (tid : Pid) (sig : I32) (o : List Action) :
    resumes (.resume tid sig :: o) = (tid, sig) :: resumes o := rfl

theorem resumes_eq_nil {o : List Action} (h : ∀ x ∈ o, ∀ tid sig, x ≠ .resume tid sig) :
    resumes o = [] := by
  refine List.filterMap_eq_nil_iff.mpr fun x hx => ?_
  cases x with
  | resume tid sig => exact absurd rfl (h _ hx tid sig)
  | _ => rfl

theorem resumes_begin {o : List Action} {tid : Pid} {ok : Bool}
    (h : ∀ x ∈ o, x = Action.beginCapture tid ok) : resumes o = [] :=
  resumes_eq_nil fun x hx _ _ => by rw [h x hx]; nofun

theorem resumes_end {o : List Action} {a : ActiveFgraphCapture}
    (h : ∀ x ∈ o, ∃ graph, x = Action.endCapture a graph) : resumes o = [] :=
  resumes_eq_nil fun x hx _ _ => by obtain ⟨graph, rfl⟩ := h x hx; nofun

theorem isHeld_of_some {s : LoopState} {t : Pid} {st : SyscallState} (h : s.states t = some st) :
    s.isHeld t = st.isHeld := by
  simp only [LoopState.isHeld, h, Option.any_some]

theorem LoopState.Held.record {s : LoopState} {t : Pid} (h : s.Held t) :
    ∃ st, s.states t = some st ∧ st.active = true ∧ st.fgraphWaiting = true := by
  cases hst : s.states t with
  | none => simp [LoopState.Held, LoopState.isHeld, hst] at h
  | some st =>
    rw [LoopState.Held, isHeld_of_some hst] at h
    exact ⟨st, rfl, (Bool.and_eq_true _ _).mp h⟩

theorem isHeld_congr {s s' : LoopState} {t : Pid} (h : s'.states t = s.states t) :
    s'.isHeld t = s.isHeld t := by
  simp only [LoopState.isHeld, h]

theorem mem_waiters {s : LoopState} {t : Pid} :
    t ∈ s.waiters ↔ t ∈ s.waitingFgraphTids ∧ s.Held t := List.mem_filter

/-! ### Draining the queue -/

/-- What a drain of `queue` from `s` to `s'` does when it lets `woken` go on. -/
structure Drain (s s' : LoopState) (queue woken : List Pid) : Prop where
  resumed : ∃ o, s'.out = s.out ++ o ∧ resumes o = woken.map fun t => (t, 0)
  order : queue.filter s.isHeld = woken ++ s'.waitingFgraphTids.filter s.isHeld
  suffix : s'.waitingFgraphTids <:+ queue
  others : ∀ t, t ∉ woken → s'.states t = s.states t
  woke : ∀ t ∈ woken, ∃ st, s.states t = some st ∧ s'.states t =
    some { st with fgraphWaiting := false, fgraphCapturing := decide (s'.owner = some t) }
  ends : (s'.owner = none ∧ s'.waitingFgraphTids = []) ∨ (∃ t, s'.owner = some t ∧ woken.getLast? = some t)

theorem drainWaiting_skip (g : Globals) (tid : Pid) (rest : List Pid) (s : LoopState)
    (h : ¬ s.Held tid) : drainWaiting g (tid :: rest) s = drainWaiting g rest s := by
  cases hst : s.states tid with
  | none => simp only [drainWaiting, hst]
  | some st =>
    have hh : (!st.active || !st.fgraphWaiting) = true := by
      rw [LoopState.Held, isHeld_of_some hst, SyscallState.isHeld] at h
      simpa [imp_iff_not_or] using h
    simp only [drainWaiting, hst, hh, if_true]

theorem drainWaiting_held (g : Globals) (tid : Pid) (rest : List Pid) (s : LoopState)
    (st : SyscallState) (hst : s.states tid = some st) (h : s.Held tid) :
    drainWaiting g (tid :: rest) s =
      if (releaseWaiter g tid st s).activeFgraphCapture.isSome then
        { releaseWaiter g tid st s with waitingFgraphTids := rest }
      else drainWaiting g rest (releaseWaiter g tid st s) := by
  have hh : (!st.active || !st.fgraphWaiting) = false := by
    rw [LoopState.Held, isHeld_of_some hst, SyscallState.isHeld] at h
    simpa using h
  simp only [drainWaiting, hst, hh]
  rfl

/-- By induction on the queue: the waiters before the first that gets the capture go
on without one. -/
theorem drainWaiting_spec (g : Globals) (queue : List Pid) (s : LoopState)
    (hfree : s.activeFgraphCapture = none) (hn : queue.Nodup) :
    ∃ woken, Drain s (drainWaiting g queue s) queue woken := by
  induction queue generalizing s with
  | nil =>
    refine ⟨[], ⟨⟨[], by simp [drainWaiting]⟩, rfl, List.suffix_rfl, fun _ _ => rfl, nofun, ?_⟩⟩
    exact Or.inl ⟨by simp [drainWaiting, LoopState.owner, hfree], rfl⟩
  | cons tid rest ih =>
    obtain ⟨hnotin, hrest⟩ := List.nodup_cons.mp hn
    by_cases hheld : s.Held tid
    · obtain ⟨st, hst, hact, hwait⟩ := hheld.record
      rw [drainWaiting_held g tid rest s st hst hheld]
      rcases releaseWaiter_cases g tid st s with ⟨c, a, ha, hr⟩ | ⟨c, o, ho, hr⟩
      · rw [hr]
        refine ⟨[tid], ⟨⟨[.beginCapture tid true, .resume tid 0], rfl, rfl⟩, ?_,
          List.suffix_cons tid rest, ?_, ?_, Or.inr ⟨tid, by simp [LoopState.owner, ha], rfl⟩⟩⟩
        · exact List.filter_cons_of_pos hheld
        · intro t ht
          exact Function.update_of_ne (by simpa using ht) _ _
        · intro t ht
          obtain rfl := List.mem_singleton.mp ht
          exact ⟨st, hst, by simp [LoopState.owner, ha]⟩
      · have hs1 : (releaseWaiter g tid st s).activeFgraphCapture = none := by rw [hr]; exact hfree
        have hst1 : ∀ t, t ≠ tid → (releaseWaiter g tid st s).states t = s.states t := by
          intro t ht
          rw [hr]
          exact Function.update_of_ne ht _ _
        obtain ⟨woken, hd⟩ := ih (releaseWaiter g tid st s) hs1 hrest
        have hheld1 : ∀ l : List Pid, tid ∉ l →
            l.filter (releaseWaiter g tid st s).isHeld = l.filter s.isHeld := by
          intro l hl
          refine List.filter_congr fun t ht => isHeld_congr (hst1 t ?_)
          rintro rfl
          exact hl ht
        have hwoken : ∀ t ∈ woken, t ∈ rest := by
          intro t ht
          have hm : t ∈ rest.filter (releaseWaiter g tid st s).isHeld := by
            rw [hd.order]
            exact List.mem_append_left _ ht
          exact List.mem_of_mem_filter hm
        have hnw : tid ∉ woken := fun h => hnotin (hwoken tid h)
        rw [if_neg (by simp [hs1])]
        refine ⟨tid :: woken, ⟨?_, ?_, hd.suffix.trans (List.suffix_cons tid rest), ?_, ?_, ?_⟩⟩
        · obtain ⟨o', hout, hres⟩ := hd.resumed
          refine ⟨o ++ [.resume tid 0] ++ o', ?_, ?_⟩
          · rw [hout, hr]
            simp
          · simp [resumes_begin ho, hres]
        · rw [List.filter_cons_of_pos hheld, ← hheld1 rest hnotin, hd.order,
            hheld1 _ fun h => hnotin (hd.suffix.subset h)]
          rfl
        · intro t ht
          obtain ⟨hne, hnt⟩ := not_or.mp (mt List.mem_cons.mpr ht)
          rw [hd.others t hnt, hst1 t hne]
        · intro t ht
          rcases List.mem_cons.mp ht with rfl | ht
          · refine ⟨st, hst, ?_⟩
            have hown : (drainWaiting g rest (releaseWaiter g t st s)).owner ≠ some t := by
              rcases hd.ends with ⟨h, -⟩ | ⟨u, h, hl⟩
              · rw [h]; nofun
              · rw [h]
                intro he
                obtain rfl := Option.some.inj he
                exact hnw (List.mem_of_getLast? hl)
            have hrec : (releaseWaiter g t st s).states t =
                some { st with fgraphWaiting := false, fgraphCapturing := false } := by
              rw [hr]
              exact Function.update_self _ _ _
            rw [hd.others t hnw, hrec, decide_eq_false hown]
          · obtain ⟨st', hst', heq⟩ := hd.woke t ht
            have hne : t ≠ tid := fun h => hnw (h ▸ ht)
            exact ⟨st', (hst1 t hne).symm.trans hst', heq⟩
        · rcases hd.ends with h | ⟨t, h, hl⟩
          · exact Or.inl h
          · exact Or.inr ⟨t, h, by rw [List.getLast?_cons, hl]; rfl⟩
    · rw [drainWaiting_skip g tid rest s hheld]
      obtain ⟨woken, hd⟩ := ih s hfree hrest
      refine ⟨woken, { hd with order := ?_, suffix := hd.suffix.trans (List.suffix_cons tid rest) }⟩
      rw [List.filter_cons_of_neg hheld, hd.order]

theorem Drain.held {s s' : LoopState} {queue woken : List Pid} (hd : Drain s s' queue woken) {t : Pid}
    (ht : t ∈ woken) : t ∈ queue ∧ s.Held t := by
  have hm : t ∈ queue.filter s.isHeld := by
    rw [hd.order]
    exact List.mem_append_left _ ht
  exact List.mem_filter.mp hm

theorem Drain.waiters {s s' : LoopState} {queue woken : List Pid} (hd : Drain s s' queue woken)
    (hn : queue.Nodup) : queue.filter s.isHeld = woken ++ s'.waiters := by
  rw [hd.order, LoopState.waiters]
  congr 1
  refine List.filter_congr fun t ht => (isHeld_congr (hd.others t fun hw => ?_)).symm
  have hdis : List.Disjoint woken (s'.waitingFgraphTids.filter s.isHeld) := by
    have hnn : (woken ++ s'.waitingFgraphTids.filter s.isHeld).Nodup := hd.order ▸ hn.filter _
    exact List.disjoint_of_nodup_append hnn
  exact hdis hw (List.mem_filter.mpr ⟨ht, (hd.held hw).2⟩)

theorem drainWaiting_idle (g : Globals) (queue : List Pid) (s : LoopState)
    (h : queue.filter s.isHeld = []) : drainWaiting g queue s = { s with waitingFgraphTids := [] } := by
  induction queue with
  | nil => rfl
  | cons tid rest ih =>
    obtain ⟨hheld, hrest⟩ := List.forall_mem_cons.mp (List.filter_eq_nil_iff.mp h)
    rw [drainWaiting_skip g tid rest s hheld]
    exact ih (List.filter_eq_nil_iff.mpr hrest)

/-- Whatever the state, only held tasks are resumed from the queue. -/
theorem drainWaiting_resumes (g : Globals) (queue : List Pid) (s : LoopState) :
    ∀ x ∈ resumes (drainWaiting g queue s).out, x ∈ resumes s.out ∨ (s.Held x.1 ∧ x.2 = 0) := by
  induction queue generalizing s with
  | nil => exact fun x hx => Or.inl hx
  | cons tid rest ih =>
    by_cases hheld : s.Held tid
    · obtain ⟨st, hst, -, -⟩ := hheld.record
      rw [drainWaiting_held g tid rest s st hst hheld]
      have hout : ∀ x ∈ resumes (releaseWaiter g tid st s).out,
          x ∈ resumes s.out ∨ (s.Held x.1 ∧ x.2 = 0) := by
        intro x hx
        have hx' : x ∈ resumes s.out ++ [(tid, 0)] := by
          rcases releaseWaiter_cases g tid st s with ⟨c, a, -, hr⟩ | ⟨c, o, ho, hr⟩
          · rw [hr] at hx
            simpa [resumes] using hx
          · rw [hr] at hx
            simpa [resumes_begin ho] using hx
        rcases List.mem_append.mp hx' with h | h
        · exact Or.inl h
        · obtain rfl := List.mem_singleton.mp h
          exact Or.inr ⟨hheld, rfl⟩
      split
      · exact hout
      · intro x hx
        rcases ih _ x hx with h | ⟨hh, h0⟩
        · exact hout x h
        · refine Or.inr ⟨?_, h0⟩
          by_cases hxt : x.1 = tid
          · exact hxt ▸ hheld
          · have hsame : (releaseWaiter g tid st s).states x.1 = s.states x.1 := by
              rcases releaseWaiter_cases g tid st s with ⟨c, a, -, hr⟩ | ⟨c, o, -, hr⟩ <;>
              · rw [hr]
                exact Function.update_of_ne hxt _ _
            exact (isHeld_congr hsame).symm.trans hh
    · rw [drainWaiting_skip g tid rest s hheld]
      exact ih s

end CudaTrace.Ptrace
