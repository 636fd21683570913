import CudaTrace.Hook.ReadTrace

/-!
# Reading calls and syscalls back

While syscalls are traced, the output of a thread has the lines of its calls, which it writes
itself, and those of its syscalls, which the tracer writes.
-/

namespace CudaTrace.Hook
open CudaTrace.Base CudaTrace.Boot CudaTrace.Ptrace

/-! ### Lines -/

/-- The text of a syscall that is not taken for a line of a call. -/
structure PlainBody (body : String) : Prop where
  start : PlainStart body.toList
  last : body.toList.getLast? ≠ some '\x7b'
  noBreak : NoBreak body

/-- The lines of a span whose result can be read. -/
def PlainResult (r : SpanResult) : Prop := PlainReturn r.ret ∧ PlainUnit r.elapsed.2

theorem lineOf_spans (cfg : Config) (t : Pid) {events : List SpanEvent}
    (he : ∀ e ∈ events, e.Plain (fun h => PlainHead h.func h.args) PlainResult fun x => PlainBody x.body) :
    ∀ l ∈ (OpenForest.ofEvents events).lines (spanPrinter cfg t), LineOf cfg t l := by
  refine Printer.forall_lines (fun d h hh => ?_) (fun d h r _ hr => ?_) (fun d x hx => ?_) he
  · exact lineOf_prepend cfg (noBreak_formatOpenLine d hh) t _
  · exact lineOf_prepend cfg (noBreak_formatCloseLine d hr.1 hr.2) t _
  · exact lineOf_prepend cfg ((noBreak_indent _).append hx.noBreak) t _

/-! ### Notes -/

/-- A call, a result or a syscall that can be read off its line. -/
def Noted.Plain : Noted → Prop
  | .call _ (.opened h) => PlainHead h.func h.args
  | .call _ (.closed r) => PlainReturn r.ret
  | .call _ (.leaf x) => PlainBody x.body
  | .text _ _ | .born _ => True

theorem histories_append (w : List Noted) (n : Noted) : histories (w ++ [n]) = note (histories w) n := by
  rw [histories, List.foldl_append]
  rfl

theorem calls_note (h : Pid → History) (n : Noted) (t : Pid) :
    (note h n t).calls = match n with
      | .call u e => if t = u then (h t).calls ++ [e] else (h t).calls
      | .text _ _ => (h t).calls
      | .born u => if t = u then [] else (h t).calls := by
  cases n with
  | call u e | text u line | born u =>
    by_cases ht : t = u
    · subst ht
      simp [note, History.empty]
    · simp [note, ht]

theorem texts_note (h : Pid → History) (n : Noted) (t : Pid) :
    (note h n t).texts = match n with
      | .call _ _ => (h t).texts
      | .text u line => if t = u then (h t).texts ++ [line] else (h t).texts
      | .born u => if t = u then [] else (h t).texts := by
  cases n with
  | call u e | text u line | born u =>
    by_cases ht : t = u
    · subst ht
      simp [note, History.empty]
    · simp [note, ht]

theorem call_of_histories {t : Pid} {w : List Noted} {e : SpanEvent} (h : e ∈ (histories w t).calls) :
    .call t e ∈ w := by
  induction w using List.reverseRecOn with
  | nil => cases h
  | append_singleton w n ih =>
    rw [histories_append, calls_note] at h
    cases n with
    | call u e' =>
      dsimp only at h
      split at h
      · rename_i ht
        rcases List.mem_append.mp h with h | h
        · exact List.mem_append_left _ (ih h)
        · rw [List.mem_singleton.mp h, ht]
          exact List.mem_append_right _ (List.mem_singleton_self _)
      · exact List.mem_append_left _ (ih h)
    | text u line => exact List.mem_append_left _ (ih h)
    | born u =>
      dsimp only at h
      split at h
      · cases h
      · exact List.mem_append_left _ (ih h)

/-- A line stays in the history of its thread while the thread is not born again. -/
theorem mem_texts_foldl {t : Pid} {line : String} {notes : List Noted} {h : Pid → History}
    (hline : line ∈ (h t).texts ∨ .text t line ∈ notes) (hborn : .born t ∉ notes) :
    line ∈ (notes.foldl note h t).texts := by
  induction notes generalizing h with
  | nil =>
    rcases hline with hline | hline
    · exact hline
    · cases hline
  | cons n notes ih =>
    obtain ⟨hn, hnotes⟩ := not_or.mp (mt List.mem_cons.mpr hborn)
    refine ih ?_ hnotes
    rw [texts_note]
    rcases hline with hline | hline
    · refine Or.inl ?_
      cases n with
      | call u e => exact hline
      | text u line' =>
        dsimp only
        split
        · exact List.mem_append_left _ hline
        · exact hline
      | born u =>
        dsimp only
        rw [if_neg fun he => hn (congrArg Noted.born he)]
        exact hline
    · rcases List.mem_cons.mp hline with rfl | hline
      · refine Or.inl ?_
        dsimp only
        rw [if_pos rfl]
        exact List.mem_append_right _ (List.mem_singleton_self _)
      · exact Or.inr hline

/-! ### Runs -/

/-- Not a birth, and no duration but one in a unit. -/
def Noted.Tidy : Noted → Prop
  | .call _ (.closed r) => PlainUnit r.elapsed.2
  | .born _ => False
  | .call _ _ | .text _ _ => True

theorem tidy_noteLines (cfg : Config) (text : SyscallLine → String) (lines : List SyscallLine) :
    ∀ n ∈ Merged.noteLines cfg text lines, n.Tidy := by
  intro n hn
  obtain ⟨l, -, hl⟩ := List.mem_flatMap.mp hn
  rcases List.mem_cons.mp hl with rfl | hl
  · trivial
  · rw [List.mem_singleton.mp hl]
    trivial

theorem tidy_closing (cfg : Config) (t : Pid) (scope : TraceScope) (clock : Clock) (ret : String)
    (thread : Thread) : ∀ n ∈ (Merged.closing cfg scope clock ret thread).map (Noted.call t), n.Tidy := by
  intro n hn
  obtain ⟨e, he, rfl⟩ := List.mem_map.mp hn
  unfold Merged.closing at he
  split at he
  · rw [List.mem_singleton.mp he]
    exact plainUnit_durationForConfig cfg _
  · cases he

/-- A step notes a birth alone. -/
theorem stepObs_notes {image : Image} {names : I64 → Option String} {text : CallText} {s s' : Merged}
    {l : MergedLabel} {notes : List Noted} (hs : s.stepObs image names text l = some (s', notes)) :
    (∀ n ∈ notes, n.Tidy) ∨ ∃ child, notes = [.born child] := by
  have hnil : ∀ n ∈ ([] : List Noted), n.Tidy := fun n hn => absurd hn List.not_mem_nil
  cases l with
  | enter t clock domain func args =>
    obtain ⟨-, he⟩ := Option.ite_none_right_eq_some.mp hs
    obtain ⟨-, rfl⟩ := Prod.mk.inj (Option.some.inj he)
    refine Or.inl ?_
    split
    · intro n hn
      rw [List.mem_singleton.mp hn]
      trivial
    · exact hnil
  | finish t clock ret =>
    dsimp only [Merged.stepObs] at hs
    split at hs
    · cases hs
    · obtain ⟨-, he⟩ := Option.ite_none_right_eq_some.mp hs
      obtain ⟨-, rfl⟩ := Prod.mk.inj (Option.some.inj he)
      exact Or.inl (tidy_closing _ _ _ _ _ _)
  | bypass t | unbypass t =>
    obtain ⟨-, he⟩ := Option.ite_none_right_eq_some.mp hs
    obtain ⟨-, rfl⟩ := Prod.mk.inj (Option.some.inj he)
    exact Or.inl hnil
  | perform t =>
    dsimp only [Merged.stepObs] at hs
    split at hs
    · cases hs
    · rename_i e rest heffects
      obtain ⟨-, he⟩ := Option.ite_none_right_eq_some.mp hs
      cases e with
      | depth msg | window msg =>
        obtain ⟨-, rfl⟩ := Prod.mk.inj (Option.some.inj he)
        exact Or.inl hnil
      | line line =>
        obtain ⟨-, rfl⟩ := Prod.mk.inj (Option.some.inj he)
        refine Or.inl fun n hn => ?_
        rw [List.mem_singleton.mp hn]
        trivial
  | tracer l =>
    cases l with
    | attached =>
      obtain ⟨sys, -, he⟩ := Option.map_eq_some_iff.mp hs
      obtain ⟨-, rfl⟩ := Prod.mk.inj he
      exact Or.inl hnil
    | turn t env =>
      obtain ⟨sys, -, he⟩ := Option.map_eq_some_iff.mp hs
      obtain ⟨-, rfl⟩ := Prod.mk.inj he
      exact Or.inl (tidy_noteLines _ _ _)
    | move m =>
      cases m with
      | exec t => cases hs
      | spawn t child how thread =>
        obtain ⟨-, hmap⟩ := Option.ite_none_right_eq_some.mp hs
        obtain ⟨sys, -, he⟩ := Option.map_eq_some_iff.mp hmap
        obtain ⟨-, rfl⟩ := Prod.mk.inj he
        exact Or.inr ⟨child, rfl⟩
      | _ =>
        obtain ⟨sys, -, he⟩ := Option.map_eq_some_iff.mp hs
        obtain ⟨-, rfl⟩ := Prod.mk.inj he
        exact Or.inl hnil

/-- The lines of a run so far, each with its thread, and its durations. -/
structure TraceRead (cfg : Config) (s : Merged) (w : List Noted) : Prop where
  inv : MergedInv cfg s (histories w)
  units : ∀ t r, .call t (.closed r) ∈ w → PlainUnit r.elapsed.2
  lines : ∀ t line, .text t line ∈ w → LineOf cfg t line

/-- The events of a thread, read off the notes. -/
theorem plain_calls {w : List Noted} (hplain : ∀ n ∈ w, n.Plain)
    (hunits : ∀ t r, .call t (.closed r) ∈ w → PlainUnit r.elapsed.2) (t : Pid) :
    ∀ e ∈ (histories w t).calls, e.Plain (fun h => PlainHead h.func h.args) PlainResult fun x => PlainBody x.body := by
  intro e he
  have hcall := call_of_histories he
  have hnote := hplain _ hcall
  cases e with
  | opened h => exact hnote
  | leaf x => exact hnote
  | closed r => exact ⟨hnote, hunits t r hcall⟩

theorem TraceRead.step {image : Image} (hpipe : DepthPipe image) {names : I64 → Option String} {text : CallText}
    {s s' : Merged} {w notes : List Noted} (h : TraceRead image.config s w) {l : MergedLabel} (hok : s.Followed l)
    (hs : s.stepObs image names text l = some (s', notes)) (hplain : ∀ n ∈ w ++ notes, n.Plain) :
    TraceRead image.config s' (w ++ notes) := by
  have hinv : MergedInv image.config s' (histories (w ++ notes)) := by
    rw [histories, List.foldl_append]
    exact merged_step hpipe h.inv hok hs
  have hnotes := stepObs_notes hs
  have hunits : ∀ t r, .call t (.closed r) ∈ w ++ notes → PlainUnit r.elapsed.2 := by
    intro t r hr
    rcases List.mem_append.mp hr with hr | hr
    · exact h.units t r hr
    · rcases hnotes with htidy | ⟨child, rfl⟩
      · exact htidy _ hr
      · cases List.mem_singleton.mp hr
  refine ⟨hinv, hunits, fun t line hline => ?_⟩
  rcases List.mem_append.mp hline with hline | hline
  · exact h.lines t line hline
  · have hborn : .born t ∉ notes := by
      intro hborn
      rcases hnotes with htidy | ⟨child, rfl⟩
      · exact htidy _ hborn
      · cases List.mem_singleton.mp hline
    -- the line is in the history of its thread, whose lines are those of its calls
    have hmem : line ∈ (histories (w ++ notes) t).texts := by
      rw [histories, List.foldl_append]
      exact mem_texts_foldl (Or.inr hline) hborn
    refine lineOf_spans image.config t (plain_calls hplain hunits t) line ?_
    show line ∈ (histories (w ++ notes) t).forest.lines _
    rw [← (hinv.spans t).texts]
    exact List.mem_append_left _ hmem

theorem TraceRead.run {image : Image} (hpipe : DepthPipe image) {names : I64 → Option String} {text : CallText}
    {s : Merged} {w : List Noted}
    (h : (merged image names text).Trace Merged.Followed (Merged.noted image names text) s w)
    (hplain : ∀ n ∈ w, n.Plain) : TraceRead image.config s w := by
  induction h with
  | start h0 =>
    obtain ⟨sys, hsys, rfl⟩ := h0
    exact ⟨merged_initial _ hsys, fun t r hr => absurd hr List.not_mem_nil,
      fun t line hl => absurd hl List.not_mem_nil⟩
  | step _ hok hs ih =>
    obtain ⟨⟨s', notes⟩, hobs, rfl⟩ := Option.map_eq_some_iff.mp hs
    unfold Merged.noted at hplain ⊢
    rw [hobs] at hplain ⊢
    exact (ih fun n hn => hplain n (List.mem_append_left _ hn)).step hpipe hok hobs hplain

end CudaTrace.Hook
