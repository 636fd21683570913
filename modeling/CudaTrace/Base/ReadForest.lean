import CudaTrace.Base.LazyForest
import Mathlib.Data.List.Induction

/-!
# Reading a printed call forest back

A reader turns each line into the events that it stands for. If it does so for the lines of
one call, then the lines of a growing forest give the forest, as far as it is printed.
-/

namespace CudaTrace.Base

variable {η ρ χ η' ρ' χ' ω : Type*}

/-! ### Views -/

/-- What is kept of heads, results and leaves. -/
structure View (η ρ χ η' ρ' χ' : Type*) where
  head : η → η'
  result : η → ρ → ρ'
  leaf : χ → χ'

namespace View

variable (v : View η ρ χ η' ρ' χ')

mutual

def tree : CallTree η ρ χ → CallTree η' ρ' χ'
  | .leaf x => .leaf (v.leaf x)
  | .span h r children => .span (v.head h) (v.result h r) (forest children)

def forest : List (CallTree η ρ χ) → List (CallTree η' ρ' χ')
  | [] => []
  | t :: trees => tree t :: forest trees

end

theorem forest_append (l r : List (CallTree η ρ χ)) : v.forest (l ++ r) = v.forest l ++ v.forest r := by
  induction l with
  | nil => rw [forest, List.nil_append, List.nil_append]
  | cons t l ih => rw [List.cons_append, forest, forest, ih, List.cons_append]

def openForest (f : OpenForest η ρ χ) : OpenForest η' ρ' χ' :=
  ⟨f.opens.map fun o => (v.forest o.1, v.head o.2), v.forest f.done⟩

theorem openForest_opened (f : OpenForest η ρ χ) (h : η) :
    v.openForest (f.grow (.opened h)) = (v.openForest f).grow (.opened (v.head h)) := by
  simp only [openForest, OpenForest.grow, List.map_cons, forest]

theorem openForest_leaf (f : OpenForest η ρ χ) (x : χ) :
    v.openForest (f.grow (.leaf x)) = (v.openForest f).grow (.leaf (v.leaf x)) := by
  simp only [openForest, OpenForest.grow, forest_append, forest, tree]

theorem openForest_closed {f : OpenForest η ρ χ} {before : List (CallTree η ρ χ)} {h : η}
    {outer : List (List (CallTree η ρ χ) × η)} (hf : f.opens = (before, h) :: outer) (r : ρ) :
    v.openForest (f.grow (.closed r)) = (v.openForest f).grow (.closed (v.result h r)) := by
  simp only [openForest, OpenForest.grow, hf, List.map_cons, forest_append, forest, tree]

end View

namespace OpenForest

theorem ofEvents_flatMap_append (read : ω → List (CallEvent η ρ χ)) (l r : List ω) :
    ofEvents ((l ++ r).flatMap read) = (r.flatMap read).foldl grow (ofEvents (l.flatMap read)) := by
  rw [List.flatMap_append, ofEvents, List.foldl_append]
  rfl

end OpenForest

/-! ### Lines of openings, closings and leaves -/

/-- The lines that can be read, and what they give. -/
structure Printer.ReadBy (p : Printer η ρ χ ω) (v : View η ρ χ η' ρ' χ')
    (read : ω → List (CallEvent η' ρ' χ')) (Head : η → Prop) (Result : ρ → Prop) (Leaf : χ → Prop) : Prop where
  opening : ∀ d h, Head h → read (p.opening d h) = [.opened (v.head h)]
  closing : ∀ d h r, Head h → Result r → read (p.closing d h r) = [.closed (v.result h r)]
  leaf : ∀ d x, Leaf x → read (p.leaf d x) = [.leaf (v.leaf x)]

/-- The event can be read off its line. -/
def CallEvent.Plain (Head : η → Prop) (Result : ρ → Prop) (Leaf : χ → Prop) : CallEvent η ρ χ → Prop
  | .opened h => Head h
  | .closed r => Result r
  | .leaf x => Leaf x

section

variable {p : Printer η ρ χ ω} {v : View η ρ χ η' ρ' χ'} {read : ω → List (CallEvent η' ρ' χ')}
  {Head : η → Prop} {Result : ρ → Prop} {Leaf : χ → Prop}

theorem OpenForest.heads_grow {f : OpenForest η ρ χ} {e : CallEvent η ρ χ} (h : ∀ x ∈ f.heads, Head x)
    (he : e.Plain Head Result Leaf) : ∀ x ∈ (f.grow e).heads, Head x := by
  intro x hx
  cases e with
  | opened head =>
    rcases List.mem_cons.mp hx with rfl | hx
    · exact he
    · exact h x hx
  | leaf y => exact h x hx
  | closed r =>
    cases hopens : f.opens with
    | nil =>
      simp only [grow, hopens] at hx
      exact h x hx
    | cons o outer =>
      simp only [grow, hopens] at hx
      refine h x ?_
      rw [heads, hopens]
      exact List.mem_cons_of_mem _ hx

/-- By induction on the events: each of them adds the line that is read as it. -/
theorem Printer.ReadBy.lines (hp : p.ReadBy v read Head Result Leaf) {events : List (CallEvent η ρ χ)}
    (he : ∀ e ∈ events, e.Plain Head Result Leaf) :
    OpenForest.ofEvents (((OpenForest.ofEvents events).lines p).flatMap read) =
      v.openForest (OpenForest.ofEvents events) := by
  suffices h : (∀ x ∈ (OpenForest.ofEvents events).heads, Head x) ∧
      OpenForest.ofEvents (((OpenForest.ofEvents events).lines p).flatMap read) =
        v.openForest (OpenForest.ofEvents events) from h.2
  induction events using List.reverseRecOn with
  | nil => exact ⟨fun x hx => absurd hx List.not_mem_nil, rfl⟩
  | append_singleton events e ih =>
    obtain ⟨hheads, ih⟩ := ih fun e' he' => he e' (List.mem_append_left _ he')
    have hplain := he e (List.mem_append_right _ (List.mem_singleton_self e))
    rw [OpenForest.ofEvents_append]
    refine ⟨OpenForest.heads_grow hheads hplain, ?_⟩
    generalize OpenForest.ofEvents events = f at hheads ih ⊢
    cases e with
    | opened h =>
      rw [OpenForest.lines_opened, OpenForest.ofEvents_flatMap_append, ih, View.openForest_opened,
        List.flatMap_singleton, hp.opening _ _ hplain]
      rfl
    | leaf x =>
      rw [OpenForest.lines_leaf, OpenForest.ofEvents_flatMap_append, ih, View.openForest_leaf,
        List.flatMap_singleton, hp.leaf _ _ hplain]
      rfl
    | closed r =>
      cases hopens : f.opens with
      | nil =>
        have hgrow : f.grow (.closed r) = f := by simp only [OpenForest.grow, hopens]
        rw [hgrow]
        exact ih
      | cons o outer =>
        obtain ⟨before, h⟩ := o
        have hheads' : f.heads = h :: outer.map Prod.snd := by rw [OpenForest.heads, hopens]; rfl
        have hhead : Head h := hheads h (by rw [hheads']; exact List.mem_cons_self)
        rw [(OpenForest.closed_heads p f hheads' r).2, OpenForest.ofEvents_flatMap_append, ih,
          View.openForest_closed v hopens, List.flatMap_singleton, hp.closing _ _ _ hhead hplain]
        rfl

/-- Every line is one of an event. -/
theorem Printer.forall_lines {Line : ω → Prop} (hopening : ∀ d h, Head h → Line (p.opening d h))
    (hclosing : ∀ d h r, Head h → Result r → Line (p.closing d h r)) (hleaf : ∀ d x, Leaf x → Line (p.leaf d x))
    {events : List (CallEvent η ρ χ)} (he : ∀ e ∈ events, e.Plain Head Result Leaf) :
    ∀ l ∈ (OpenForest.ofEvents events).lines p, Line l := by
  suffices h : (∀ x ∈ (OpenForest.ofEvents events).heads, Head x) ∧
      ∀ l ∈ (OpenForest.ofEvents events).lines p, Line l from h.2
  induction events using List.reverseRecOn with
  | nil => exact ⟨fun x hx => absurd hx List.not_mem_nil, fun l hl => absurd hl List.not_mem_nil⟩
  | append_singleton events e ih =>
    obtain ⟨hheads, ih⟩ := ih fun e' he' => he e' (List.mem_append_left _ he')
    have hplain := he e (List.mem_append_right _ (List.mem_singleton_self e))
    rw [OpenForest.ofEvents_append]
    refine ⟨OpenForest.heads_grow hheads hplain, ?_⟩
    generalize OpenForest.ofEvents events = f at hheads ih ⊢
    have hadd : ∀ {line}, Line line → ∀ l ∈ f.lines p ++ [line], Line l := by
      intro line hline l hl
      rcases List.mem_append.mp hl with hl | hl
      · exact ih l hl
      · rw [List.mem_singleton.mp hl]
        exact hline
    cases e with
    | opened h =>
      rw [OpenForest.lines_opened]
      exact hadd (hopening _ _ hplain)
    | leaf x =>
      rw [OpenForest.lines_leaf]
      exact hadd (hleaf _ _ hplain)
    | closed r =>
      cases hopens : f.opens with
      | nil =>
        have hgrow : f.grow (.closed r) = f := by simp only [OpenForest.grow, hopens]
        rw [hgrow]
        exact ih
      | cons o outer =>
        have hheads' : f.heads = o.2 :: outer.map Prod.snd := by rw [OpenForest.heads, hopens]; rfl
        rw [(OpenForest.closed_heads p f hheads' r).2]
        exact hadd (hclosing _ _ _ (hheads _ (by rw [hheads']; exact List.mem_cons_self)) hplain)

end

/-! ### Lines of calls that are opened late -/

structure LazyPrinter.ReadBy (p : LazyPrinter η ρ ω) (v : View η ρ Empty η' ρ' χ')
    (read : ω → List (CallEvent η' ρ' χ')) (Head : η → Prop) (Result : ρ → Prop) : Prop where
  opening : ∀ d h, Head h → read (p.opening d h) = [.opened (v.head h)]
  closing : ∀ d h r, Head h → Result r → read (p.closing d h r) = [.closed (v.result h r)]
  single : ∀ d h r, Head h → Result r →
    read (p.single d h r) = [.opened (v.head h), .closed (v.result h r)]

namespace LazyPrinter

/-- The forest as far as it is printed: an innermost call without children may be missing. -/
def shown (p : LazyPrinter η ρ ω) (f : OpenForest η ρ Empty) : OpenForest η ρ Empty :=
  match f.opens with
  | [] => f
  | (before, _) :: outer => if p.eager || !f.done.isEmpty then f else ⟨outer, before⟩

variable {p : LazyPrinter η ρ ω} {v : View η ρ Empty η' ρ' χ'} {read : ω → List (CallEvent η' ρ' χ')}
  {Head : η → Prop} {Result : ρ → Prop} {f : OpenForest η ρ Empty}

/-- The line that the first child brings out is all that is missing. -/
theorem ReadBy.parentLine (hp : p.ReadBy v read Head Result) (hheads : ∀ x ∈ f.heads, Head x)
    (ih : OpenForest.ofEvents ((p.text f).flatMap read) = v.openForest (p.shown f)) :
    OpenForest.ofEvents ((p.text f ++ p.parentLine f.opens (!f.done.isEmpty)).flatMap read) =
      v.openForest f := by
  rw [OpenForest.ofEvents_flatMap_append, ih, shown]
  cases hopens : f.opens with
  | nil => rfl
  | cons o outer =>
    obtain ⟨before, h⟩ := o
    dsimp only [LazyPrinter.parentLine]
    split
    · rfl
    · rename_i hlate
      have hhead : Head h := hheads h (by rw [OpenForest.heads, hopens]; exact List.mem_cons_self)
      have hdone : f.done = [] := by
        cases hd : f.done with
        | nil => rfl
        | cons call calls => simp [hd] at hlate
      have hf : f = (⟨outer, before⟩ : OpenForest η ρ Empty).grow (.opened h) := by
        obtain ⟨opens, done⟩ := f
        rw [OpenForest.grow, ← hdone, ← hopens]
      rw [List.flatMap_singleton, hp.opening _ _ hhead, hf, View.openForest_opened]
      rfl

theorem ReadBy.text_opened (hp : p.ReadBy v read Head Result) (hheads : ∀ x ∈ f.heads, Head x) {h : η}
    (hh : Head h) (ih : OpenForest.ofEvents ((p.text f).flatMap read) = v.openForest (p.shown f)) :
    OpenForest.ofEvents ((p.text (f.grow (.opened h))).flatMap read) =
      v.openForest (p.shown (f.grow (.opened h))) := by
  have hshown : p.shown (f.grow (.opened h)) = if p.eager then f.grow (.opened h) else f := by
    show (if p.eager || !List.isEmpty [] then f.grow (.opened h) else ⟨f.opens, f.done⟩) = _
    rw [List.isEmpty_nil, Bool.not_true, Bool.or_false]
  rw [LazyPrinter.text_opened, OpenForest.ofEvents_flatMap_append, hp.parentLine hheads ih, hshown]
  cases p.eager with
  | false => rfl
  | true =>
    rw [if_pos rfl, if_pos rfl, List.flatMap_singleton, hp.opening _ _ hh, View.openForest_opened]
    rfl

theorem ReadBy.text_finished (hp : p.ReadBy v read Head Result) (hheads : ∀ x ∈ f.heads, Head x)
    {before : Calls η ρ} {h : η} {outer : List (Calls η ρ × η)} (hf : f.opens = (before, h) :: outer) {r : ρ}
    (hr : Result r) (ih : OpenForest.ofEvents ((p.text f).flatMap read) = v.openForest (p.shown f)) :
    OpenForest.ofEvents ((p.text (f.grow (.closed r))).flatMap read) =
      v.openForest (p.shown (f.grow (.closed r))) := by
  have hhead : Head h := hheads h (by rw [OpenForest.heads, hf]; exact List.mem_cons_self)
  have hgrow : f.grow (.closed r) = ⟨outer, before ++ [.span h r f.done]⟩ := by
    simp only [OpenForest.grow, hf]
  have hshown : p.shown (f.grow (.closed r)) = f.grow (.closed r) := by
    rw [hgrow, shown]
    cases outer with
    | nil => rfl
    | cons o outer => exact if_pos (by simp)
  rw [LazyPrinter.text_finished p hf, OpenForest.ofEvents_flatMap_append, ih, hshown, shown, hf]
  dsimp only
  split
  · rw [List.flatMap_singleton, hp.closing _ _ _ hhead hr, View.openForest_closed v hf]
    rfl
  · rename_i hlate
    have hdone : f.done = [] := by
      cases hd : f.done with
      | nil => rfl
      | cons call calls => simp [hd] at hlate
    have hopened : (⟨outer, before⟩ : OpenForest η ρ Empty).grow (.opened h) = f := by
      obtain ⟨opens, done⟩ := f
      rw [OpenForest.grow, ← hdone, ← hf]
    rw [List.flatMap_singleton, hp.single _ _ _ hhead hr, View.openForest_closed v hf]
    show ((v.openForest ⟨outer, before⟩).grow (.opened (v.head h))).grow (.closed (v.result h r)) = _
    rw [← View.openForest_opened, hopened]

theorem ReadBy.grow (hp : p.ReadBy v read Head Result) (hheads : ∀ x ∈ f.heads, Head x)
    {e : CallEvent η ρ Empty} (he : e.Plain Head Result fun _ => True)
    (ih : OpenForest.ofEvents ((p.text f).flatMap read) = v.openForest (p.shown f)) :
    OpenForest.ofEvents ((p.text (f.grow e)).flatMap read) = v.openForest (p.shown (f.grow e)) := by
  cases e with
  | opened h => exact hp.text_opened hheads he ih
  | leaf x => exact x.elim
  | closed r =>
    cases hopens : f.opens with
    | nil =>
      have hgrow : f.grow (.closed r) = f := by simp only [OpenForest.grow, hopens]
      rw [hgrow]
      exact ih
    | cons o outer => exact hp.text_finished hheads hopens he ih

/-- The line of an event is that of the call it opens or closes, or of the call around it. -/
theorem forall_text_grow {Line : ω → Prop} (hopening : ∀ d h, Head h → Line (p.opening d h))
    (hclosing : ∀ d h r, Head h → Result r → Line (p.closing d h r))
    (hsingle : ∀ d h r, Head h → Result r → Line (p.single d h r)) (hheads : ∀ x ∈ f.heads, Head x)
    {e : CallEvent η ρ Empty} (he : e.Plain Head Result fun _ => True) (ih : ∀ l ∈ p.text f, Line l) :
    ∀ l ∈ p.text (f.grow e), Line l := by
  intro l hl
  cases e with
  | leaf x => exact x.elim
  | opened h =>
    rw [LazyPrinter.text_opened] at hl
    rcases List.mem_append.mp hl with hl | hself
    · rcases List.mem_append.mp hl with hl | hparent
      · exact ih l hl
      · cases hopens : f.opens with
        | nil =>
          rw [hopens] at hparent
          cases hparent
        | cons o outer =>
          rw [hopens] at hparent
          dsimp only [LazyPrinter.parentLine] at hparent
          split at hparent
          · cases hparent
          · rw [List.mem_singleton.mp hparent]
            exact hopening _ _ (hheads _ (by rw [OpenForest.heads, hopens]; exact List.mem_cons_self))
    · split at hself
      · rw [List.mem_singleton.mp hself]
        exact hopening _ _ he
      · cases hself
  | closed r =>
    cases hopens : f.opens with
    | nil =>
      have hgrow : f.grow (.closed r) = f := by simp only [OpenForest.grow, hopens]
      rw [hgrow] at hl
      exact ih l hl
    | cons o outer =>
      have hhead : Head o.2 := hheads _ (by rw [OpenForest.heads, hopens]; exact List.mem_cons_self)
      rw [LazyPrinter.text_finished p hopens] at hl
      rcases List.mem_append.mp hl with hl | hl
      · exact ih l hl
      · split at hl
        · rw [List.mem_singleton.mp hl]
          exact hclosing _ _ _ hhead he
        · rw [List.mem_singleton.mp hl]
          exact hsingle _ _ _ hhead he

end LazyPrinter

end CudaTrace.Base
