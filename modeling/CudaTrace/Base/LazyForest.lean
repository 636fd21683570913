import CudaTrace.Base.CallForest

/-!
# Printing a call forest lazily

A call without children takes one line, and a call with children is opened by the first of
them. An eager printer opens every call at once. In both cases a forest with open calls is
printed line by line as it grows.
-/

namespace CudaTrace.Base

/-- The lines of a call at each depth; `single` is the line of a call without children. -/
structure LazyPrinter (η ρ ω : Type*) where
  eager : Bool
  opening : ℕ → η → ω
  closing : ℕ → η → ρ → ω
  single : ℕ → η → ρ → ω

variable {η ρ ω : Type*}

/-- A forest of calls without other leaves. -/
abbrev Calls (η ρ : Type*) := List (CallTree η ρ Empty)

namespace LazyPrinter

mutual

def callLines (p : LazyPrinter η ρ ω) : ℕ → CallTree η ρ Empty → List ω
  | d, .span h r children =>
    if p.eager || !children.isEmpty then
      p.opening d h :: callsLines p (d + 1) children ++ [p.closing d h r]
    else [p.single d h r]

def callsLines (p : LazyPrinter η ρ ω) : ℕ → Calls η ρ → List ω
  | _, [] => []
  | d, call :: calls => callLines p d call ++ callsLines p d calls

end

/-- What is printed of the open calls; `hasChild` tells whether the innermost has a child. -/
def openLines (p : LazyPrinter η ρ ω) : List (Calls η ρ × η) → Bool → List ω
  | [], _ => []
  | (before, h) :: outer, hasChild =>
    openLines p outer true ++ callsLines p outer.length before ++
      if p.eager || hasChild then [p.opening outer.length h] else []

/-- What has been printed so far. -/
def text (p : LazyPrinter η ρ ω) (f : OpenForest η ρ Empty) : List ω :=
  openLines p f.opens (!f.done.isEmpty) ++ callsLines p f.depth f.done

/-- The line that the first child of the innermost open call brings out. -/
def parentLine (p : LazyPrinter η ρ ω) : List (Calls η ρ × η) → Bool → List ω
  | [], _ => []
  | (_, h) :: outer, hasChild => if p.eager || hasChild then [] else [p.opening outer.length h]

variable (p : LazyPrinter η ρ ω)

theorem callsLines_append (d : ℕ) (l r : Calls η ρ) :
    callsLines p d (l ++ r) = callsLines p d l ++ callsLines p d r := by
  induction l with
  | nil => rw [callsLines, List.nil_append, List.nil_append]
  | cons call l ih => rw [List.cons_append, callsLines, callsLines, ih, List.append_assoc]

theorem openLines_true (opens : List (Calls η ρ × η)) (hasChild : Bool) :
    openLines p opens true = openLines p opens hasChild ++ parentLine p opens hasChild := by
  cases opens with
  | nil => rfl
  | cons o outer =>
    obtain ⟨before, h⟩ := o
    cases hasChild with
    | false =>
      simp only [openLines, parentLine]
      cases p.eager with
      | false => simp
      | true => simp
    | true => simp [openLines, parentLine]

theorem text_opened (f : OpenForest η ρ Empty) (h : η) :
    text p (f.grow (.opened h)) = text p f ++ parentLine p f.opens (!f.done.isEmpty) ++
      if p.eager then [p.opening f.depth h] else [] := by
  have hnew : text p (f.grow (.opened h)) = openLines p f.opens true ++
      callsLines p f.depth f.done ++ if p.eager then [p.opening f.depth h] else [] := by
    change openLines p ((f.done, h) :: f.opens) (!List.isEmpty []) ++
      callsLines p (f.opens.length + 1) [] = _
    rw [callsLines, List.append_nil, openLines]
    cases p.eager <;> rfl
  rw [hnew, openLines_true p f.opens (!f.done.isEmpty), text]
  cases hdone : f.done with
  | nil => simp [callsLines]
  | cons call calls =>
    -- the innermost call has been opened by an earlier child
    have hparent : parentLine p f.opens (!(call :: calls).isEmpty) = [] := by
      cases f.opens with
      | nil => rfl
      | cons o outer => simp [parentLine]
    rw [hparent, List.append_nil, List.append_nil]

theorem text_finished {f : OpenForest η ρ Empty} {before : Calls η ρ} {h : η}
    {outer : List (Calls η ρ × η)} (hf : f.opens = (before, h) :: outer) (r : ρ) :
    text p (f.grow (.closed r)) = text p f ++
      if p.eager || !f.done.isEmpty then [p.closing outer.length h r]
      else [p.single outer.length h r] := by
  have hgrow : f.grow (.closed r) = ⟨outer, before ++ [.span h r f.done]⟩ := by
    simp only [OpenForest.grow, hf]
  have hnonempty : (!(before ++ [CallTree.span h r f.done]).isEmpty) = true := by simp
  have hone : callsLines p outer.length [.span h r f.done] =
      callLines p outer.length (.span h r f.done) := by
    rw [callsLines, callsLines, List.append_nil]
  rw [hgrow, text, OpenForest.depth, hnonempty, callsLines_append, hone, callLines, text,
    OpenForest.depth, hf, openLines, List.length_cons]
  split
  · simp only [List.append_assoc, List.cons_append, List.nil_append]
  · rename_i hlazy
    have hdone : f.done = [] := by
      cases hd : f.done with
      | nil => rfl
      | cons call calls => simp [hd] at hlazy
    rw [hdone, callsLines, List.append_nil, List.append_nil, List.append_assoc]

end LazyPrinter

end CudaTrace.Base
