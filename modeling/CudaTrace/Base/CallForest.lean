import Mathlib.Data.List.Basic

/-!
# Call forests

Calls that open and close, with leaves between them, as a forest that grows event by
event, and its printed form: one line for each opening, closing and leaf, at its depth.
-/

namespace CudaTrace.Base

/-- A closed call with its head, its result and what happened inside it, or a leaf. -/
inductive CallTree (η ρ χ : Type*) where
  | leaf (x : χ)
  | span (h : η) (r : ρ) (children : List (CallTree η ρ χ))

inductive CallEvent (η ρ χ : Type*) where
  | opened (h : η)
  | closed (r : ρ)
  | leaf (x : χ)

/-- The lines of openings, closings and leaves at each depth. -/
structure Printer (η ρ χ ω : Type*) where
  opening : ℕ → η → ω
  closing : ℕ → η → ρ → ω
  leaf : ℕ → χ → ω

variable {η ρ χ ω : Type*}

namespace CallTree

mutual

def lines (p : Printer η ρ χ ω) : ℕ → CallTree η ρ χ → List ω
  | d, .leaf x => [p.leaf d x]
  | d, .span h r children => p.opening d h :: forestLines p (d + 1) children ++ [p.closing d h r]

def forestLines (p : Printer η ρ χ ω) : ℕ → List (CallTree η ρ χ) → List ω
  | _, [] => []
  | d, tree :: trees => lines p d tree ++ forestLines p d trees

end

theorem forestLines_append (p : Printer η ρ χ ω) (d : ℕ) (l r : List (CallTree η ρ χ)) :
    forestLines p d (l ++ r) = forestLines p d l ++ forestLines p d r := by
  induction l with
  | nil => rfl
  | cons tree l ih =>
    have hcons : ∀ trees, forestLines p d (tree :: trees) = lines p d tree ++ forestLines p d trees :=
      fun _ => by rw [forestLines]
    rw [List.cons_append, hcons, hcons, ih, List.append_assoc]

theorem forestLines_singleton (p : Printer η ρ χ ω) (d : ℕ) (tree : CallTree η ρ χ) :
    forestLines p d [tree] = lines p d tree := by
  rw [forestLines, forestLines, List.append_nil]

end CallTree

open CallTree

/-- A forest some of whose calls are open. Each open call, innermost first, stands beside
what came before it in its parent; `done` is what the innermost one holds so far. -/
structure OpenForest (η ρ χ : Type*) where
  opens : List (List (CallTree η ρ χ) × η)
  done : List (CallTree η ρ χ)

namespace OpenForest

def empty : OpenForest η ρ χ := ⟨[], []⟩

/-- An event; a closing without an open call changes nothing. -/
def grow (f : OpenForest η ρ χ) : CallEvent η ρ χ → OpenForest η ρ χ
  | .opened h => ⟨(f.done, h) :: f.opens, []⟩
  | .leaf x => { f with done := f.done ++ [.leaf x] }
  | .closed r =>
    match f.opens with
    | [] => f
    | (before, h) :: outer => ⟨outer, before ++ [.span h r f.done]⟩

def ofEvents (events : List (CallEvent η ρ χ)) : OpenForest η ρ χ := events.foldl grow empty

def depth (f : OpenForest η ρ χ) : ℕ := f.opens.length

/-- The heads of the open calls, innermost first. -/
def heads (f : OpenForest η ρ χ) : List η := f.opens.map Prod.snd

def openLines (p : Printer η ρ χ ω) : List (List (CallTree η ρ χ) × η) → List ω
  | [] => []
  | (before, h) :: outer =>
    openLines p outer ++ (forestLines p outer.length before ++ [p.opening outer.length h])

/-- What has been printed so far. -/
def lines (p : Printer η ρ χ ω) (f : OpenForest η ρ χ) : List ω :=
  openLines p f.opens ++ forestLines p f.depth f.done

theorem ofEvents_append (events : List (CallEvent η ρ χ)) (e : CallEvent η ρ χ) :
    ofEvents (events ++ [e]) = (ofEvents events).grow e := by
  rw [ofEvents, List.foldl_append]
  rfl

theorem depth_eq (f : OpenForest η ρ χ) : f.depth = f.heads.length := by
  rw [depth, heads, List.length_map]

section

variable (p : Printer η ρ χ ω) (f : OpenForest η ρ χ)

theorem lines_opened (h : η) :
    (f.grow (.opened h)).lines p = f.lines p ++ [p.opening f.depth h] := by
  change openLines p f.opens ++ (forestLines p f.opens.length f.done ++
    [p.opening f.opens.length h]) ++ forestLines p (f.opens.length + 1) [] = _
  rw [forestLines, List.append_nil, lines, List.append_assoc]
  rfl

theorem heads_opened (h : η) : (f.grow (.opened h)).heads = h :: f.heads := rfl

theorem lines_leaf (x : χ) : (f.grow (.leaf x)).lines p = f.lines p ++ [p.leaf f.depth x] := by
  change openLines p f.opens ++ forestLines p f.depth (f.done ++ [.leaf x]) = _
  rw [forestLines_append, forestLines_singleton, CallTree.lines, lines, List.append_assoc]

theorem heads_leaf (x : χ) : (f.grow (.leaf x)).heads = f.heads := rfl

theorem closed_heads {h : η} {outer : List η} (hf : f.heads = h :: outer) (r : ρ) :
    (f.grow (.closed r)).heads = outer ∧
      (f.grow (.closed r)).lines p = f.lines p ++ [p.closing outer.length h r] := by
  obtain ⟨opens, done⟩ := f
  cases opens with
  | nil => cases hf
  | cons o opens =>
    obtain ⟨before, h'⟩ := o
    obtain ⟨rfl, rfl⟩ := List.cons.inj hf
    refine ⟨rfl, ?_⟩
    change openLines p opens ++ forestLines p opens.length (before ++ [.span h' r done]) =
      openLines p opens ++ (forestLines p opens.length before ++ [p.opening opens.length h']) ++
        forestLines p (opens.length + 1) done ++ [p.closing (opens.map Prod.snd).length h' r]
    rw [forestLines_append, forestLines_singleton, CallTree.lines, List.length_map]
    simp only [List.append_assoc, List.cons_append, List.nil_append]

end

end OpenForest

end CudaTrace.Base
