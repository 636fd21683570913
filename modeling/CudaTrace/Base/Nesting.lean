import CudaTrace.Base.CallForest

/-!
# Nesting

The lines of a call forest as events, the lines between which each call is open, and a counter
that finds the depth of every line from the events alone, also when it starts inside calls.
-/

namespace CudaTrace.Base

variable {η ρ χ ω : Type*}

namespace CallTree

mutual

def events : CallTree η ρ χ → List (CallEvent η ρ χ)
  | .leaf x => [.leaf x]
  | .span h r children => .opened h :: forestEvents children ++ [.closed r]

def forestEvents : List (CallTree η ρ χ) → List (CallEvent η ρ χ)
  | [] => []
  | tree :: trees => events tree ++ forestEvents trees

end

mutual

/-- The numbers of the opening and the closing line of each call, when the first line has
number `n`. -/
def spans (n : ℕ) : CallTree η ρ χ → List (ℕ × ℕ)
  | .leaf _ => []
  | .span _ _ children => (n, n + 1 + (forestEvents children).length) :: forestSpans (n + 1) children

def forestSpans (n : ℕ) : List (CallTree η ρ χ) → List (ℕ × ℕ)
  | [] => []
  | tree :: trees => spans n tree ++ forestSpans (n + (events tree).length) trees

end

end CallTree

open CallTree

/-- How many of the calls are opened from line `a` on and before line `k`, and closed after it. -/
def openAt (calls : List (ℕ × ℕ)) (a k : ℕ) : ℕ :=
  calls.countP fun s => a ≤ s.1 ∧ s.1 < k ∧ k < s.2

/-! ### The counter -/

/-- The depth of a line when `d` calls are open before it, and of what follows it. -/
def CallEvent.lineDepth (d : ℕ) : CallEvent η ρ χ → ℕ
  | .opened _ | .leaf _ => d
  | .closed _ => d - 1

def CallEvent.nextDepth (d : ℕ) : CallEvent η ρ χ → ℕ
  | .opened _ => d + 1
  | .leaf _ => d
  | .closed _ => d - 1

def indents : ℕ → List (CallEvent η ρ χ) → List ℕ
  | _, [] => []
  | d, e :: es => e.lineDepth d :: indents (e.nextDepth d) es

def depthAfter (d : ℕ) (es : List (CallEvent η ρ χ)) : ℕ := es.foldl CallEvent.nextDepth d

theorem indents_append (d : ℕ) (xs ys : List (CallEvent η ρ χ)) :
    indents d (xs ++ ys) = indents d xs ++ indents (depthAfter d xs) ys := by
  induction xs generalizing d with
  | nil => rfl
  | cons e xs ih =>
    rw [List.cons_append, indents, indents, ih]
    rfl

theorem depthAfter_append (d : ℕ) (xs ys : List (CallEvent η ρ χ)) :
    depthAfter d (xs ++ ys) = depthAfter (depthAfter d xs) ys := List.foldl_append

theorem indents_take (d n : ℕ) (es : List (CallEvent η ρ χ)) :
    indents d (es.take n) = (indents d es).take n := by
  induction es generalizing d n with
  | nil => simp [indents]
  | cons e es ih =>
    cases n with
    | zero => rfl
    | succ n => rw [List.take_succ_cons, indents, indents, List.take_succ_cons, ih]

mutual

theorem depthAfter_events (d : ℕ) : ∀ tree : CallTree η ρ χ, depthAfter d (events tree) = d
  | .leaf _ => rfl
  | .span h r children => by
    have hopen : depthAfter d (events (.span h r children)) =
        depthAfter (d + 1) (forestEvents children ++ [.closed r]) := by
      rw [events]
      rfl
    rw [hopen, depthAfter_append, depthAfter_forestEvents]
    rfl

/-- A whole forest leaves the depth as it was. -/
theorem depthAfter_forestEvents (d : ℕ) :
    ∀ forest : List (CallTree η ρ χ), depthAfter d (forestEvents forest) = d
  | [] => by
    rw [forestEvents]
    rfl
  | tree :: trees => by
    rw [forestEvents, depthAfter_append, depthAfter_events, depthAfter_forestEvents]

end

/-! ### The calls of a part -/

theorem openAt_append (xs ys : List (ℕ × ℕ)) (a k : ℕ) :
    openAt (xs ++ ys) a k = openAt xs a k + openAt ys a k := List.countP_append

theorem openAt_eq_zero {calls : List (ℕ × ℕ)} {a k : ℕ}
    (h : ∀ s ∈ calls, s.1 < a ∨ k ≤ s.1 ∨ s.2 ≤ k) : openAt calls a k = 0 := by
  rw [openAt, List.countP_eq_zero]
  intro s hs
  have hout := h s hs
  simp only [decide_eq_true_eq]
  omega

theorem events_ne_nil (tree : CallTree η ρ χ) : events tree ≠ [] := by
  cases tree with
  | leaf x => simp [events]
  | span h r children => simp [events]

theorem length_events_span (h : η) (r : ρ) (children : List (CallTree η ρ χ)) :
    (events (.span h r children)).length = (forestEvents children).length + 2 := by
  rw [events, List.length_append, List.length_cons]
  rfl

mutual

theorem mem_spans (n : ℕ) : ∀ (tree : CallTree η ρ χ) (s : ℕ × ℕ), s ∈ spans n tree →
    n ≤ s.1 ∧ s.1 < s.2 ∧ s.2 < n + (events tree).length
  | .leaf _, s, h => by
    rw [spans] at h
    cases h
  | .span _ _ children, s, h => by
    rw [spans, List.mem_cons] at h
    rw [length_events_span]
    rcases h with hs | hs
    · subst hs
      show n ≤ n ∧ n < n + 1 + (forestEvents children).length ∧ _
      omega
    · have hin := mem_forestSpans (n + 1) children s hs
      omega

/-- The calls of a forest lie within its lines. -/
theorem mem_forestSpans (n : ℕ) : ∀ (forest : List (CallTree η ρ χ)) (s : ℕ × ℕ),
    s ∈ forestSpans n forest → n ≤ s.1 ∧ s.1 < s.2 ∧ s.2 < n + (forestEvents forest).length
  | [], s, h => by
    rw [forestSpans] at h
    cases h
  | tree :: trees, s, h => by
    rw [forestSpans, List.mem_append] at h
    rw [forestEvents, List.length_append]
    rcases h with hs | hs
    · have hin := mem_spans n tree s hs
      omega
    · have hin := mem_forestSpans (n + (events tree).length) trees s hs
      omega

end

theorem openAt_forestSpans_outside {n a k : ℕ} (forest : List (CallTree η ρ χ))
    (h : k ≤ n ∨ n + (forestEvents forest).length ≤ k) : openAt (forestSpans n forest) a k = 0 := by
  apply openAt_eq_zero
  intro s hs
  have hin := mem_forestSpans n forest s hs
  omega

/-- What the lines of a tree followed by a forest see of each other's calls: nothing. -/
theorem openAt_forestSpans_cons (n a k : ℕ) (tree : CallTree η ρ χ)
    (trees : List (CallTree η ρ χ)) :
    openAt (forestSpans n (tree :: trees)) a k =
      if k < n + (events tree).length then openAt (spans n tree) a k
      else openAt (forestSpans (n + (events tree).length) trees) a k := by
  rw [forestSpans, openAt_append]
  split_ifs with hk
  · rw [openAt_forestSpans_outside trees (by omega), Nat.add_zero]
  · have hnone : openAt (spans n tree) a k = 0 :=
      openAt_eq_zero fun s hs => by
        have hin := mem_spans _ _ s hs
        omega
    rw [hnone, Nat.zero_add]

/-- The line of a call opens it and the last one closes it; those between are inside. -/
theorem openAt_spans_span (n a k : ℕ) (h : η) (r : ρ) (children : List (CallTree η ρ χ)) :
    openAt (spans n (.span h r children)) a k =
      (if a ≤ n ∧ n < k ∧ k < n + 1 + (forestEvents children).length then 1 else 0) +
        openAt (forestSpans (n + 1) children) a k := by
  rw [spans, openAt, List.countP_cons, ← openAt, Nat.add_comm]
  simp only [decide_eq_true_eq]

/-- The lines of a tree and of the forest after it. -/
theorem range_append (f : ℕ → ℕ) (n k l : ℕ) :
    (List.range' n (k + l)).map f = (List.range' n k).map f ++ (List.range' (n + k) l).map f := by
  rw [← List.map_append, List.range'_append_1]

mutual

theorem indents_events (n a d : ℕ) (ha : a ≤ n) : ∀ tree : CallTree η ρ χ,
    indents d (events tree) =
      (List.range' n (events tree).length).map fun k => d + openAt (spans n tree) a k
  | .leaf x => by
    simp [events, indents, CallEvent.lineDepth, spans, openAt]
  | .span h r children => by
    have hchildren := indents_forestEvents (n + 1) a (d + 1) (by omega) children
    have hfirst : d + openAt (spans n (.span h r children)) a n = d := by
      rw [openAt_spans_span, if_neg (by omega), openAt_forestSpans_outside children (by omega)]
      rfl
    have hlast : d + openAt (spans n (.span h r children)) a
        (n + 1 + (forestEvents children).length) = d := by
      rw [openAt_spans_span, if_neg (by omega), openAt_forestSpans_outside children (by omega)]
      rfl
    have hinside : (List.range' (n + 1) (forestEvents children).length).map
        (fun k => d + openAt (spans n (.span h r children)) a k) =
        indents (d + 1) (forestEvents children) := by
      rw [hchildren]
      apply List.map_congr_left
      intro k hk
      have hrange := List.mem_range'_1.mp hk
      rw [openAt_spans_span, if_pos (by omega)]
      omega
    have hlength : (events (.span h r children)).length =
        1 + (forestEvents children).length + 1 := by
      rw [length_events_span, Nat.add_comm 1]
    have hwhole : indents d (events (.span h r children)) =
        d :: (indents (d + 1) (forestEvents children ++ [.closed r])) := by
      rw [events]
      rfl
    rw [hwhole, indents_append, depthAfter_forestEvents, hlength, range_append, range_append,
      hinside]
    simp only [List.range'_one, List.map_cons, List.map_nil, hfirst]
    rw [← Nat.add_assoc, hlast]
    rfl

theorem indents_forestEvents (n a d : ℕ) (ha : a ≤ n) : ∀ forest : List (CallTree η ρ χ),
    indents d (forestEvents forest) =
      (List.range' n (forestEvents forest).length).map fun k => d + openAt (forestSpans n forest) a k
  | [] => by
    rw [forestEvents]
    rfl
  | tree :: trees => by
    have htrees := indents_forestEvents (n + (events tree).length) a d (by omega) trees
    rw [forestEvents, indents_append, depthAfter_events, indents_events n a d ha tree, htrees,
      List.length_append, range_append]
    congr 1
    · apply List.map_congr_left
      intro k hk
      have hrange := List.mem_range'_1.mp hk
      rw [openAt_forestSpans_cons, if_pos (by omega)]
    · apply List.map_congr_left
      intro k hk
      have hrange := List.mem_range'_1.mp hk
      rw [openAt_forestSpans_cons, if_neg (by omega)]

end

/-! ### Starting inside calls -/

theorem drop_events_span (m : ℕ) (h : η) (r : ρ) (children : List (CallTree η ρ χ)) :
    (events (.span h r children)).drop (m + 1) =
      (forestEvents children).drop m ++
        ([.closed r] : List (CallEvent η ρ χ)).drop (m - (forestEvents children).length) := by
  rw [events, List.cons_append, List.drop_succ_cons, List.drop_append]

theorem depthAfter_closed (m : ℕ) (r : ρ) :
    depthAfter 0 (([.closed r] : List (CallEvent η ρ χ)).drop m) = 0 := by
  cases m with
  | zero => rfl
  | succ m => rw [List.drop_succ_cons, List.drop_nil]; rfl

mutual

theorem depthAfter_drop_events (m : ℕ) : ∀ tree : CallTree η ρ χ,
    depthAfter 0 ((events tree).drop m) = 0
  | .leaf x => by
    cases m with
    | zero => rfl
    | succ m => simp [events, depthAfter]
  | .span h r children => by
    cases m with
    | zero => exact depthAfter_events 0 (.span h r children)
    | succ m =>
      rw [drop_events_span, depthAfter_append, depthAfter_drop_forestEvents m children]
      exact depthAfter_closed _ r

/-- A counter that starts at zero inside calls of a forest is at zero after it. -/
theorem depthAfter_drop_forestEvents (m : ℕ) : ∀ forest : List (CallTree η ρ χ),
    depthAfter 0 ((forestEvents forest).drop m) = 0
  | [] => by
    rw [forestEvents, List.drop_nil]
    rfl
  | tree :: trees => by
    rw [forestEvents, List.drop_append, depthAfter_append, depthAfter_drop_events m tree,
      depthAfter_drop_forestEvents _ trees]

end

mutual

theorem indents_drop_events (n m : ℕ) : ∀ tree : CallTree η ρ χ,
    indents 0 ((events tree).drop m) =
      (List.range' (n + m) ((events tree).length - m)).map (openAt (spans n tree) (n + m))
  | .leaf x => by
    cases m with
    | zero =>
      have hwhole := indents_events n n 0 (by omega) (.leaf x : CallTree η ρ χ)
      simpa using hwhole
    | succ m => simp [events, indents]
  | .span h r children => by
    cases m with
    | zero =>
      have hwhole := indents_events n n 0 (by omega) (.span h r children)
      simpa using hwhole
    | succ m =>
      have hchildren := indents_drop_forestEvents (n + 1) m children
      have hstart : n + (m + 1) = n + 1 + m := by omega
      have hinside : (List.range' (n + 1 + m) ((forestEvents children).length - m)).map
          (openAt (spans n (.span h r children)) (n + 1 + m)) =
          indents 0 ((forestEvents children).drop m) := by
        rw [hchildren]
        apply List.map_congr_left
        intro k hk
        rw [openAt_spans_span, if_neg (by omega), Nat.zero_add]
      rw [drop_events_span, indents_append, depthAfter_drop_forestEvents m children, ← hinside,
        length_events_span, hstart]
      by_cases hm : m ≤ (forestEvents children).length
      · have hzero : m - (forestEvents children).length = 0 := by omega
        have hlength : (forestEvents children).length + 2 - (m + 1) =
            ((forestEvents children).length - m) + 1 := by omega
        have hend : n + 1 + m + ((forestEvents children).length - m) =
            n + 1 + (forestEvents children).length := by omega
        have hlast : openAt (spans n (.span h r children)) (n + 1 + m)
            (n + 1 + (forestEvents children).length) = 0 := by
          rw [openAt_spans_span, if_neg (by omega),
            openAt_forestSpans_outside children (by omega)]
        rw [hzero, hlength, range_append, hend, List.range'_one, List.map_singleton, hlast]
        rfl
      · have hnone : ([.closed r] : List (CallEvent η ρ χ)).drop
            (m - (forestEvents children).length) = [] := by
          rw [List.drop_eq_nil_iff, List.length_singleton]
          omega
        have hlength : (forestEvents children).length + 2 - (m + 1) = 0 := by omega
        have hempty : (forestEvents children).length - m = 0 := by omega
        rw [hnone, hlength, hempty]
        rfl

theorem indents_drop_forestEvents (n m : ℕ) : ∀ forest : List (CallTree η ρ χ),
    indents 0 ((forestEvents forest).drop m) =
      (List.range' (n + m) ((forestEvents forest).length - m)).map
        (openAt (forestSpans n forest) (n + m))
  | [] => by
    rw [forestEvents, List.drop_nil, List.length_nil, Nat.zero_sub]
    rfl
  | tree :: trees => by
    rw [forestEvents, List.drop_append, indents_append, depthAfter_drop_events m tree,
      indents_drop_events n m tree, List.length_append]
    by_cases hm : m ≤ (events tree).length
    · have hwhole := indents_forestEvents (n + (events tree).length) (n + m) 0 (by omega) trees
      have hzero : m - (events tree).length = 0 := by omega
      have hlength : (events tree).length + (forestEvents trees).length - m =
          ((events tree).length - m) + (forestEvents trees).length := by omega
      rw [hzero, List.drop_zero, hwhole, hlength, range_append]
      have hstart : n + m + ((events tree).length - m) = n + (events tree).length := by omega
      rw [hstart]
      congr 1
      · apply List.map_congr_left
        intro k hk
        have hrange := List.mem_range'_1.mp hk
        rw [openAt_forestSpans_cons, if_pos (by omega)]
      · apply List.map_congr_left
        intro k hk
        have hrange := List.mem_range'_1.mp hk
        rw [openAt_forestSpans_cons, if_neg (by omega), Nat.zero_add]
    · have hrest := indents_drop_forestEvents (n + (events tree).length)
        (m - (events tree).length) trees
      have hzero : (events tree).length - m = 0 := by omega
      have hlength : (events tree).length + (forestEvents trees).length - m =
          (forestEvents trees).length - (m - (events tree).length) := by omega
      have hstart : n + (events tree).length + (m - (events tree).length) = n + m := by omega
      rw [hrest, hzero, hlength, hstart, List.range'_zero, List.map_nil, List.nil_append]
      apply List.map_congr_left
      intro k hk
      have hrange := List.mem_range'_1.mp hk
      rw [openAt_forestSpans_cons, if_neg (by omega)]

end

/-- The depth of each line of a part of a forest, counted from the first line of the part. -/
theorem indents_part {forest : List (CallTree η ρ χ)} {before part after : List (CallEvent η ρ χ)}
    (h : forestEvents forest = before ++ part ++ after) :
    indents 0 part =
      (List.range' before.length part.length).map
        (openAt (forestSpans 0 forest) before.length) := by
  have hdrop := indents_drop_forestEvents 0 before.length forest
  have hrest : (forestEvents forest).drop before.length = part ++ after := by
    rw [h, List.append_assoc, List.drop_left]
  have hlength : (forestEvents forest).length - before.length = part.length + after.length := by
    rw [h, List.length_append, List.length_append]
    omega
  have hpart := indents_take 0 part.length (part ++ after)
  rw [List.take_left, ← hrest, hdrop, hlength, range_append, Nat.zero_add] at hpart
  rw [hpart, List.take_left' (by rw [List.length_map, List.length_range'])]

/-! ### Printing with the counter -/

/-- Each line is printed from its event and its depth. -/
def Printer.ofLines (line : ℕ → CallEvent η ρ χ → ω) : Printer η ρ χ ω where
  opening d h := line d (.opened h)
  closing d _ r := line d (.closed r)
  leaf d x := line d (.leaf x)

theorem zipWith_append_indents (line : ℕ → CallEvent η ρ χ → ω) (d : ℕ)
    (xs ys : List (CallEvent η ρ χ)) :
    List.zipWith line (indents d (xs ++ ys)) (xs ++ ys) =
      List.zipWith line (indents d xs) xs ++
        List.zipWith line (indents (depthAfter d xs) ys) ys := by
  induction xs generalizing d with
  | nil => rfl
  | cons e xs ih =>
    have hstep := ih (e.nextDepth d)
    rw [List.cons_append, indents, List.zipWith_cons_cons, hstep]
    rfl

mutual

theorem lines_ofLines (line : ℕ → CallEvent η ρ χ → ω) (d : ℕ) : ∀ tree : CallTree η ρ χ,
    lines (.ofLines line) d tree = List.zipWith line (indents d (events tree)) (events tree)
  | .leaf x => by
    rw [lines, events]
    rfl
  | .span h r children => by
    rw [lines, events, forestLines_ofLines line (d + 1) children]
    have hsplit := zipWith_append_indents line (d + 1) (forestEvents children) [.closed r]
    rw [depthAfter_forestEvents] at hsplit
    exact congrArg (line d (.opened h) :: ·) hsplit.symm

/-- The printed forest is what the counter prints. -/
theorem forestLines_ofLines (line : ℕ → CallEvent η ρ χ → ω) (d : ℕ) :
    ∀ forest : List (CallTree η ρ χ), forestLines (.ofLines line) d forest =
      List.zipWith line (indents d (forestEvents forest)) (forestEvents forest)
  | [] => by
    rw [forestLines, forestEvents]
    rfl
  | tree :: trees => by
    rw [forestLines, forestEvents, zipWith_append_indents, depthAfter_events,
      lines_ofLines line d tree, forestLines_ofLines line d trees]

end

end CudaTrace.Base
