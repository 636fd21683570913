import CudaTrace.Base.Trim
import Mathlib.Algebra.BigOperators.Group.List.Basic
import Mathlib.Algebra.GroupWithZero.Nat

/-!
# Pieces and words

A text that is cut at a separator, and one whose runs of whitespace become single spaces: which
characters are left, and how the last piece and the last word end.
-/

namespace CudaTrace.Base

/-! ### Pieces -/

section Pieces

variable {α : Type*} [DecidableEq α] {sep : α}

/-- Cutting a list of joined texts gives the pieces of each. -/
theorem splitOn_intercalate_flatMap (first : List α) (rest : List (List α)) :
    ([sep].intercalate (first :: rest)).splitOn sep =
      (first :: rest).flatMap fun l => l.splitOn sep := by
  induction rest generalizing first with
  | nil => simp
  | cons second rest ih =>
    rw [List.intercalate_cons_cons, List.append_assoc, List.singleton_append,
      List.splitOn_append_cons_self, ih second]
    rfl

/-- What follows without a separator belongs to the last piece. -/
theorem splitOn_append_last (xs : List α) :
    ∃ init last, xs.splitOn sep = init ++ [last] ∧
      ∀ ys, sep ∉ ys → (xs ++ ys).splitOn sep = init ++ [last ++ ys] := by
  induction xs with
  | nil =>
    refine ⟨[], [], rfl, ?_⟩
    intro ys hys
    exact List.splitOn_eq_singleton hys
  | cons x xs ih =>
    obtain ⟨init, last, hxs, happend⟩ := ih
    by_cases hx : x = sep
    · refine ⟨[] :: init, last, ?_, ?_⟩
      · rw [List.splitOn_cons_eq_if_modifyHead, if_pos (beq_iff_eq.mpr hx), hxs]
        rfl
      · intro ys hys
        rw [List.cons_append, List.splitOn_cons_eq_if_modifyHead, if_pos (beq_iff_eq.mpr hx),
          happend ys hys]
        rfl
    · have hne : ¬(x == sep) = true := fun h => hx (beq_iff_eq.mp h)
      cases init with
      | nil =>
        refine ⟨[], x :: last, ?_, ?_⟩
        · rw [List.splitOn_cons_eq_if_modifyHead, if_neg hne, hxs]
          rfl
        · intro ys hys
          rw [List.cons_append, List.splitOn_cons_eq_if_modifyHead, if_neg hne, happend ys hys]
          rfl
      | cons first init =>
        refine ⟨(x :: first) :: init, last, ?_, ?_⟩
        · rw [List.splitOn_cons_eq_if_modifyHead, if_neg hne, hxs]
          rfl
        · intro ys hys
          rw [List.cons_append, List.splitOn_cons_eq_if_modifyHead, if_neg hne, happend ys hys]
          rfl

/-- Cutting leaves every character but the separators. -/
theorem countP_splitOn (p : α → Bool) (hsep : p sep = false) (xs : List α) :
    ((xs.splitOn sep).map (List.countP p)).sum = xs.countP p := by
  induction xs with
  | nil => simp
  | cons x xs ih =>
    rw [List.splitOn_cons_eq_if_modifyHead, List.countP_cons]
    split_ifs with hx hp hp
    · rw [beq_iff_eq.mp hx, hsep] at hp
      cases hp
    · simpa using ih
    · cases hpieces : xs.splitOn sep with
      | nil => exact absurd hpieces (List.splitOn_ne_nil _ _)
      | cons piece pieces =>
        rw [hpieces] at ih
        simp only [List.modifyHead_cons, List.map_cons, List.sum_cons, List.countP_cons, hp,
          if_true] at ih ⊢
        omega
    · cases hpieces : xs.splitOn sep with
      | nil => exact absurd hpieces (List.splitOn_ne_nil _ _)
      | cons piece pieces =>
        rw [hpieces] at ih
        simp only [List.modifyHead_cons, List.map_cons, List.sum_cons, List.countP_cons, hp] at ih ⊢
        simpa using ih

theorem countP_intercalate (p : α → Bool) {joint : List α} (hjoint : joint.countP p = 0)
    (ls : List (List α)) : (joint.intercalate ls).countP p = (ls.map (List.countP p)).sum := by
  induction ls with
  | nil => rfl
  | cons l ls ih =>
    cases ls with
    | nil => simp
    | cons l' ls =>
      rw [List.intercalate_cons_cons, List.countP_append, List.countP_append, hjoint, ih,
        List.map_cons (l := l' :: ls), List.sum_cons, Nat.add_zero]

theorem infix_intercalate {joint l : List α} {ls : List (List α)} (h : l ∈ ls) :
    l <:+: joint.intercalate ls := by
  induction ls with
  | nil => cases h
  | cons l' ls ih =>
    cases ls with
    | nil =>
      rw [List.mem_singleton.mp h, List.intercalate_singleton]
    | cons l'' ls =>
      rw [List.intercalate_cons_cons]
      rcases List.mem_cons.mp h with rfl | h
      · rw [List.append_assoc]
        exact (List.prefix_append _ _).isInfix
      · exact (ih h).trans (List.suffix_append _ _).isInfix

/-- A piece is a part of the text. -/
theorem infix_of_mem_splitOn {xs piece : List α} (h : piece ∈ xs.splitOn sep) : piece <:+: xs := by
  have hpart : piece <:+: [sep].intercalate (xs.splitOn sep) := infix_intercalate h
  rwa [List.intercalate_splitOn] at hpart

end Pieces

/-! ### Words -/

theorem wordsAux_solid {w : List Char} (hw : ∀ c ∈ w, isWhitespace c = false) (acc : List Char)
    (hne : acc ++ w ≠ []) : wordsAux acc w = [acc.reverse ++ w] := by
  induction w generalizing acc with
  | nil =>
    have hacc : acc ≠ [] := by simpa using hne
    simp [wordsAux, hacc]
  | cons c w ih =>
    have hc := hw c List.mem_cons_self
    have hstep := ih (fun x hx => hw x (List.mem_cons_of_mem _ hx)) (c :: acc) (by simp)
    rw [wordsAux, hc, if_neg Bool.false_ne_true, hstep, List.reverse_cons, List.append_assoc]
    rfl

theorem wordsAux_append_blank (acc xs ys : List Char) {c : Char} (hc : isWhitespace c = true) :
    wordsAux acc (xs ++ c :: ys) = wordsAux acc xs ++ wordsAux [] ys := by
  induction xs generalizing acc with
  | nil =>
    rw [List.nil_append, wordsAux, wordsAux, hc, if_pos rfl]
    split_ifs <;> rfl
  | cons x xs ih =>
    rw [List.cons_append, wordsAux, wordsAux, ih, ih]
    split_ifs <;> rfl

/-- Letters at the end are the end of the last word. -/
theorem wordsAux_append_solid {z : List Char} (hz : ∀ c ∈ z, isWhitespace c = false) (hne : z ≠ [])
    (acc xs : List Char) : ∃ init w, wordsAux acc (xs ++ z) = init ++ [w ++ z] := by
  induction xs generalizing acc with
  | nil =>
    have hone := wordsAux_solid hz acc (List.append_ne_nil_of_right_ne_nil _ hne)
    exact ⟨[], acc.reverse, hone⟩
  | cons x xs ih =>
    rw [List.cons_append, wordsAux]
    split_ifs with hx hacc
    · exact ih []
    · obtain ⟨init, w, h⟩ := ih []
      exact ⟨acc.reverse :: init, w, by rw [h, List.cons_append]⟩
    · exact ih (x :: acc)

theorem wordsAux_blank {xs : List Char} (h : ∀ c ∈ xs, isWhitespace c = true) :
    wordsAux [] xs = [] := by
  induction xs with
  | nil => rfl
  | cons x xs ih =>
    rw [wordsAux, h x List.mem_cons_self, if_pos rfl]
    exact ih fun c hc => h c (List.mem_cons_of_mem _ hc)

theorem countP_wordsAux (p : Char → Bool) (hp : ∀ c, isWhitespace c = true → p c = false)
    (acc xs : List Char) :
    ((wordsAux acc xs).map (List.countP p)).sum = acc.countP p + xs.countP p := by
  induction xs generalizing acc with
  | nil =>
    rw [wordsAux]
    split_ifs with hacc
    · simp [List.isEmpty_iff.mp hacc]
    · simp
  | cons x xs ih =>
    rw [wordsAux, List.countP_cons]
    split_ifs with hx hacc hpx hpx hpx
    · rw [hp x hx] at hpx
      cases hpx
    · simp [ih, List.isEmpty_iff.mp hacc]
    · rw [hp x hx] at hpx
      cases hpx
    · simp [ih]
    · rw [ih, List.countP_cons, if_pos hpx]
      omega
    · rw [ih, List.countP_cons, if_neg hpx]
      omega

/-- Every run of whitespace as one space, without those at the ends. -/
def collapsed (s : List Char) : List Char := [' '].intercalate (wordsAux [] s)

theorem countP_collapsed (p : Char → Bool) (hp : ∀ c, isWhitespace c = true → p c = false)
    (s : List Char) : (collapsed s).countP p = s.countP p := by
  have hspace : [' '].countP p = 0 := by
    rw [List.countP_singleton, hp ' ' (by decide)]
    rfl
  rw [collapsed, countP_intercalate p hspace, countP_wordsAux p hp]
  simp

theorem intercalate_concat (joint : List Char) (init : List (List Char)) (last : List Char) :
    joint.intercalate (init ++ [last]) =
      if init = [] then last else joint.intercalate init ++ joint ++ last := by
  induction init with
  | nil => simp
  | cons l init ih =>
    cases init with
    | nil => simp [List.intercalate_cons_cons]
    | cons l' init =>
      rw [if_neg (List.cons_ne_nil _ _)] at ih
      rw [if_neg (List.cons_ne_nil _ _), List.cons_append, List.cons_append,
        List.intercalate_cons_cons, List.intercalate_cons_cons, ← List.cons_append, ih]
      simp only [List.append_assoc]

/-- Letters at the end stay at the end. -/
theorem collapsed_append_solid {z : List Char} (hz : ∀ c ∈ z, isWhitespace c = false) (hne : z ≠ [])
    (xs : List Char) : ∃ before, collapsed (xs ++ z) = before ++ z := by
  obtain ⟨init, w, h⟩ := wordsAux_append_solid hz hne [] xs
  rw [collapsed, h, intercalate_concat]
  split_ifs
  · exact ⟨w, rfl⟩
  · exact ⟨_, (List.append_assoc _ _ _).symm⟩

theorem collapsed_append_blank (xs : List Char) {ys : List Char}
    (h : ∀ c ∈ ys, isWhitespace c = true) : collapsed (xs ++ ys) = collapsed xs := by
  cases ys with
  | nil => rw [List.append_nil]
  | cons y ys =>
    have hy := h y List.mem_cons_self
    have hys : ∀ c ∈ ys, isWhitespace c = true := fun c hc => h c (List.mem_cons_of_mem _ hc)
    rw [collapsed, wordsAux_append_blank [] xs ys hy, wordsAux_blank hys, List.append_nil, collapsed]

theorem wordsAux_blank_append {xs : List Char} (h : ∀ c ∈ xs, isWhitespace c = true)
    (ys : List Char) : wordsAux [] (xs ++ ys) = wordsAux [] ys := by
  induction xs with
  | nil => rfl
  | cons x xs ih =>
    rw [List.cons_append, wordsAux, h x List.mem_cons_self, if_pos rfl, if_pos List.isEmpty_nil]
    exact ih fun c hc => h c (List.mem_cons_of_mem _ hc)

theorem collapsed_trimmed (s : List Char) : collapsed (trimmed s) = collapsed s := by
  obtain ⟨xs, ys, hs, hxs, hys⟩ := exists_trimmed s
  have hfront : collapsed (xs ++ (trimmed s ++ ys)) = collapsed (trimmed s ++ ys) := by
    rw [collapsed, wordsAux_blank_append hxs, collapsed]
  conv => rhs; rw [hs]
  rw [List.append_assoc, hfront, collapsed_append_blank _ hys]

theorem collapsed_dropWhile (s t : List Char) :
    collapsed (s.dropWhile isWhitespace ++ t) = collapsed (s ++ t) := by
  have hsplit : s ++ t = s.takeWhile isWhitespace ++ (s.dropWhile isWhitespace ++ t) := by
    rw [← List.append_assoc, List.takeWhile_append_dropWhile]
  have hblank : ∀ c ∈ s.takeWhile isWhitespace, isWhitespace c = true :=
    fun c hc => List.all_eq_true.mp List.all_takeWhile c hc
  rw [hsplit, collapsed, collapsed, wordsAux_blank_append hblank]

theorem wordsAux_ne_nil {acc xs w : List Char} (h : w ∈ wordsAux acc xs) : w ≠ [] := by
  induction xs generalizing acc with
  | nil =>
    rw [wordsAux] at h
    split_ifs at h with hacc
    · cases h
    · rw [List.mem_singleton.mp h]
      simpa using hacc
  | cons x xs ih =>
    rw [wordsAux] at h
    split_ifs at h with hx hacc
    · exact ih h
    · rcases List.mem_cons.mp h with rfl | h
      · simpa using hacc
      · exact ih h
    · exact ih h

/-- Collapsing leaves no whitespace at the ends. -/
theorem solid_collapsed (s : List Char) : Solid (collapsed s) := by
  have hword : ∀ w ∈ wordsAux [] s, w ≠ [] ∧ ∀ c ∈ w, isWhitespace c = false :=
    fun w hw => ⟨wordsAux_ne_nil hw, mem_wordsAux (by simp) hw⟩
  constructor
  · intro c hc
    cases hwords : wordsAux [] s with
    | nil =>
      rw [collapsed, hwords] at hc
      cases hc
    | cons w ws =>
      obtain ⟨hne, hsolid⟩ := hword w (by rw [hwords]; exact List.mem_cons_self)
      have hhead : (collapsed s).head? = w.head? := by
        rw [collapsed, hwords]
        cases ws with
        | nil => rw [List.intercalate_singleton]
        | cons w' ws =>
          rw [List.intercalate_cons_cons, List.append_assoc, List.head?_append_of_ne_nil _ hne]
      rw [hhead] at hc
      exact hsolid c (List.mem_of_head? hc)
  · intro c hc
    rcases List.eq_nil_or_concat (wordsAux [] s) with hwords | ⟨init, w, hwords⟩
    · rw [collapsed, hwords] at hc
      cases hc
    · rw [List.concat_eq_append] at hwords
      obtain ⟨hne, hsolid⟩ := hword w (by rw [hwords]; simp)
      have hlast : (collapsed s).getLast? = w.getLast? := by
        rw [collapsed, hwords, intercalate_concat]
        split_ifs
        · rfl
        · rw [List.getLast?_append_of_ne_nil _ hne]
      rw [hlast] at hc
      exact hsolid c (List.mem_of_getLast? hc)

theorem collapsed_solid {w : List Char} (h : ∀ c ∈ w, isWhitespace c = false) : collapsed w = w := by
  by_cases hne : w = []
  · rw [hne]
    rfl
  · rw [collapsed, wordsAux_solid h [] (by simpa using hne), List.intercalate_singleton]
    rfl

theorem collapsed_append_word {w : List Char} (hw : ∀ c ∈ w, isWhitespace c = false) (hne : w ≠ [])
    (xs : List Char) {c : Char} (hc : isWhitespace c = true) (hxs : wordsAux [] xs ≠ []) :
    collapsed (xs ++ c :: w) = collapsed xs ++ ' ' :: w := by
  have hone := wordsAux_solid hw [] (by simpa using hne)
  rw [collapsed, wordsAux_append_blank [] xs w hc, hone, intercalate_concat, if_neg hxs,
    List.append_assoc]
  rfl

theorem mem_intercalate {c : Char} {joint : List Char} {ls : List (List Char)}
    (h : c ∈ joint.intercalate ls) : c ∈ joint ∨ ∃ l ∈ ls, c ∈ l := by
  induction ls with
  | nil => cases h
  | cons l ls ih =>
    cases ls with
    | nil => exact .inr ⟨l, List.mem_singleton_self l, by simpa using h⟩
    | cons l' ls =>
      rw [List.intercalate_cons_cons, List.mem_append, List.mem_append] at h
      rcases h with (h | h) | h
      · exact .inr ⟨l, List.mem_cons_self, h⟩
      · exact .inl h
      · rcases ih h with hjoint | ⟨x, hx, hcx⟩
        · exact .inl hjoint
        · exact .inr ⟨x, List.mem_cons_of_mem _ hx, hcx⟩

theorem mem_of_mem_wordsAux {acc xs w : List Char} {c : Char} (hw : w ∈ wordsAux acc xs)
    (hc : c ∈ w) : c ∈ acc ∨ c ∈ xs := by
  induction xs generalizing acc with
  | nil =>
    rw [wordsAux] at hw
    split_ifs at hw
    · cases hw
    · rw [List.mem_singleton.mp hw, List.mem_reverse] at hc
      exact .inl hc
  | cons x xs ih =>
    rw [wordsAux] at hw
    split_ifs at hw
    · rcases ih hw with h | h
      · cases h
      · exact .inr (List.mem_cons_of_mem _ h)
    · rcases List.mem_cons.mp hw with rfl | hw
      · exact .inl (List.mem_reverse.mp hc)
      · rcases ih hw with h | h
        · cases h
        · exact .inr (List.mem_cons_of_mem _ h)
    · rcases ih hw with h | h
      · rcases List.mem_cons.mp h with rfl | h
        · exact .inr List.mem_cons_self
        · exact .inl h
      · exact .inr (List.mem_cons_of_mem _ h)

theorem mem_collapsed {s : List Char} {c : Char} (h : c ∈ collapsed s) : c = ' ' ∨ c ∈ s := by
  rcases mem_intercalate h with hspace | ⟨w, hw, hc⟩
  · exact .inl (List.mem_singleton.mp hspace)
  · rcases mem_of_mem_wordsAux hw hc with hnil | hs
    · cases hnil
    · exact .inr hs

/-! ### Patterns -/

theorem splitAtText_some {pat s before after : List Char}
    (h : splitAtText pat s = some (before, after)) : s = before ++ pat ++ after := by
  induction s generalizing before after with
  | nil =>
    rw [splitAtText] at h
    split_ifs at h with hpat
    cases h
    simp [List.isEmpty_iff.mp hpat]
  | cons c s ih =>
    rw [splitAtText] at h
    split_ifs at h with hpat
    · cases h
      obtain ⟨rest, hrest⟩ := List.isPrefixOf_iff_prefix.mp hpat
      rw [← hrest, List.drop_left]
      rfl
    · obtain ⟨⟨b, a⟩, hb, he⟩ := Option.map_eq_some_iff.mp h
      cases he
      rw [ih hb]
      rfl

theorem splitAtText_none {pat s : List Char} (hne : pat ≠ []) (h : ¬pat <:+: s) :
    splitAtText pat s = none := by
  induction s with
  | nil =>
    rw [splitAtText, if_neg]
    simpa using hne
  | cons c s ih =>
    have hpat : ¬pat.isPrefixOf (c :: s) = true := fun hp =>
      h (List.isPrefixOf_iff_prefix.mp hp).isInfix
    have hrest : ¬pat <:+: s := fun hp => h (List.infix_cons hp)
    rw [splitAtText, if_neg hpat, ih hrest]
    rfl

/-- A pattern whose last character it has nowhere else starts nowhere in what stands before it. -/
theorem splitAtText_first {stem : List Char} {e : Char} (hstem : e ∉ stem) (before after : List Char)
    (h : ¬stem ++ [e] <:+: before) :
    splitAtText (stem ++ [e]) (before ++ (stem ++ [e]) ++ after) = some (before, after) := by
  induction before with
  | nil =>
    have hstarts : (stem ++ [e]).isPrefixOf (stem ++ [e] ++ after) = true :=
      List.isPrefixOf_iff_prefix.mpr (List.prefix_append _ _)
    cases hpat : stem ++ [e] with
    | nil => exact absurd hpat (by simp)
    | cons c pat =>
      rw [hpat, List.cons_append] at hstarts
      rw [List.nil_append, List.cons_append, splitAtText, if_pos hstarts, ← List.cons_append,
        List.drop_left]
  | cons c before ih =>
    have hnot : ¬(stem ++ [e]).isPrefixOf (c :: before ++ (stem ++ [e]) ++ after) = true := by
      intro hp
      obtain ⟨rest, hrest⟩ := List.isPrefixOf_iff_prefix.mp hp
      have hshift : stem ++ e :: rest = (c :: before) ++ (stem ++ e :: after) := by
        simpa using hrest
      rcases List.append_eq_append_iff.mp hshift with ⟨mid, hbefore, htail⟩ | ⟨mid, hs, htail⟩
      · cases mid with
        | nil =>
          cases stem with
          | nil => cases hbefore
          | cons d stem =>
            rw [List.nil_append, List.cons_append, List.cons.injEq] at htail
            exact hstem (by rw [htail.1]; exact List.mem_cons_self)
        | cons d mid =>
          rw [List.cons_append, List.cons.injEq] at htail
          apply h
          exact ⟨[], mid, by rw [hbefore, ← htail.1]; simp⟩
      · -- the stem would start with a part of itself
        have hmid : e ∉ mid := fun hm => hstem (by rw [hs]; exact List.mem_append_right _ hm)
        have hlength := congrArg (fun l => (l.takeWhile (· ≠ e)).length) htail
        have htake : ∀ {l : List Char} (t : List Char), e ∉ l →
            (l ++ e :: t).takeWhile (· ≠ e) = l := by
          intro l t hl
          have hall : ∀ x ∈ l, decide (x ≠ e) = true := by
            intro x hx
            exact decide_eq_true (ne_of_mem_of_not_mem hx hl)
          rw [List.takeWhile_append_of_pos hall]
          simp
        simp only [htake _ hstem, htake _ hmid] at hlength
        have hlong := congrArg List.length hs
        simp only [List.length_append, List.length_cons] at hlong
        omega
    have hrest : ¬stem ++ [e] <:+: before := fun hp => h (List.infix_cons hp)
    rw [List.cons_append, List.cons_append] at hnot ⊢
    rw [splitAtText, if_neg hnot, ih hrest]
    rfl

end CudaTrace.Base
