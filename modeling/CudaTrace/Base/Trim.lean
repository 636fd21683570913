import CudaTrace.Base.Lines

/-!
# Trimming

What is left of a text without the whitespace at its ends.
-/

namespace CudaTrace.Base

/-- `str::trim`, on the characters. -/
def trimmed (cs : List Char) : List Char :=
  ((cs.dropWhile isWhitespace).reverse.dropWhile isWhitespace).reverse

/-- No whitespace at the ends. -/
def Solid (cs : List Char) : Prop :=
  (∀ c ∈ cs.head?, isWhitespace c = false) ∧ ∀ c ∈ cs.getLast?, isWhitespace c = false

theorem isWhitespace_graphic {c : Char} (h : 0x20 < c.toNat) (h' : c.toNat < 0x7f) :
    isWhitespace c = false := by
  unfold isWhitespace
  simp only [Bool.or_eq_false_iff, Bool.and_eq_false_iff, decide_eq_false_iff_not]
  omega

theorem isAlphanum_graphic {c : Char} (h : c.isAlphanum = true) :
    0x20 < c.toNat ∧ c.toNat < 0x7f := by
  unfold Char.isAlphanum Char.isAlpha Char.isUpper Char.isLower Char.isDigit at h
  simp only [Bool.or_eq_true, Bool.and_eq_true, decide_eq_true_eq, ge_iff_le,
    UInt32.le_iff_toNat_le] at h
  have hval : c.toNat = c.val.toNat := rfl
  simp at h
  omega

theorem dropCarriageReturn_of_notMem {cs : List Char} (h : '\r' ∉ cs) :
    dropCarriageReturn cs = cs := by
  unfold dropCarriageReturn
  rw [if_neg]
  intro hlast
  exact h (List.mem_of_getLast? hlast)

theorem mem_dropCarriageReturn {cs : List Char} {c : Char} (h : c ∈ dropCarriageReturn cs) :
    c ∈ cs := by
  unfold dropCarriageReturn at h
  split_ifs at h
  · exact List.mem_of_mem_dropLast h
  · exact h

theorem trim_ofList (cs : List Char) : trim (String.ofList cs) = String.ofList (trimmed cs) := by
  unfold trim
  rw [String.toList_ofList]
  rfl

theorem dropWhile_blank_append {xs ys : List Char} (hxs : ∀ c ∈ xs, isWhitespace c = true)
    (hys : ∀ c ∈ ys.head?, isWhitespace c = false) : (xs ++ ys).dropWhile isWhitespace = ys := by
  rw [List.dropWhile_append_of_pos hxs]
  cases ys with
  | nil => rfl
  | cons y ys =>
    have hy := hys y rfl
    rw [List.dropWhile_cons, hy]
    rfl

/-- Whitespace around a text that has none at its ends is what trimming removes. -/
theorem trimmed_append {xs body ys : List Char} (hxs : ∀ c ∈ xs, isWhitespace c = true)
    (hbody : Solid body) (hne : body ≠ []) (hys : ∀ c ∈ ys, isWhitespace c = true) :
    trimmed (xs ++ body ++ ys) = body := by
  have hhead : ∀ c ∈ (body ++ ys).head?, isWhitespace c = false := by
    intro c hc
    rw [List.head?_append_of_ne_nil _ hne] at hc
    exact hbody.1 c hc
  have hrev : ∀ c ∈ body.reverse.head?, isWhitespace c = false := by
    intro c hc
    rw [List.head?_reverse] at hc
    exact hbody.2 c hc
  have hblank : ∀ c ∈ ys.reverse, isWhitespace c = true := by
    intro c hc
    exact hys c (List.mem_reverse.mp hc)
  unfold trimmed
  rw [List.append_assoc, dropWhile_blank_append hxs hhead, List.reverse_append,
    dropWhile_blank_append hblank hrev, List.reverse_reverse]

/-- The text without the whitespace at its end. -/
def trimmedEnd (cs : List Char) : List Char := (cs.reverse.dropWhile isWhitespace).reverse

theorem prefix_trimmedEnd (cs : List Char) : trimmedEnd cs <+: cs := by
  have hsuffix := List.dropWhile_suffix isWhitespace (l := cs.reverse)
  rw [← List.reverse_prefix, List.reverse_reverse] at hsuffix
  exact hsuffix

theorem trimmedEnd_blank {cs : List Char} (h : ∀ c ∈ cs, isWhitespace c = true) :
    trimmedEnd cs = [] := by
  have hempty := @dropWhile_blank_append cs.reverse [] (by simpa using h) (by simp)
  rw [List.append_nil] at hempty
  unfold trimmedEnd
  rw [hempty]
  rfl

theorem trimmedEnd_append (xs ys : List Char) {c : Char} (hc : isWhitespace c = false) :
    trimmedEnd (xs ++ c :: ys) = xs ++ c :: trimmedEnd ys := by
  have hrev : (xs ++ c :: ys).reverse = ys.reverse ++ c :: xs.reverse := by simp
  unfold trimmedEnd
  rw [hrev, List.dropWhile_append]
  split_ifs with hempty
  · rw [List.isEmpty_iff.mp hempty, List.dropWhile_cons, hc]
    simp
  · simp

theorem dropWhile_append_cons (xs ys : List Char) {c : Char} (hc : isWhitespace c = false) :
    (xs ++ c :: ys).dropWhile isWhitespace = xs.dropWhile isWhitespace ++ c :: ys := by
  rw [List.dropWhile_append]
  split_ifs with hempty
  · rw [List.isEmpty_iff.mp hempty, List.dropWhile_cons, hc]
    rfl
  · rfl

theorem trimmed_append_cons (xs ys : List Char) {c : Char} (hc : isWhitespace c = false) :
    trimmed (xs ++ c :: ys) = xs.dropWhile isWhitespace ++ c :: trimmedEnd ys := by
  show trimmedEnd ((xs ++ c :: ys).dropWhile isWhitespace) = _
  rw [dropWhile_append_cons _ _ hc, trimmedEnd_append _ _ hc]

theorem trimmedEnd_append_blank (xs : List Char) {ys : List Char}
    (h : ∀ c ∈ ys, isWhitespace c = true) : trimmedEnd (xs ++ ys) = trimmedEnd xs := by
  have hblank : ∀ c ∈ ys.reverse, isWhitespace c = true := by
    intro c hc
    exact h c (List.mem_reverse.mp hc)
  unfold trimmedEnd
  rw [List.reverse_append, List.dropWhile_append_of_pos hblank]

theorem trimmed_append_blank (xs : List Char) {ys : List Char}
    (h : ∀ c ∈ ys, isWhitespace c = true) : trimmed (xs ++ ys) = trimmed xs := by
  show trimmedEnd ((xs ++ ys).dropWhile isWhitespace) = trimmedEnd (xs.dropWhile isWhitespace)
  rw [List.dropWhile_append]
  split_ifs with hempty
  · rw [List.isEmpty_iff.mp hempty, trimmedEnd_blank]
    · rfl
    · intro c hc
      exact h c ((List.dropWhile_sublist _).subset hc)
  · exact trimmedEnd_append_blank _ h

theorem exists_trimmedEnd (cs : List Char) :
    ∃ gap, cs = trimmedEnd cs ++ gap ∧ ∀ c ∈ gap, isWhitespace c = true := by
  have hsplit := congrArg List.reverse (List.takeWhile_append_dropWhile (p := isWhitespace)
    (l := cs.reverse))
  rw [List.reverse_append, List.reverse_reverse] at hsplit
  refine ⟨(cs.reverse.takeWhile isWhitespace).reverse, hsplit.symm, ?_⟩
  intro c hc
  exact List.all_eq_true.mp List.all_takeWhile c (List.mem_reverse.mp hc)

theorem trimmedEnd_last {cs : List Char} {c : Char} (h : c ∈ (trimmedEnd cs).getLast?) :
    isWhitespace c = false := by
  have hfirst := List.head?_dropWhile_not isWhitespace cs.reverse
  rw [trimmedEnd, List.getLast?_reverse] at h
  rw [Option.mem_def.mp h] at hfirst
  exact hfirst

/-- Trimming takes whitespace off both ends. -/
theorem exists_trimmed (cs : List Char) :
    ∃ xs ys, cs = xs ++ trimmed cs ++ ys ∧ (∀ c ∈ xs, isWhitespace c = true) ∧
      ∀ c ∈ ys, isWhitespace c = true := by
  obtain ⟨ys, hrest, hys⟩ := exists_trimmedEnd (cs.dropWhile isWhitespace)
  refine ⟨cs.takeWhile isWhitespace, ys, ?_, ?_, hys⟩
  · show cs = _ ++ trimmedEnd (cs.dropWhile isWhitespace) ++ _
    rw [List.append_assoc, ← hrest, List.takeWhile_append_dropWhile]
  · intro c hc
    exact List.all_eq_true.mp List.all_takeWhile c hc

theorem trimmed_sublist (cs : List Char) : (trimmed cs).Sublist cs :=
  (prefix_trimmedEnd _).sublist.trans (List.dropWhile_sublist _)

theorem trimmed_solid {body : List Char} (h : Solid body) : trimmed body = body := by
  by_cases hne : body = []
  · rw [hne]
    rfl
  · have hplain := @trimmed_append [] body [] (by simp) h hne (by simp)
    rwa [List.nil_append, List.append_nil] at hplain

theorem trimmed_blank {cs : List Char} (h : ∀ c ∈ cs, isWhitespace c = true) : trimmed cs = [] := by
  have hall : cs.dropWhile isWhitespace = [] := by
    have hempty := @dropWhile_blank_append cs [] h (by simp)
    rwa [List.append_nil] at hempty
  unfold trimmed
  rw [hall]
  rfl

end CudaTrace.Base
