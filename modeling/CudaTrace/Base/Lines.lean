import CudaTrace.Base.Text

/-!
# Lines and words of a text

A text that is put together of lines is split into these lines again, a line that starts with a
word gives this word first, and a pattern without the separator is found in one of the parts.
-/

namespace CudaTrace.Base

/-- The text of some lines. -/
def unlines (ls : List (List Char)) : List Char := ls.flatMap fun l => l ++ ['\n']

theorem linesAux_append {l : List Char} (hl : '\n' ∉ l) (acc rest : List Char) :
    linesAux acc (l ++ '\n' :: rest) = dropCarriageReturn (acc.reverse ++ l) :: linesAux [] rest := by
  induction l generalizing acc with
  | nil => simp [linesAux]
  | cons c l ih =>
    obtain ⟨hc, hrest⟩ := not_or.mp (mt List.mem_cons.mpr hl)
    have hne : c ≠ '\n' := fun he => hc he.symm
    have hstep := ih hrest (c :: acc)
    rw [List.reverse_cons, List.append_assoc, List.singleton_append] at hstep
    rw [List.cons_append, ← hstep]
    simp [linesAux]

/-- A text of whole lines is split into them. -/
theorem linesAux_unlines {ls : List (List Char)} (h : ∀ l ∈ ls, '\n' ∉ l) :
    linesAux [] (unlines ls) = ls.map dropCarriageReturn := by
  induction ls with
  | nil => rfl
  | cons l ls ih =>
    have htext : unlines (l :: ls) = l ++ '\n' :: unlines ls := by simp [unlines]
    rw [htext, linesAux_append (h l List.mem_cons_self), ih fun x hx => h x (List.mem_cons_of_mem _ hx)]
    rfl

theorem wordsAux_append {w : List Char} (hw : ∀ c ∈ w, isWhitespace c = false) (acc : List Char)
    {c : Char} (hc : isWhitespace c = true) (hne : acc ++ w ≠ []) (rest : List Char) :
    wordsAux acc (w ++ c :: rest) = (acc.reverse ++ w) :: wordsAux [] rest := by
  induction w generalizing acc with
  | nil =>
    have hacc : acc ≠ [] := by simpa using hne
    simp [wordsAux, hc, hacc]
  | cons x w ih =>
    have hx := hw x List.mem_cons_self
    have hstep := ih (fun y hy => hw y (List.mem_cons_of_mem _ hy)) (x :: acc) (by simp)
    rw [List.reverse_cons, List.append_assoc, List.singleton_append] at hstep
    rw [List.cons_append, wordsAux, hx, ← hstep]
    simp

/-- A pattern without the separator lies on one side of it. -/
theorem infix_separated {pat xs ys : List Char} {c : Char} (hc : c ∉ pat) :
    pat <:+: xs ++ c :: ys ↔ pat <:+: xs ∨ pat <:+: ys := by
  constructor
  · rintro ⟨before, after, h⟩
    rw [List.append_assoc] at h
    rcases List.append_eq_append_iff.mp h with ⟨mid, hxs, hrest⟩ | ⟨mid, hbefore, hrest⟩
    · rcases List.append_eq_append_iff.mp hrest with ⟨tail, hmid, _⟩ | ⟨tail, hpat, hys⟩
      · exact .inl ⟨before, tail, by rw [hxs, hmid, List.append_assoc]⟩
      · cases tail with
        | nil => exact .inl ⟨before, [], by rw [hxs, hpat]; simp⟩
        | cons x tail =>
          rw [List.cons_append, List.cons.injEq] at hys
          exact absurd (by rw [hpat, hys.1]; simp) hc
    · cases mid with
      | nil =>
        cases pat with
        | nil => exact .inl List.nil_infix
        | cons p pat =>
          rw [List.nil_append, List.cons_append, List.cons.injEq] at hrest
          exact absurd (by rw [hrest.1]; exact List.mem_cons_self) hc
      | cons x mid =>
        rw [List.cons_append, List.cons.injEq] at hrest
        exact .inr ⟨mid, after, by rw [hrest.2, List.append_assoc]⟩
  · rintro (h | h)
    · exact List.infix_append_of_infix_left h
    · exact List.infix_append_of_infix_right (List.infix_cons h)

/-- A carriage return at the end is not part of a pattern. -/
theorem infix_dropCarriageReturn {pat xs : List Char} (hpat : '\r' ∉ pat) :
    pat <:+: dropCarriageReturn xs ↔ pat <:+: xs := by
  unfold dropCarriageReturn
  split_ifs with hend
  · obtain ⟨init, rfl⟩ := List.getLast?_eq_some_iff.mp hend
    rw [List.dropLast_concat, infix_separated hpat]
    refine ⟨Or.inl, fun h => ?_⟩
    rcases h with h | hnil
    · exact h
    · rw [List.infix_nil.mp hnil]
      exact List.nil_infix
  · exact Iff.rfl

theorem dropCarriageReturn_append (xs ys : List Char) {c : Char} (hc : c ≠ '\r') :
    dropCarriageReturn (xs ++ c :: ys) = xs ++ c :: dropCarriageReturn ys := by
  have hlast : (xs ++ c :: ys).getLast? = some (ys.getLast?.getD c) := by
    rw [List.getLast?_append_of_ne_nil _ (List.cons_ne_nil c ys), List.getLast?_cons]
  unfold dropCarriageReturn
  rw [hlast]
  cases hys : ys.getLast? with
  | none =>
    rw [List.getLast?_eq_none_iff] at hys
    simp [hys, hc]
  | some d =>
    obtain ⟨init, rfl⟩ := List.getLast?_eq_some_iff.mp hys
    rw [Option.getD_some]
    split_ifs
    · rw [← List.cons_append, ← List.append_assoc, List.dropLast_concat, List.dropLast_concat]
    · rfl

theorem splitOnce_append {xs ys : List Char} {c : Char} (hc : c ∉ xs) :
    splitOnce (String.ofList (xs ++ c :: ys)) c = some (String.ofList xs, String.ofList ys) := by
  have hall : ∀ x ∈ xs, decide (x ≠ c) = true := by
    intro x hx
    simpa using ne_of_mem_of_not_mem hx hc
  unfold splitOnce
  simp only [String.toList_ofList]
  rw [List.dropWhile_append_of_pos hall, List.takeWhile_append_of_pos hall]
  simp

end CudaTrace.Base
