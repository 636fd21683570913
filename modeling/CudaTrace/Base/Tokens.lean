import CudaTrace.Base.Trim

/-!
# Lists of tokens

A text cut at its separators, each part without the whitespace at its ends.
-/

namespace CudaTrace.Base

variable {p : Char → Bool}

def tokens (p : Char → Bool) (cs : List Char) : List (List Char) := (cs.splitOnP p).map trimmed

theorem solid_trimmed (cs : List Char) : Solid (trimmed cs) := by
  show Solid (trimmedEnd (cs.dropWhile isWhitespace))
  constructor
  · intro c hc
    have hlead : c ∈ (cs.dropWhile isWhitespace).head? := by
      obtain ⟨gap, hgap, -⟩ := exists_trimmedEnd (cs.dropWhile isWhitespace)
      rw [hgap, List.head?_append_of_ne_nil _ (List.ne_nil_of_mem (List.mem_of_head? hc))]
      exact hc
    have hfirst := List.head?_dropWhile_not isWhitespace cs
    rw [Option.mem_def.mp hlead] at hfirst
    exact hfirst
  · intro c hc
    exact trimmedEnd_last hc

theorem solid_of_ends {cs : List Char} (hhead : cs.head?.all (!isWhitespace ·) = true)
    (hlast : cs.getLast?.all (!isWhitespace ·) = true) : Solid cs := by
  constructor
  · intro c hc
    rw [Option.mem_def.mp hc] at hhead
    simpa using hhead
  · intro c hc
    rw [Option.mem_def.mp hc] at hlast
    simpa using hlast

theorem notSep_of_mem_splitOnP {cs part : List Char} (h : part ∈ cs.splitOnP p) :
    ∀ c ∈ part, p c = false := by
  induction cs generalizing part with
  | nil =>
    rw [List.splitOnP_nil, List.mem_singleton] at h
    rw [h]
    exact fun c hc => absurd hc List.not_mem_nil
  | cons x cs ih =>
    rw [List.splitOnP_cons_eq_if_modifyHead] at h
    split_ifs at h with hx
    · rcases List.mem_cons.mp h with rfl | h
      · exact fun c hc => absurd hc List.not_mem_nil
      · exact ih h
    · obtain ⟨first, rest, hparts⟩ := List.exists_cons_of_ne_nil (List.splitOnP_ne_nil p cs)
      rw [hparts, List.modifyHead_cons, List.mem_cons] at h
      rcases h with rfl | h
      · have hfirst := ih (hparts ▸ List.mem_cons_self)
        intro c hc
        rcases List.mem_cons.mp hc with rfl | hc
        · exact Bool.eq_false_iff.mpr hx
        · exact hfirst c hc
      · exact ih (hparts ▸ List.mem_cons_of_mem _ h)

theorem mem_tokens {cs t : List Char} (h : t ∈ tokens p cs) : Solid t ∧ ∀ c ∈ t, p c = false := by
  obtain ⟨part, hpart, rfl⟩ := List.mem_map.mp h
  exact ⟨solid_trimmed part, fun c hc => notSep_of_mem_splitOnP hpart c ((trimmed_sublist part).subset hc)⟩

theorem tokens_append (xs ys : List Char) {sep : Char} (hsep : p sep = true) :
    tokens p (xs ++ sep :: ys) = tokens p xs ++ tokens p ys := by
  rw [tokens, List.splitOnP_append_cons xs ys hsep, List.map_append]
  rfl

theorem tokens_single {cs : List Char} (h : ∀ c ∈ cs, p c = false) : tokens p cs = [trimmed cs] := by
  rw [tokens, List.splitOnP_eq_singleton h]
  rfl

/-- Solid parts that hold no separator are read back from their joined text. -/
theorem tokens_intercalate {sep : Char} (hsep : p sep = true) {ts : List (List Char)} (hne : ts ≠ [])
    (h : ∀ t ∈ ts, Solid t ∧ ∀ c ∈ t, p c = false) : tokens p ([sep].intercalate ts) = ts := by
  induction ts with
  | nil => exact absurd rfl hne
  | cons t ts ih =>
    obtain ⟨hsolid, ht⟩ := h t List.mem_cons_self
    cases ts with
    | nil =>
      rw [List.intercalate_singleton, tokens_single ht, trimmed_solid hsolid]
    | cons u us =>
      rw [List.intercalate_cons_cons, List.append_assoc, List.singleton_append, tokens_append _ _ hsep,
        tokens_single ht, trimmed_solid hsolid,
        ih (List.cons_ne_nil _ _) fun v hv => h v (List.mem_cons_of_mem _ hv)]
      rfl

end CudaTrace.Base
