import CudaTrace.Build.Prototypes

/-!
# What becomes of a parameter

The piece between two commas loses its default macro, what follows the first equality sign and
its superfluous spaces. Its name is the word at its end, where it ends in one.
-/

namespace CudaTrace.Build
open CudaTrace.Base

/-! ### The default macro -/

/-- Every parenthesis has its partner. -/
inductive Balanced : Text → Prop where
  | nil : Balanced []
  | char {c : Char} {cs : Text} (opening : c ≠ '(') (closing : c ≠ ')') (rest : Balanced cs) :
      Balanced (c :: cs)
  | nest {inner rest : Text} (inside : Balanced inner) (outside : Balanced rest) :
      Balanced ('(' :: (inner ++ ')' :: rest))

theorem closeParens_balanced {b : Text} (h : Balanced b) (depth : ℕ) (hdepth : 0 < depth)
    (rest : Text) : closeParens depth (b ++ rest) = closeParens depth rest := by
  induction h generalizing depth rest with
  | nil => rfl
  | char opening closing _ ih =>
    rw [List.cons_append, closeParens, if_neg opening, if_neg closing, ih depth hdepth]
  | nest _ _ ihinside ihoutside =>
    rw [List.cons_append, List.append_assoc, List.cons_append, closeParens, if_pos rfl,
      ihinside (depth + 1) (by omega), closeParens, if_neg (by decide), if_pos rfl,
      if_neg (by omega), Nat.add_sub_cancel, ihoutside depth hdepth]

theorem closeParens_suffix {depth : ℕ} {s rest : Text}
    (h : closeParens depth s = some rest) : rest <:+ s := by
  induction s generalizing depth with
  | nil => cases h
  | cons c s ih =>
    rw [closeParens] at h
    split_ifs at h
    · exact (ih h).trans (List.suffix_cons c s)
    · rw [← Option.some.inj h]
      exact List.suffix_cons c s
    · exact (ih h).trans (List.suffix_cons c s)
    · exact (ih h).trans (List.suffix_cons c s)

theorem removeInvocations_succ (needle : Text) (fuel : ℕ) (s : Text) :
    removeInvocations needle (fuel + 1) s =
      match splitAtText needle s with
      | none => s
      | some (before, arguments) =>
        match closeParens 1 arguments with
        | none => s
        | some after => removeInvocations needle fuel (before ++ after) :=
  rfl

theorem removeInvocations_closed {needle s before arguments after : Text}
    (hsplit : splitAtText needle s = some (before, arguments))
    (hclose : closeParens 1 arguments = some after) (fuel : ℕ) :
    removeInvocations needle (fuel + 1) s = removeInvocations needle fuel (before ++ after) := by
  simp only [removeInvocations_succ, hsplit, hclose]

theorem removeInvocations_unclosed {needle s before arguments : Text}
    (hsplit : splitAtText needle s = some (before, arguments))
    (hclose : closeParens 1 arguments = none) (fuel : ℕ) :
    removeInvocations needle (fuel + 1) s = s := by
  simp only [removeInvocations_succ, hsplit, hclose]

theorem removeInvocations_absent {needle s : Text} (hsplit : splitAtText needle s = none)
    (fuel : ℕ) : removeInvocations needle fuel s = s := by
  cases fuel with
  | zero => rfl
  | succ fuel => rw [removeInvocations_succ, hsplit]

theorem removeInvocations_sublist (needle : Text) (fuel : ℕ) (s : Text) :
    (removeInvocations needle fuel s).Sublist s := by
  induction fuel generalizing s with
  | zero => exact List.Sublist.refl s
  | succ fuel ih =>
    cases hsplit : splitAtText needle s with
    | none =>
      rw [removeInvocations_absent hsplit]
    | some parts =>
      obtain ⟨before, arguments⟩ := parts
      cases hclose : closeParens 1 arguments with
      | none => rw [removeInvocations_unclosed hsplit hclose]
      | some after =>
        have hs := splitAtText_some hsplit
        have hafter : after.Sublist (needle ++ arguments) :=
          (closeParens_suffix hclose).sublist.trans (List.sublist_append_right _ _)
        have hless : (before ++ after).Sublist s := by
          rw [hs, List.append_assoc]
          exact hafter.append_left before
        rw [removeInvocations_closed hsplit hclose]
        exact (ih (before ++ after)).trans hless

/-- The turns are enough: no closed invocation is left at the end. -/
theorem removeInvocations_done {needle : Text} (hne : needle ≠ []) (fuel : ℕ) (s : Text)
    (hfuel : s.length ≤ fuel) (before arguments : Text)
    (h : splitAtText needle (removeInvocations needle fuel s) = some (before, arguments)) :
    closeParens 1 arguments = none := by
  induction fuel generalizing s with
  | zero =>
    have hs : s = [] := List.length_eq_zero_iff.mp (by omega)
    have hnone : splitAtText needle [] = none := if_neg (by simpa using hne)
    rw [hs] at h
    cases hnone.symm.trans h
  | succ fuel ih =>
    cases hsplit : splitAtText needle s with
    | none =>
      rw [removeInvocations_absent hsplit, hsplit] at h
      cases h
    | some parts =>
      obtain ⟨b, a⟩ := parts
      cases hclose : closeParens 1 a with
      | none =>
        rw [removeInvocations_unclosed hsplit hclose, hsplit] at h
        cases h
        exact hclose
      | some after =>
        have hlength : (b ++ after).length ≤ fuel := by
          have hs := congrArg List.length (splitAtText_some hsplit)
          have hafter := (closeParens_suffix hclose).length_le
          have hneedle := List.length_pos_of_ne_nil hne
          simp only [List.length_append] at hs ⊢
          omega
        rw [removeInvocations_closed hsplit hclose] at h
        exact ih (b ++ after) hlength h

def invocation : Text := macroName ++ ['(']

theorem removeMacro_absent {s : Text} (h : ¬invocation <:+: s) :
    removeMacroInvocation s macroName = s :=
  removeInvocations_absent (splitAtText_none (by decide) h) _

theorem not_infix_append_blank {s gap : Text} (h : ¬invocation <:+: s)
    (hgap : ∀ c ∈ gap, isWhitespace c = true) : ¬invocation <:+: s ++ gap := by
  have hsolid : ∀ c ∈ invocation, isWhitespace c = false := by decide
  cases gap with
  | nil => rwa [List.append_nil]
  | cons c gap =>
    have hc : c ∉ invocation := by
      intro hmem
      have hblank := hgap c List.mem_cons_self
      rw [hsolid c hmem] at hblank
      cases hblank
    intro hpattern
    rcases (infix_separated hc).mp hpattern with hs | hrest
    · exact h hs
    · have hfirst : '_' ∈ gap := hrest.subset (by decide)
      have hblank := hgap '_' (List.mem_cons_of_mem _ hfirst)
      revert hblank
      decide

/-- A default behind the declaration is removed with its parentheses. -/
theorem removeMacro_default {s argument : Text} (h : ¬invocation <:+: s)
    (hargument : Balanced argument) :
    removeMacroInvocation (s ++ (invocation ++ argument ++ [')'])) macroName = s := by
  have hsplit : splitAtText invocation (s ++ (invocation ++ argument ++ [')'])) =
      some (s, argument ++ [')']) := by
    have hfirst := @splitAtText_first macroName '(' (by decide) s (argument ++ [')']) h
    simpa [invocation] using hfirst
  have hclose : closeParens 1 (argument ++ [')']) = some [] := by
    rw [closeParens_balanced hargument 1 (by omega)]
    rfl
  have hlength : (s ++ (invocation ++ argument ++ [')'])).length =
      (s.length + argument.length + 5) + 1 := by
    simp [invocation, macroName]
    omega
  unfold removeMacroInvocation
  rw [hlength, show macroName ++ ['('] = invocation from rfl,
    removeInvocations_closed hsplit hclose, List.append_nil,
    removeInvocations_absent (splitAtText_none (by decide) h)]

theorem invocation_behind_equals {s value before arguments : Text} (h : ¬invocation <:+: s)
    (hparts : s ++ '=' :: value = before ++ invocation ++ arguments) :
    ∃ value', before = s ++ '=' :: value' := by
  rw [List.append_assoc] at hparts
  rcases List.append_eq_append_iff.mp hparts with ⟨mid, hbefore, hrest⟩ | ⟨mid, hs, hrest⟩
  · cases mid with
    | nil =>
      have hfirst : some '=' = some '_' := congrArg List.head? hrest
      exact absurd (Option.some.inj hfirst) (by decide)
    | cons c mid =>
      rw [List.cons_append, List.cons.injEq] at hrest
      exact ⟨mid, by rw [hbefore, hrest.1]⟩
  · exfalso
    rcases List.append_eq_append_iff.mp hrest with ⟨tail, hmid, _⟩ | ⟨tail, hneedle, hvalue⟩
    · exact h ⟨before, tail, by rw [hs, hmid, List.append_assoc]⟩
    · cases tail with
      | nil => exact h ⟨before, [], by rw [hs, hneedle]; simp⟩
      | cons c tail =>
        rw [List.cons_append, List.cons.injEq] at hvalue
        have hmem : '=' ∈ invocation := by
          rw [hneedle, hvalue.1]
          simp
        revert hmem
        decide

/-- Removing macros leaves what stands before an equality sign, where that has none. -/
theorem removeMacro_equals {s : Text} (h : ¬invocation <:+: s) (value : Text) :
    ∃ value', removeMacroInvocation (s ++ '=' :: value) macroName = s ++ '=' :: value' := by
  unfold removeMacroInvocation
  show ∃ value', removeInvocations invocation _ _ = _
  generalize (s ++ '=' :: value).length = fuel
  induction fuel generalizing value with
  | zero => exact ⟨value, rfl⟩
  | succ fuel ih =>
    cases hsplit : splitAtText invocation (s ++ '=' :: value) with
    | none => exact ⟨value, removeInvocations_absent hsplit _⟩
    | some parts =>
      obtain ⟨before, arguments⟩ := parts
      cases hclose : closeParens 1 arguments with
      | none => exact ⟨value, removeInvocations_unclosed hsplit hclose fuel⟩
      | some after =>
        have hparts := splitAtText_some hsplit
        obtain ⟨value', rfl⟩ := invocation_behind_equals h hparts
        obtain ⟨rest, hrest⟩ := ih (value' ++ after)
        refine ⟨rest, ?_⟩
        rw [removeInvocations_closed hsplit hclose, List.append_assoc, List.cons_append]
        exact hrest

/-! ### Defaults -/

def Blank (gap : Text) : Prop := ∀ c ∈ gap, isWhitespace c = true

/-- What may follow a declaration: its default, as a macro or with an equality sign. -/
inductive Default where
  | none
  | dv (gap argument : Text) (blank : Blank gap) (single : ',' ∉ argument)
      (balanced : Balanced argument)
  | equals (gap value : Text) (blank : Blank gap) (single : ',' ∉ value)

def Default.text : Default → Text
  | none => []
  | dv gap argument _ _ _ => gap ++ (invocation ++ argument ++ [')'])
  | equals gap value _ _ => gap ++ '=' :: value

variable {A trail : Text} {c : Char}

/-- Without the macro, what follows a declaration is blank or starts with an equality sign. -/
theorem removeMacro_piece (habsent : ¬invocation <:+: A ++ [c]) (d : Default) (htrail : Blank trail) :
    ∃ rest, removeMacroInvocation (A ++ c :: trimmedEnd (d.text ++ trail)) macroName =
        A ++ c :: rest ∧
      ∃ gap, Blank gap ∧ (rest = gap ∨ ∃ value, rest = gap ++ '=' :: value) := by
  rw [trimmedEnd_append_blank _ htrail]
  cases d with
  | none =>
    exact ⟨[], removeMacro_absent habsent, [], by simp [Blank], .inl rfl⟩
  | dv gap argument blank single balanced =>
    have htext : Default.text (.dv gap argument blank single balanced) =
        (gap ++ (invocation ++ argument)) ++ [')'] := by
      simp [Default.text]
    have hsolid : trimmedEnd (Default.text (.dv gap argument blank single balanced)) =
        gap ++ (invocation ++ argument ++ [')']) := by
      rw [htext, trimmedEnd_append _ _ (by decide)]
      simp [trimmedEnd]
    have hremoved := removeMacro_default (not_infix_append_blank habsent blank) balanced
    refine ⟨gap, ?_, gap, blank, .inl rfl⟩
    rw [hsolid]
    simpa using hremoved
  | equals gap value blank single =>
    have hequals := removeMacro_equals (not_infix_append_blank habsent blank) (trimmedEnd value)
    obtain ⟨value', hvalue'⟩ := hequals
    refine ⟨gap ++ '=' :: value', ?_, gap, blank, .inr ⟨value', rfl⟩⟩
    rw [Default.text, trimmedEnd_append _ _ (by decide)]
    simpa using hvalue'

theorem takeWhile_of_mem {xs : Text} (h : '=' ∈ xs) (ys : Text) :
    (xs ++ ys).takeWhile (· ≠ '=') = xs.takeWhile (· ≠ '=') := by
  induction xs with
  | nil => cases h
  | cons x xs ih =>
    rw [List.cons_append, List.takeWhile_cons, List.takeWhile_cons]
    split_ifs with hx
    · have hmem : '=' ∈ xs := by
        rcases List.mem_cons.mp h with he | hxs
        · exact absurd he.symm (of_decide_eq_true hx)
        · exact hxs
      rw [ih hmem]
    · rfl

/-- An equality sign inside the declaration cuts it; otherwise the declaration is left. -/
theorem withoutDefault_piece (habsent : ¬invocation <:+: A ++ [c]) (d : Default)
    (htrail : Blank trail) (hc : c ≠ '=') :
    ('=' ∉ A → collapsed (withoutDefault (A ++ c :: trimmedEnd (d.text ++ trail))) =
      collapsed (A ++ [c])) ∧
    ('=' ∈ A → withoutDefault (A ++ c :: trimmedEnd (d.text ++ trail)) =
      trimmed (A.takeWhile (· ≠ '='))) := by
  obtain ⟨rest, hremoved, gap, hgap, hrest⟩ := removeMacro_piece habsent d htrail
  have hblank : '=' ∉ gap := by
    intro hmem
    have hspace := hgap '=' hmem
    revert hspace
    decide
  unfold withoutDefault
  rw [hremoved]
  simp only
  constructor
  · intro hA
    have hplain : ∀ x ∈ A ++ c :: gap, decide (x ≠ '=') = true := by
      intro x hx
      apply decide_eq_true
      intro he
      rw [he] at hx
      simp only [List.mem_append, List.mem_cons] at hx
      rcases hx with hx | hx | hx
      · exact hA hx
      · exact hc hx.symm
      · exact hblank hx
    have hdeclared : collapsed (A ++ c :: gap) = collapsed (A ++ [c]) := by
      have hshift : A ++ c :: gap = (A ++ [c]) ++ gap := by simp
      rw [hshift, collapsed_append_blank _ hgap]
    rcases hrest with rfl | ⟨value, rfl⟩
    · rw [if_neg]
      · exact hdeclared
      · intro hmem
        exact of_decide_eq_true (hplain '=' hmem) rfl
    · have hshift : A ++ c :: (gap ++ '=' :: value) = (A ++ c :: gap) ++ '=' :: value := by simp
      have hcut : (A ++ c :: (gap ++ '=' :: value)).takeWhile (· ≠ '=') = A ++ c :: gap := by
        rw [hshift, List.takeWhile_append_of_pos hplain]
        simp
      rw [if_pos (by simp), hcut, collapsed_trimmed]
      exact hdeclared
  · intro hA
    rw [if_pos (List.mem_append_left _ hA), takeWhile_of_mem hA]

/-! ### Pieces -/

def isCloser (c : Char) : Bool := c = ')' || c = ']'

theorem isCloser_blank (c : Char) (h : isWhitespace c = true) : isCloser c = false := by
  have hclosers : ∀ c ∈ [')', ']'], isWhitespace c = false := by decide
  by_contra hcloser
  simp only [isCloser, Bool.or_eq_false_iff, decide_eq_false_iff_not, not_and_or, not_not] at hcloser
  rw [hclosers c (by simpa using hcloser)] at h
  cases h

theorem withoutDefault_sublist (p : Text) : (withoutDefault p).Sublist p := by
  have hremoved := removeInvocations_sublist invocation p.length p
  unfold withoutDefault
  simp only
  split_ifs
  · exact ((trimmed_sublist _).trans (List.takeWhile_sublist _)).trans hremoved
  · exact hremoved

theorem sanitizeParam_some {raw q : Text} (h : sanitizeParam raw = some q) :
    q = collapsed (withoutDefault (trimmed raw)) ∧ q ≠ [] ∧ q ≠ voidText := by
  unfold sanitizeParam collapseSpaces at h
  simp only at h
  split_ifs at h with _ hvoid
  cases h
  exact ⟨rfl, not_or.mp hvoid⟩

theorem notMem_sanitizeParam {raw q : Text} (h : sanitizeParam raw = some q) {x : Char}
    (hx : x ∉ raw) (hspace : x ≠ ' ') : x ∉ q := by
  rw [(sanitizeParam_some h).1]
  intro hmem
  rcases mem_collapsed hmem with he | hmem
  · exact hspace he
  · exact hx (((withoutDefault_sublist _).trans (trimmed_sublist raw)).subset hmem)

/-! ### What stands before an equality sign -/

/-- What is left of a piece that has no default macro. -/
def beforeEquals (piece : Text) : Text := collapsed (piece.takeWhile (· ≠ '='))

/-- The parameter that a piece without default macro becomes. -/
def kept (piece : Text) : Option Text :=
  if beforeEquals piece = [] ∨ beforeEquals piece = voidText then none else some (beforeEquals piece)

theorem kept_some {piece q : Text} (h : kept piece = some q) :
    q = beforeEquals piece ∧ q ≠ [] ∧ q ≠ voidText := by
  unfold kept at h
  split_ifs at h with hvoid
  cases h
  exact ⟨rfl, not_or.mp hvoid⟩

theorem kept_congr {piece piece' : Text} (h : beforeEquals piece = beforeEquals piece') :
    kept piece = kept piece' := by
  unfold kept
  rw [h]

theorem takeWhile_notMem {xs : Text} (h : '=' ∉ xs) : xs.takeWhile (· ≠ '=') = xs := by
  have hplain : ∀ x ∈ xs, decide (x ≠ '=') = true := by
    intro x hx
    exact decide_eq_true (ne_of_mem_of_not_mem hx h)
  have hall := @List.takeWhile_append_of_pos _ (fun x => decide (x ≠ '=')) xs [] hplain
  simpa using hall

theorem beforeEquals_notMem {xs : Text} (h : '=' ∉ xs) : beforeEquals xs = collapsed xs := by
  rw [beforeEquals, takeWhile_notMem h]

theorem beforeEquals_append {xs : Text} (h : '=' ∈ xs) (ys : Text) :
    beforeEquals (xs ++ ys) = beforeEquals xs := by
  rw [beforeEquals, takeWhile_of_mem h, beforeEquals]

theorem Blank.notMem {gap : Text} (h : Blank gap) : '=' ∉ gap := by
  intro hmem
  exact absurd (h '=' hmem) (by decide)

theorem collapsed_blank_append {lead : Text} (h : Blank lead) (s : Text) :
    collapsed (lead ++ s) = collapsed s := by
  rw [collapsed, wordsAux_blank_append h, collapsed]

theorem beforeEquals_blank_append {lead : Text} (h : Blank lead) (xs : Text) :
    beforeEquals (lead ++ xs) = beforeEquals xs := by
  have hplain : ∀ x ∈ lead, decide (x ≠ '=') = true := by
    intro x hx
    exact decide_eq_true (ne_of_mem_of_not_mem hx h.notMem)
  rw [beforeEquals, List.takeWhile_append_of_pos hplain, collapsed_blank_append h, beforeEquals]

theorem beforeEquals_append_blank {gap : Text} (h : Blank gap) (xs : Text) :
    beforeEquals (xs ++ gap) = beforeEquals xs := by
  by_cases hxs : '=' ∈ xs
  · exact beforeEquals_append hxs gap
  · have hboth : '=' ∉ xs ++ gap := by
      intro hmem
      rcases List.mem_append.mp hmem with hmem | hmem
      · exact hxs hmem
      · exact h.notMem hmem
    rw [beforeEquals_notMem hboth, beforeEquals_notMem hxs, collapsed_append_blank _ h]

theorem beforeEquals_trimmed (xs : Text) : beforeEquals (trimmed xs) = beforeEquals xs := by
  obtain ⟨front, back, hxs, hfront, hback⟩ := exists_trimmed xs
  conv => rhs; rw [hxs]
  rw [beforeEquals_append_blank hback, beforeEquals_blank_append hfront]

theorem beforeEquals_dropWhile (xs ys : Text) :
    beforeEquals (xs.dropWhile isWhitespace ++ ys) = beforeEquals (xs ++ ys) := by
  have hblank : Blank (xs.takeWhile isWhitespace) :=
    fun c hc => List.all_eq_true.mp List.all_takeWhile c hc
  conv => rhs; rw [← List.takeWhile_append_dropWhile (p := isWhitespace) (l := xs)]
  rw [List.append_assoc, beforeEquals_blank_append hblank]

theorem countP_beforeEquals (piece : Text) :
    (beforeEquals piece).countP isCloser ≤ piece.countP isCloser := by
  rw [beforeEquals, countP_collapsed isCloser isCloser_blank]
  exact (List.takeWhile_sublist _).countP_le

/-- A piece without default macro. -/
theorem sanitizeParam_absent {raw : Text} (h : ¬invocation <:+: raw) :
    sanitizeParam raw = kept raw := by
  have habsent : ¬invocation <:+: trimmed raw := by
    obtain ⟨front, back, hraw, _⟩ := exists_trimmed raw
    intro hpattern
    rw [hraw] at h
    exact h (hpattern.trans ⟨front, back, rfl⟩)
  have hleft : collapsed (withoutDefault (trimmed raw)) = beforeEquals raw := by
    unfold withoutDefault
    rw [removeMacro_absent habsent, ← beforeEquals_trimmed raw]
    simp only
    split_ifs with hequals
    · rw [collapsed_trimmed, beforeEquals]
    · rw [beforeEquals_notMem hequals]
  unfold sanitizeParam kept collapseSpaces
  simp only [hleft]
  split_ifs with hbare hvoid hvoid
  · rfl
  · -- nothing or the word void is left as it is
    exfalso
    apply hvoid
    rw [← beforeEquals_trimmed]
    rcases hbare with hbare | hbare
    · rw [hbare]
      exact .inl rfl
    · rw [hbare]
      exact .inr (by decide)
  · rfl
  · rfl

/-- What follows a declaration is blank, or has a sign that the word void has not. -/
theorem default_blank_or_sign (d : Default) (htrail : Blank trail) :
    trimmedEnd (d.text ++ trail) = [] ∨ ∃ x ∈ trimmedEnd (d.text ++ trail), x ∉ voidText := by
  rw [trimmedEnd_append_blank _ htrail]
  cases d with
  | none => exact .inl rfl
  | dv gap argument blank single balanced =>
    have hsign : trimmedEnd (gap ++ (invocation ++ argument ++ [')'])) =
        gap ++ '_' :: trimmedEnd (invocation.tail ++ argument ++ [')']) :=
      trimmedEnd_append gap _ (by decide)
    refine .inr ⟨'_', ?_, by decide⟩
    rw [Default.text, hsign]
    simp
  | equals gap value blank single =>
    refine .inr ⟨'=', ?_, by decide⟩
    rw [Default.text, trimmedEnd_append _ _ (by decide)]
    simp

/-- A piece with its default: only an equality sign inside the declaration cuts that. -/
theorem sanitizeParam_declaration {L : Text} (d : Default) (hsolid : isWhitespace c = false)
    (hc : c ≠ '=') (habsent : ¬invocation <:+: L ++ [c]) (htrail : Blank trail) :
    sanitizeParam (L ++ c :: (d.text ++ trail)) = kept (L ++ [c]) := by
  have hshort : (L.dropWhile isWhitespace ++ [c]) <:+ L ++ [c] :=
    ⟨L.takeWhile isWhitespace, by rw [← List.append_assoc, List.takeWhile_append_dropWhile]⟩
  have habsent' : ¬invocation <:+: L.dropWhile isWhitespace ++ [c] :=
    fun h => habsent (h.trans hshort.isInfix)
  have htrimmed : trimmed (L ++ c :: (d.text ++ trail)) =
      L.dropWhile isWhitespace ++ c :: trimmedEnd (d.text ++ trail) := trimmed_append_cons _ _ hsolid
  have hleft : collapsed (withoutDefault (trimmed (L ++ c :: (d.text ++ trail)))) =
      beforeEquals (L ++ [c]) := by
    obtain ⟨hwhole, hcut⟩ := withoutDefault_piece habsent' d htrail hc
    rw [htrimmed, ← beforeEquals_dropWhile]
    by_cases hequals : '=' ∈ L.dropWhile isWhitespace
    · rw [hcut hequals, collapsed_trimmed, beforeEquals_append hequals, beforeEquals]
    · have hboth : '=' ∉ L.dropWhile isWhitespace ++ [c] := by
        intro hmem
        rcases List.mem_append.mp hmem with hmem | hmem
        · exact hequals hmem
        · exact hc (List.mem_singleton.mp hmem).symm
      rw [hwhole hequals, beforeEquals_notMem hboth]
  unfold sanitizeParam kept collapseSpaces
  simp only [hleft]
  split_ifs with hbare hvoid hvoid
  · rfl
  · -- the piece is the word void, which has no default
    exfalso
    apply hvoid
    rw [htrimmed] at hbare
    rcases hbare with hbare | hbare
    · exact absurd hbare (by simp)
    · rcases default_blank_or_sign d htrail with hnil | ⟨x, hx, hsign⟩
      · rw [hnil] at hbare
        rw [← beforeEquals_dropWhile, hbare]
        exact .inr (by decide)
      · exact absurd (by rw [← hbare]; simp [hx]) hsign
  · rfl
  · rfl

/-! ### Names -/

theorem isWordChar_graphic {c : Char} (h : isWordChar c = true) : isWhitespace c = false := by
  unfold isWordChar at h
  rw [Bool.or_eq_true, decide_eq_true_eq] at h
  rcases h with h | rfl
  · exact isWhitespace_graphic (isAlphanum_graphic h).1 (isAlphanum_graphic h).2
  · decide

theorem isAsciiWhitespace_solid {c : Char} (h : isWhitespace c = false) :
    isAsciiWhitespace c = false := by
  have hblank : ∀ c ∈ [' ', '\t', '\n', '\x0c', '\r'], isWhitespace c = true := by decide
  unfold isAsciiWhitespace
  rw [decide_eq_false_iff_not]
  intro hmem
  rw [hblank c hmem] at h
  cases h

/-- Nothing is skipped at the end of a text that ends with a letter or sign. -/
theorem dropWhile_reverse {q : Text} (h : Solid q) :
    q.reverse.dropWhile isAsciiWhitespace = q.reverse := by
  cases hq : q.reverse with
  | nil => rfl
  | cons c cs =>
    have hlast : c ∈ q.getLast? := by
      rw [← List.head?_reverse, hq]
      rfl
    rw [List.dropWhile_cons, isAsciiWhitespace_solid (h.2 c hlast)]
    rfl

theorem extractParamName_solid {q : Text} (h : Solid q) :
    extractParamName q =
      if q.reverse.takeWhile isWordChar = [] then none
      else some (q.reverse.takeWhile isWordChar).reverse := by
  unfold extractParamName
  rw [dropWhile_reverse h]

/-- The word at the end. -/
theorem extractParamName_word (u : Text) {x : Char} {name : Text} (hx : isWordChar x = false)
    (hname : ∀ c ∈ name, isWordChar c = true) (hne : name ≠ []) (h : Solid (u ++ x :: name)) :
    extractParamName (u ++ x :: name) = some name := by
  have htake : (u ++ x :: name).reverse.takeWhile isWordChar = name.reverse := by
    have hrev : (u ++ x :: name).reverse = name.reverse ++ x :: u.reverse := by simp
    have hall : ∀ c ∈ name.reverse, isWordChar c = true :=
      fun c hc => hname c (List.mem_reverse.mp hc)
    rw [hrev, List.takeWhile_append_of_pos hall, List.takeWhile_cons, hx]
    simp
  rw [extractParamName_solid h, htake, if_neg (by simpa using hne), List.reverse_reverse]

theorem extractParamName_concat (u : Text) {x : Char} (hx : isWordChar x = false)
    (h : Solid (u ++ [x])) : extractParamName (u ++ [x]) = none := by
  rw [extractParamName_solid h, List.reverse_append, List.reverse_singleton, List.singleton_append,
    List.takeWhile_cons, hx]
  rfl

/-! ### Lists -/

def pieces (params : Text) : List Text := (params.splitOn ',').filterMap sanitizeParam

theorem notMem_splitOn {xs piece : Text} (h : piece ∈ xs.splitOn ',') : ',' ∉ piece := by
  induction xs generalizing piece with
  | nil =>
    rw [List.splitOn_nil, List.mem_singleton] at h
    rw [h]
    exact List.not_mem_nil
  | cons x xs ih =>
    rw [List.splitOn_cons_eq_if_modifyHead] at h
    split_ifs at h with hx
    · rcases List.mem_cons.mp h with rfl | h
      · exact List.not_mem_nil
      · exact ih h
    · cases hpieces : xs.splitOn ',' with
      | nil => exact absurd hpieces (List.splitOn_ne_nil _ _)
      | cons first rest =>
        rw [hpieces, List.modifyHead_cons, List.mem_cons] at h
        rcases h with rfl | h
        · have hfirst := ih (hpieces ▸ List.mem_cons_self)
          intro hmem
          rcases List.mem_cons.mp hmem with he | hmem
          · exact hx (beq_iff_eq.mpr he.symm)
          · exact hfirst hmem
        · exact ih (hpieces ▸ List.mem_cons_of_mem _ h)

theorem splitOn_bare {s : Text} (h : trimmed s = [] ∨ trimmed s = voidText) :
    s.splitOn ',' = [s] := by
  obtain ⟨xs, ys, hs, hxs, hys⟩ := exists_trimmed s
  apply List.splitOn_eq_singleton
  have hcomma : isWhitespace ',' = false := by decide
  have hmiddle : ',' ∉ trimmed s := by
    rcases h with h | h
    · rw [h]
      exact List.not_mem_nil
    · rw [h]
      decide
  rw [hs]
  intro hmem
  rcases List.mem_append.mp hmem with hmem | hmem
  · rcases List.mem_append.mp hmem with hmem | hmem
    · rw [hxs ',' hmem] at hcomma
      cases hcomma
    · exact hmiddle hmem
  · rw [hys ',' hmem] at hcomma
    cases hcomma

/-- The lists without parameters need no case of their own. -/
theorem sanitizeParams_eq (params : Text) :
    sanitizeParams params = [',', ' '].intercalate (pieces params) := by
  unfold sanitizeParams
  split_ifs with h
  · have hnone : sanitizeParam params = none := if_pos h
    rw [pieces, splitOn_bare h, List.filterMap_cons_none hnone]
    rfl
  · rfl

theorem parseParamNames_eq (params : Text) :
    parseParamNames params = ((params.splitOn ',').filterMap paramOf).mapM extractParamName := by
  unfold parseParamNames
  split_ifs with h
  · have hnone : paramOf params = none := if_pos h
    rw [splitOn_bare h, List.filterMap_cons_none hnone]
    rfl
  · rfl

theorem paramOf_space (piece : Text) : paramOf (' ' :: piece) = paramOf piece := rfl

/-- Joined pieces are read back. -/
theorem paramOf_joined {qs : List Text}
    (h : ∀ q ∈ qs, Solid q ∧ q ≠ [] ∧ q ≠ voidText ∧ ',' ∉ q) :
    (([',', ' '].intercalate qs).splitOn ',').filterMap paramOf = qs := by
  induction qs with
  | nil => rfl
  | cons q qs ih =>
    obtain ⟨hsolid, hne, hvoid, hcomma⟩ := h q List.mem_cons_self
    have hq : paramOf q = some q := by
      unfold paramOf
      simp only [trimmed_solid hsolid]
      exact if_neg (not_or.mpr ⟨hne, hvoid⟩)
    have hrest := ih fun x hx => h x (List.mem_cons_of_mem _ hx)
    cases qs with
    | nil => rw [List.intercalate_singleton, List.splitOn_eq_singleton hcomma,
        List.filterMap_cons_some hq, List.filterMap_nil]
    | cons q' qs =>
      have hshift : [',', ' '].intercalate (q :: q' :: qs) =
          q ++ ',' :: (' ' :: [',', ' '].intercalate (q' :: qs)) := by
        rw [List.intercalate_cons_cons, List.append_assoc]
        rfl
      have hspace : ((' ' :: [',', ' '].intercalate (q' :: qs)).splitOn ',').filterMap paramOf =
          (([',', ' '].intercalate (q' :: qs)).splitOn ',').filterMap paramOf := by
        rw [List.splitOn_cons_eq_if_modifyHead, if_neg (by decide)]
        cases hpieces : ([',', ' '].intercalate (q' :: qs)).splitOn ',' with
        | nil => rfl
        | cons first rest =>
          rw [List.modifyHead_cons, List.filterMap_cons, List.filterMap_cons, paramOf_space]
      rw [hshift, List.splitOn_append_cons_self_of_not_mem hcomma, List.filterMap_cons_some hq,
        hspace, hrest]

theorem pieces_solid {params q : Text} (h : q ∈ pieces params) :
    Solid q ∧ q ≠ [] ∧ q ≠ voidText ∧ ',' ∉ q := by
  obtain ⟨raw, hraw, hq⟩ := List.mem_filterMap.mp h
  obtain ⟨he, hne, hvoid⟩ := sanitizeParam_some hq
  have hsolid : Solid q := by
    rw [he]
    exact solid_collapsed _
  exact ⟨hsolid, hne, hvoid, notMem_sanitizeParam hq (notMem_splitOn hraw) (by decide)⟩

/-- What is parsed are the pieces that were left. -/
theorem parse_sanitizeParams (params : Text) :
    parseParamNames (sanitizeParams params) = (pieces params).mapM extractParamName := by
  rw [sanitizeParams_eq, parseParamNames_eq, paramOf_joined fun q hq => pieces_solid hq]

end CudaTrace.Build
