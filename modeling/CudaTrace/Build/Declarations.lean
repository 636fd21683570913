import CudaTrace.Build.Parameters

/-!
# Declared parameters

A parameter that ends with its name is a simple or a pointer declarator; an array and a pointer
to a function end with a bracket. What the pieces of each become.
-/

namespace CudaTrace.Build
open CudaTrace.Base

inductive Param where
  /-- A type, perhaps with stars, and the name. -/
  | plain (type : Text) (joint : Char) (name : Text) (default : Default)
      (typed : ∃ c ∈ type, isWordChar c = true)
      (simple : ∀ c ∈ type, isWordChar c = true ∨ isWhitespace c = true ∨ c = '*')
      (joined : isWhitespace joint = true ∨ joint = '*')
      (named : name ≠ []) (word : ∀ c ∈ name, isWordChar c = true)
  /-- An array, or a pointer to a function. -/
  | bracketed (before name after : Text) (close : Char) (default : Default)
      (closing : isCloser close = true)
      (absent : ¬invocation <:+: before ++ name ++ after ++ [close])

namespace Param

def declaration : Param → Text
  | plain type joint name _ _ _ _ _ _ => type ++ joint :: name
  | bracketed before name after close _ _ _ => before ++ name ++ after ++ [close]

def name : Param → Text
  | plain _ _ name _ _ _ _ _ _ => name
  | bracketed _ name _ _ _ _ _ => name

def default : Param → Default
  | plain _ _ _ default _ _ _ _ _ => default
  | bracketed _ _ _ _ default _ _ => default

def IsPlain : Param → Prop
  | plain .. => True
  | bracketed .. => False

end Param

/-- A parameter with the blanks around it. -/
structure Slot where
  lead : Text
  param : Param
  trail : Text
  blankLead : Blank lead
  blankTrail : Blank trail

def Slot.text (s : Slot) : Text := s.lead ++ s.param.declaration ++ (s.param.default.text ++ s.trail)

/-- The piece does not end with a word, so that no name is found at its end. -/
def Wordless (piece : Text) : Prop := ∃ c ∈ piece.getLast?, isWordChar c = false

/-- What stands before the first equality sign of a part of a declaration ends with neither a
word nor a blank that follows a word. -/
def Nameless (part : Text) : Prop :=
  ∃ c ∈ (trimmedEnd (part.takeWhile (· ≠ '='))).getLast?, isWordChar c = false

/-! ### Blanks and words -/

theorem wordChar_notMem {c : Char} (h : isWordChar c = true) :
    c ∉ ['(', ')', '[', ']', '=', ',', '*', ' '] := by
  have hother : ∀ c ∈ ['(', ')', '[', ']', '=', ',', '*', ' '], isWordChar c = false := by decide
  intro hmem
  rw [hother c hmem] at h
  cases h

theorem blank_notMem {c : Char} (h : isWhitespace c = true) :
    c ∉ ['(', ')', '[', ']', '=', ',', '*', '_'] := by
  have hother : ∀ c ∈ ['(', ')', '[', ']', '=', ',', '*', '_'], isWhitespace c = false := by decide
  intro hmem
  rw [hother c hmem] at h
  cases h

theorem not_infix_blank_append {lead s : Text} (hlead : Blank lead) (h : ¬invocation <:+: s) :
    ¬invocation <:+: lead ++ s := by
  induction lead with
  | nil => exact h
  | cons c lead ih =>
    have hc : c ∉ invocation := by
      intro hmem
      have hblank := hlead c List.mem_cons_self
      have hsolid : ∀ c ∈ invocation, isWhitespace c = false := by decide
      rw [hsolid c hmem] at hblank
      cases hblank
    have hrest := ih fun x hx => hlead x (List.mem_cons_of_mem _ hx)
    intro hpattern
    rcases (@infix_separated invocation [] (lead ++ s) c hc).mp hpattern with hnil | htail
    · exact absurd (List.infix_nil.mp hnil) (by decide)
    · exact hrest htail

theorem blank_default (d : Default) {trail : Text} (htrail : Blank trail) :
    ',' ∉ d.text ++ trail := by
  have hblank : ∀ {gap : Text}, Blank gap → ',' ∉ gap := by
    intro gap hgap hmem
    exact blank_notMem (hgap ',' hmem) (by decide)
  intro hmem
  rcases List.mem_append.mp hmem with hd | htrail'
  · cases d with
    | none => cases hd
    | dv gap argument blank single balanced =>
      simp only [Default.text, List.mem_append, List.mem_singleton] at hd
      rcases hd with hgap | (hneedle | hargument) | hclose
      · exact hblank blank hgap
      · revert hneedle
        decide
      · exact single hargument
      · cases hclose
    | equals gap value blank single =>
      simp only [Default.text, List.mem_append, List.mem_cons] at hd
      rcases hd with hgap | heq | hvalue
      · exact hblank blank hgap
      · cases heq
      · exact single hvalue
  · exact hblank htrail htrail'

theorem words_ne_nil {s : Text} {c : Char} (hc : c ∈ s) (h : isWhitespace c = false) :
    wordsAux [] s ≠ [] := by
  have hcount := countP_wordsAux (fun x => !isWhitespace x) (by simp) [] s
  intro hnil
  have hpos : 0 < s.countP fun x => !isWhitespace x :=
    List.countP_pos_iff.mpr ⟨c, hc, by simp [h]⟩
  rw [hnil] at hcount
  simp only [List.map_nil, List.sum_nil, List.countP_nil, Nat.zero_add] at hcount
  omega

/-- In a collapsed declaration the name stands behind a space or a star. -/
theorem collapsed_declaration {type name : Text} {joint : Char}
    (typed : ∃ c ∈ type, isWordChar c = true) (joined : isWhitespace joint = true ∨ joint = '*')
    (word : ∀ c ∈ name, isWordChar c = true) (named : name ≠ []) :
    ∃ u x, collapsed (type ++ joint :: name) = u ++ x :: name ∧ (x = ' ' ∨ x = '*') := by
  have hletters : ∀ c ∈ name, isWhitespace c = false := fun c hc => isWordChar_graphic (word c hc)
  rcases joined with hblank | rfl
  · obtain ⟨c, hc, hword⟩ := typed
    have hwords := words_ne_nil hc (isWordChar_graphic hword)
    exact ⟨collapsed type, ' ', collapsed_append_word hletters named type hblank hwords, .inl rfl⟩
  · have hstar : ∀ c ∈ '*' :: name, isWhitespace c = false := by
      intro c hc
      rcases List.mem_cons.mp hc with rfl | hc
      · decide
      · exact hletters c hc
    obtain ⟨before, h⟩ := collapsed_append_solid hstar (List.cons_ne_nil _ _) type
    exact ⟨before, '*', h, .inr rfl⟩

theorem plain_notMem {type name : Text} {joint : Char}
    (simple : ∀ c ∈ type, isWordChar c = true ∨ isWhitespace c = true ∨ c = '*')
    (joined : isWhitespace joint = true ∨ joint = '*') (word : ∀ c ∈ name, isWordChar c = true)
    {c : Char} (hc : c ∈ type ++ joint :: name) : c ∉ ['(', '=', ','] := by
  intro hmem
  have hpart : ∀ d ∈ ['(', '=', ','], isWordChar d = false ∧ isWhitespace d = false ∧ d ≠ '*' := by
    decide
  obtain ⟨hword, hblank, hstar⟩ := hpart c hmem
  simp only [List.mem_append, List.mem_cons] at hc
  have hother : isWordChar c = true ∨ isWhitespace c = true ∨ c = '*' := by
    rcases hc with hc | rfl | hc
    · exact simple c hc
    · exact .inr joined
    · exact .inl (word c hc)
  rw [hword, hblank] at hother
  simp only [Bool.false_eq_true, false_or] at hother
  exact hstar hother

theorem isCloser_other {c : Char} (h : isCloser c = true) :
    c ∉ [',', '='] ∧ isWhitespace c = false ∧ isWordChar c = false := by
  unfold isCloser at h
  rw [Bool.or_eq_true, decide_eq_true_eq, decide_eq_true_eq] at h
  rcases h with rfl | rfl
  · decide
  · decide

/-- Collapsing keeps the last character that is not blank. -/
theorem getLast?_collapsed (s : Text) : (collapsed s).getLast? = (trimmedEnd s).getLast? := by
  obtain ⟨gap, hs, hgap⟩ := exists_trimmedEnd s
  rcases List.eq_nil_or_concat (trimmedEnd s) with hnil | ⟨init, c, hlast⟩
  · have hblank := @collapsed_append_blank [] gap hgap
    rw [hnil, List.nil_append] at hs
    rw [List.nil_append, ← hs] at hblank
    rw [hblank, hnil]
    rfl
  · rw [List.concat_eq_append] at hlast
    have hsolid : ∀ x ∈ [c], isWhitespace x = false := by
      intro x hx
      rw [List.mem_singleton.mp hx]
      exact @trimmedEnd_last s c (by rw [hlast]; simp)
    obtain ⟨front, hfront⟩ := collapsed_append_solid hsolid (List.cons_ne_nil _ _) init
    have hsame : collapsed s = front ++ [c] := by
      rw [hs, collapsed_append_blank _ hgap, hlast, hfront]
    rw [hsame, hlast]
    simp

theorem nameless_iff (part : Text) : Nameless part ↔ Wordless (beforeEquals part) := by
  rw [Nameless, Wordless, beforeEquals, getLast?_collapsed]

/-- A piece without a word at its end is neither left out nor named. -/
theorem kept_nameless (part : Text) : (∃ q, kept part = some q ∧ Wordless q) ↔ Nameless part := by
  rw [nameless_iff]
  constructor
  · rintro ⟨q, hq, hword⟩
    rwa [(kept_some hq).1] at hword
  · intro h
    refine ⟨beforeEquals part, if_neg ?_, h⟩
    rintro (hnil | hvoid)
    · obtain ⟨c, hc, _⟩ := h
      rw [hnil] at hc
      cases hc
    · obtain ⟨c, hc, hword⟩ := h
      rw [hvoid] at hc
      cases hc
      exact absurd hword (by decide)

/-! ### Pieces of a parameter -/

/-- The blanks before a text belong to its first piece, where they are nothing. -/
theorem filterMap_blank_append {f : Text → Option Text} {lead : Text} (h : Blank lead)
    (hf : ∀ c piece, isWhitespace c = true → f (c :: piece) = f piece) (s : Text) :
    ((lead ++ s).splitOn ',').filterMap f = (s.splitOn ',').filterMap f := by
  induction lead with
  | nil => rfl
  | cons c lead ih =>
    have hc := h c List.mem_cons_self
    have hrest := ih fun x hx => h x (List.mem_cons_of_mem _ hx)
    have hcomma : ¬(c == ',') = true := by
      intro he
      exact blank_notMem hc (by rw [beq_iff_eq.mp he]; decide)
    rw [List.cons_append, List.splitOn_cons_eq_if_modifyHead, if_neg hcomma, ← hrest]
    cases hpieces : (lead ++ s).splitOn ',' with
    | nil => rfl
    | cons piece pieces =>
      rw [List.modifyHead_cons, List.filterMap_cons, List.filterMap_cons, hf c piece hc]

theorem kept_blank {c : Char} (hc : isWhitespace c = true) (piece : Text) :
    kept (c :: piece) = kept piece := by
  have hone : Blank [c] := by
    intro x hx
    rwa [List.mem_singleton.mp hx]
  exact kept_congr (beforeEquals_blank_append hone piece)

/-- A declaration ends with a character that belongs to no default. -/
theorem declaration_ends (p : Param) :
    ∃ L c, p.declaration = L ++ [c] ∧ isWhitespace c = false ∧ c ≠ '=' ∧ c ≠ ',' ∧
      ¬invocation <:+: L ++ [c] := by
  cases p with
  | plain type joint name default typed simple joined named word =>
    obtain ⟨n, c, hsplit⟩ := List.eq_nil_or_concat name |>.resolve_left named
    rw [List.concat_eq_append] at hsplit
    have hc : isWordChar c = true := word c (by rw [hsplit]; simp)
    have hsigns := wordChar_notMem hc
    have hdeclaration : type ++ joint :: name = (type ++ joint :: n) ++ [c] := by
      rw [hsplit]
      simp
    refine ⟨type ++ joint :: n, c, hdeclaration, isWordChar_graphic hc, ?_, ?_, ?_⟩
    · intro he
      exact hsigns (by rw [he]; decide)
    · intro he
      exact hsigns (by rw [he]; decide)
    · intro hpattern
      rw [← hdeclaration] at hpattern
      exact plain_notMem simple joined word (hpattern.subset (by decide : '(' ∈ invocation)) (by decide)
  | bracketed before name after close default closing absent =>
    obtain ⟨hother, hsolid, _⟩ := isCloser_other closing
    refine ⟨before ++ name ++ after, close, rfl, hsolid, ?_, ?_, absent⟩
    · intro he
      exact hother (by rw [he]; decide)
    · intro he
      exact hother (by rw [he]; decide)

/-- The pieces of a parameter are the parts of its declaration. -/
theorem pieces_text (s : Slot) :
    pieces s.text = (s.param.declaration.splitOn ',').filterMap kept := by
  obtain ⟨L, c, hdeclaration, hsolid, hequals, hne, habsent⟩ := declaration_ends s.param
  obtain ⟨init, last, hsplit, happend⟩ := @splitOn_append_last _ _ ',' (s.lead ++ L)
  have hcomma : ',' ∉ c :: (s.param.default.text ++ s.trail) := by
    intro hmem
    rcases List.mem_cons.mp hmem with he | hmem
    · exact hne he.symm
    · exact blank_default s.param.default s.blankTrail hmem
  have htext : s.text = (s.lead ++ L) ++ c :: (s.param.default.text ++ s.trail) := by
    rw [Slot.text, hdeclaration]
    simp
  have hpart : ∀ part ∈ init ++ [last ++ [c]], ¬invocation <:+: part := by
    intro part hmem hpattern
    rw [← happend [c] (by simpa using hne.symm), List.append_assoc] at hmem
    exact not_infix_blank_append s.blankLead habsent (hpattern.trans (infix_of_mem_splitOn hmem))
  have hinit : init.filterMap sanitizeParam = init.filterMap kept := by
    apply List.filterMap_congr
    intro part hmem
    exact sanitizeParam_absent (hpart part (List.mem_append_left _ hmem))
  have hlast : sanitizeParam (last ++ c :: (s.param.default.text ++ s.trail)) = kept (last ++ [c]) :=
    sanitizeParam_declaration s.param.default hsolid hequals (hpart _ (by simp)) s.blankTrail
  have hfinal : [last ++ c :: (s.param.default.text ++ s.trail)].filterMap sanitizeParam =
      [last ++ [c]].filterMap kept := by
    rw [List.filterMap_cons, List.filterMap_cons, hlast]
    rfl
  have hparts : (s.lead ++ (L ++ [c])).splitOn ',' = init ++ [last ++ [c]] := by
    rw [← List.append_assoc]
    exact happend [c] (by simpa using hne.symm)
  have hlead := filterMap_blank_append s.blankLead (fun _ _ hc => kept_blank hc _) (L ++ [c])
  rw [hdeclaration, ← hlead, hparts, pieces, htext, happend _ hcomma, List.filterMap_append,
    List.filterMap_append, hinit, hfinal]

/-- A simple or pointer declarator is one piece, and its name is found. -/
theorem pieces_plain (s : Slot) (h : s.param.IsPlain) :
    pieces s.text = [collapsed s.param.declaration] ∧
      extractParamName (collapsed s.param.declaration) = some s.param.name := by
  rw [pieces_text]
  obtain ⟨lead, param, trail, blankLead, blankTrail⟩ := s
  cases param with
  | bracketed => exact h.elim
  | plain type joint name default typed simple joined named word =>
    obtain ⟨u, x, hcollapsed, hx⟩ := collapsed_declaration typed joined word named
    have hxword : isWordChar x = false ∧ x ∉ voidText := by
      rcases hx with rfl | rfl
      · decide
      · decide
    have hsigns : ∀ c ∈ ['=', ','], c ∉ type ++ joint :: name := by
      intro c hc hmem
      exact plain_notMem simple joined word hmem (List.mem_cons_of_mem _ hc)
    have hkept : kept (type ++ joint :: name) = some (collapsed (type ++ joint :: name)) := by
      unfold kept
      rw [beforeEquals_notMem (hsigns '=' (by decide)), if_neg]
      rintro (hnil | hvoid)
      · rw [hcollapsed] at hnil
        exact absurd hnil (by simp)
      · apply hxword.2
        rw [← hvoid, hcollapsed]
        simp
    constructor
    · show ((type ++ joint :: name).splitOn ',').filterMap kept = _
      rw [List.splitOn_eq_singleton (hsigns ',' (by decide)), List.filterMap_cons_some hkept]
      rfl
    · have hsolid := solid_collapsed (type ++ joint :: name)
      show extractParamName (collapsed (type ++ joint :: name)) = some name
      rw [hcollapsed] at hsolid ⊢
      exact extractParamName_word u hxword.1 word named hsolid

/-- A part whose end is not a word is a piece without a name. -/
theorem wordless_pieces (s : Slot) :
    (∃ q ∈ pieces s.text, Wordless q) ↔ ∃ part ∈ s.param.declaration.splitOn ',', Nameless part := by
  rw [pieces_text]
  constructor
  · rintro ⟨q, hq, hword⟩
    obtain ⟨part, hpart, hkept⟩ := List.mem_filterMap.mp hq
    exact ⟨part, hpart, (kept_nameless part).mp ⟨q, hkept, hword⟩⟩
  · rintro ⟨part, hpart, hname⟩
    obtain ⟨q, hkept, hword⟩ := (kept_nameless part).mpr hname
    exact ⟨q, List.mem_filterMap.mpr ⟨part, hpart, hkept⟩, hword⟩

theorem sum_kept_le (parts : List Text) :
    ((parts.filterMap kept).map (List.countP isCloser)).sum ≤
      (parts.map (List.countP isCloser)).sum := by
  induction parts with
  | nil => exact Nat.le_refl 0
  | cons part parts ih =>
    cases hq : kept part with
    | none =>
      rw [List.filterMap_cons_none hq, List.map_cons, List.sum_cons]
      omega
    | some q =>
      have hless := countP_beforeEquals part
      rw [← (kept_some hq).1] at hless
      rw [List.filterMap_cons_some hq, List.map_cons, List.map_cons, List.sum_cons, List.sum_cons]
      omega

theorem nameless_closed {last : Text} {close : Char} (hclose : isCloser close = true)
    (h : '=' ∉ last) : Nameless (last ++ [close]) := by
  obtain ⟨hother, hsolid, hword⟩ := isCloser_other hclose
  have hboth : '=' ∉ last ++ [close] := by
    intro hmem
    rcases List.mem_append.mp hmem with hmem | hmem
    · exact h hmem
    · exact hother (by rw [← List.mem_singleton.mp hmem]; decide)
  refine ⟨close, ?_, hword⟩
  rw [takeWhile_notMem hboth, trimmedEnd_append _ _ hsolid, trimmedEnd]
  simp

/-- Where the name of each part is found, the closing bracket of an array or of a pointer to a
function is lost. -/
theorem pieces_bracketed (s : Slot) (h : ¬s.param.IsPlain)
    (hnamed : ∀ part ∈ s.param.declaration.splitOn ',', ¬Nameless part) :
    ((pieces s.text).map (List.countP isCloser)).sum < s.param.declaration.countP isCloser := by
  rw [pieces_text]
  obtain ⟨lead, param, trail, blankLead, blankTrail⟩ := s
  cases param with
  | plain => exact absurd trivial h
  | bracketed before name after close default closing absent =>
    obtain ⟨hother, _⟩ := isCloser_other closing
    have hcomma : ',' ∉ [close] := by
      intro hmem
      exact hother (by rw [← List.mem_singleton.mp hmem]; decide)
    obtain ⟨init, last, hsplit, happend⟩ := @splitOn_append_last _ _ ',' (before ++ name ++ after)
    have hparts : (before ++ name ++ after ++ [close]).splitOn ',' = init ++ [last ++ [close]] :=
      happend _ hcomma
    have hequals : '=' ∈ last := by
      by_contra hlast
      refine hnamed (last ++ [close]) ?_ (nameless_closed closing hlast)
      show _ ∈ (before ++ name ++ after ++ [close]).splitOn ','
      rw [hparts]
      simp
    have hcut : kept (last ++ [close]) = kept last := kept_congr (beforeEquals_append hequals _)
    have htotal := countP_splitOn isCloser (by decide : isCloser ',' = false) (before ++ name ++ after)
    have hless := sum_kept_le (init ++ [last])
    have hsame : (init ++ [last ++ [close]]).filterMap kept = (init ++ [last]).filterMap kept := by
      rw [List.filterMap_append, List.filterMap_append, List.filterMap_cons, List.filterMap_cons, hcut]
    show (((before ++ name ++ after ++ [close]).splitOn ',').filterMap kept |>.map _).sum <
      (before ++ name ++ after ++ [close]).countP isCloser
    rw [hsplit] at htotal
    rw [hparts, hsame, List.countP_append, List.countP_singleton, if_pos closing]
    omega

/-- Without an equality sign no bracket is lost: the declaration is not named. -/
theorem nameless_bracketed (p : Param) (h : ¬p.IsPlain) (hequals : '=' ∉ p.declaration) :
    ∃ part ∈ p.declaration.splitOn ',', Nameless part := by
  cases p with
  | plain => exact absurd trivial h
  | bracketed before name after close default closing absent =>
    obtain ⟨hother, _⟩ := isCloser_other closing
    have hcomma : ',' ∉ [close] := by
      intro hmem
      exact hother (by rw [← List.mem_singleton.mp hmem]; decide)
    obtain ⟨init, last, hsplit, happend⟩ := @splitOn_append_last _ _ ',' (before ++ name ++ after)
    have hparts : (before ++ name ++ after ++ [close]).splitOn ',' = init ++ [last ++ [close]] :=
      happend _ hcomma
    have hpart : last <:+: before ++ name ++ after :=
      infix_of_mem_splitOn (by rw [hsplit]; simp)
    refine ⟨last ++ [close], ?_, nameless_closed closing ?_⟩
    · show _ ∈ (before ++ name ++ after ++ [close]).splitOn ','
      rw [hparts]
      simp
    · intro hmem
      exact hequals (List.mem_append_left _ (hpart.subset hmem))

end CudaTrace.Build
