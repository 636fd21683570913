import CudaTrace.Build.Coverage
import CudaTrace.Build.Declarations
import Mathlib.Algebra.Order.BigOperators.Group.List
import Mathlib.Algebra.Order.Group.Nat

/-!
# What the generated wrappers pass on

A line becomes a wrapper when every part of its list ends with a word. An array or a pointer to
a function ends with a bracket, so that its line is skipped; only an equality sign inside the
declaration, which cuts the bracket off, gives a wrapper with a wrong list.
-/

namespace CudaTrace.Build
open CudaTrace.Base

/-! ### The generated function -/

/-- The list of the function and of its function pointer. -/
def WrapperPrototype.parameterList (w : WrapperPrototype) : Text :=
  if w.params = [] then voidText else w.params

def callText (argNames : List Text) : Text :=
  "real_fn(".toList ++ [',', ' '].intercalate argNames ++ [')']

/-- The function of one turn of the second loop of `render_driver_c_source`. -/
def functionText (decl name params call : Text) : Text :=
  decl ++ ' ' :: name ++ '(' :: params ++ ") \x7b\n".toList ++
  "    void* cudatrace_scope_token = cudatrace_driver_enter(\"".toList ++ name ++
    "\");\n".toList ++
  "    typedef ".toList ++ decl ++ " (*real_fn_t)(".toList ++ params ++ ");\n".toList ++
  "    static real_fn_t real_fn = NULL;\n".toList ++
  "    if (!real_fn) \x7b\n".toList ++
  "        real_fn = (real_fn_t)cudatrace_resolve_driver_symbol(\"".toList ++ name ++
    "\");\n".toList ++
  "    \x7d\n".toList ++
  "    CUresult ret = real_fn ? ".toList ++ call ++ " : CUDATRACE_CUDA_ERROR_UNKNOWN;\n".toList ++
  "    cudatrace_driver_exit(cudatrace_scope_token, ret);\n".toList ++
  "    return ret;\n".toList ++
  "\x7d\n\n".toList

def WrapperPrototype.function (w : WrapperPrototype) : Text :=
  functionText w.declPrefix w.name w.parameterList (callText w.argNames)

/-! ### Prototypes -/

/-- The text between the parentheses; without parameters it is blank or `void`. -/
def listText (slots : List Slot) (bare : Text) : Text :=
  match slots with
  | [] => bare
  | first :: rest => [','].intercalate ((first :: rest).map Slot.text)

def lineText (head list tail : Text) : Text := head ++ '(' :: (list ++ ')' :: tail)

/-- A prototype whose parameters are all named, on a line of its own. -/
structure Prototype where
  head : Text
  slots : List Slot
  bare : Text
  tail : Text
  opened : '(' ∉ head
  noParameters : trimmed bare = [] ∨ trimmed bare = voidText
  closed : ')' ∉ tail
  oneLine : '\n' ∉ lineText head (listText slots bare) tail

namespace Prototype

def list (p : Prototype) : Text := listText p.slots p.bare

def line (p : Prototype) : Text := lineText p.head p.list p.tail

def names (p : Prototype) : List Text := p.slots.map fun s => s.param.name

/-- The declared list, in the generated spelling. -/
def parameterList (p : Prototype) : Text :=
  if p.slots = [] then voidText
  else [',', ' '].intercalate (p.slots.map fun s => collapsed s.param.declaration)

end Prototype

def protoText (ps : List Prototype) : Text := unlines (ps.map Prototype.line)

/-- The prototype that a wrapper of this name is made from: the first one of the name. -/
def declaring (ps : List Prototype) (symbolPrefix name : Text) : Option Prototype :=
  ps.find? fun p => (candidate symbolPrefix p.line).map Candidate.name = some name

/-- Each declared parameter is in the list and is passed once, in its place. -/
structure Forwards (p : Prototype) (w : WrapperPrototype) : Prop where
  names : w.argNames = p.names
  parameters : w.parameterList = p.parameterList
  function : w.function = functionText w.declPrefix w.name p.parameterList (callText p.names)

/-- Every wrapper forwards the arguments of the prototype it is made from. -/
def Sound (ps : List Prototype) (manual : List Text) (symbolPrefix : Text) : Prop :=
  ∀ w ∈ parseMissingPrototypes (protoText ps) manual symbolPrefix,
    ∃ p, declaring ps symbolPrefix w.name = some p ∧ Forwards p w

/-! ### Lines -/

theorem splitParens_line {head list tail : Text} (hhead : '(' ∉ head) (htail : ')' ∉ tail) :
    splitParens (trimSemicolons (trimmed (lineText head list tail))) =
      some (head.dropWhile isWhitespace, list) := by
  have hline : trimmed (lineText head list tail) =
      head.dropWhile isWhitespace ++ '(' :: (list ++ ')' :: trimmedEnd tail) := by
    have hshift : lineText head list tail = (head ++ '(' :: list) ++ ')' :: tail := by
      simp [lineText]
    rw [hshift, trimmed_append_cons _ _ (by decide), dropWhile_append_cons _ _ (by decide)]
    simp
  have hsemicolons : ∀ xs ys : Text, ∃ rest, trimSemicolons (xs ++ ')' :: ys) = xs ++ ')' :: rest ∧
      ∀ c ∈ rest, c ∈ ys := by
    intro xs ys
    refine ⟨(ys.reverse.dropWhile (· = ';')).reverse, ?_, ?_⟩
    · have hrev : (xs ++ ')' :: ys).reverse = ys.reverse ++ ')' :: xs.reverse := by simp
      unfold trimSemicolons
      rw [hrev, List.dropWhile_append]
      split_ifs with hempty
      · rw [List.isEmpty_iff.mp hempty]
        simp
      · simp
    · intro c hc
      rw [List.mem_reverse] at hc
      exact List.mem_reverse.mp ((List.dropWhile_sublist _).subset hc)
  obtain ⟨rest, htrimmed, hrest⟩ :=
    hsemicolons (head.dropWhile isWhitespace ++ '(' :: list) (trimmedEnd tail)
  have hopened : ∀ c ∈ head.dropWhile isWhitespace, decide (c ≠ '(') = true := by
    intro c hc
    exact decide_eq_true (ne_of_mem_of_not_mem ((List.dropWhile_sublist _).subset hc) hhead)
  have hclosed : ∀ c ∈ rest.reverse, decide (c ≠ ')') = true := by
    intro c hc
    have hmem : c ∈ tail := (prefix_trimmedEnd tail).subset (hrest c (List.mem_reverse.mp hc))
    exact decide_eq_true (ne_of_mem_of_not_mem hmem htail)
  have hwhole : trimSemicolons (trimmed (lineText head list tail)) =
      head.dropWhile isWhitespace ++ '(' :: (list ++ ')' :: rest) := by
    rw [hline, ← List.cons_append, ← List.append_assoc, htrimmed]
    simp
  have hrev : (list ++ ')' :: rest).reverse = rest.reverse ++ ')' :: list.reverse := by simp
  rw [hwhole]
  unfold splitParens
  rw [List.dropWhile_append_of_pos hopened, List.takeWhile_append_of_pos hopened]
  simp only [List.dropWhile_cons, List.takeWhile_cons, ne_eq, not_true_eq_false, decide_false,
    Bool.false_eq_true, if_false]
  rw [hrev, List.dropWhile_append_of_pos (by simpa using hclosed)]
  simp

theorem candidate_congr {symbolPrefix raw raw' : Text}
    (h : splitParens (trimSemicolons (trimmed raw)) = splitParens (trimSemicolons (trimmed raw'))) :
    candidate symbolPrefix raw = candidate symbolPrefix raw' := by
  unfold candidate
  rw [h]

/-- The line break is not part of what is taken apart. -/
theorem candidate_dropCarriageReturn (symbolPrefix : Text) (p : Prototype) :
    candidate symbolPrefix (dropCarriageReturn p.line) = candidate symbolPrefix p.line := by
  have hshift : p.line = (p.head ++ '(' :: p.list) ++ ')' :: p.tail := by
    simp [Prototype.line, lineText]
  have hdrop : dropCarriageReturn p.line =
      lineText p.head p.list (dropCarriageReturn p.tail) := by
    rw [hshift, dropCarriageReturn_append _ _ (by decide)]
    simp [lineText]
  have hclosed : ')' ∉ dropCarriageReturn p.tail := fun h => p.closed (mem_dropCarriageReturn h)
  apply candidate_congr
  rw [hdrop, splitParens_line p.opened hclosed]
  exact (splitParens_line p.opened p.closed).symm

theorem candidate_params {symbolPrefix : Text} {p : Prototype} {c : Candidate}
    (h : candidate symbolPrefix p.line = some c) : c.paramsRaw = trimmed p.list := by
  unfold candidate Prototype.line at h
  rw [splitParens_line p.opened p.closed] at h
  simp only [Option.bind_eq_bind, Option.bind_some, Option.bind_eq_some_iff] at h
  obtain ⟨name, _, h⟩ := h
  split_ifs at h
  simp only [Option.bind_eq_some_iff] at h
  obtain ⟨decl, _, h⟩ := h
  split_ifs at h
  cases h
  rfl

theorem declaring_candidate {ps : List Prototype} {symbolPrefix name : Text} {p : Prototype}
    (h : declaring ps symbolPrefix name = some p) :
    ∃ c, candidate symbolPrefix p.line = some c ∧ c.name = name := by
  unfold declaring at h
  have hfound := List.find?_some h
  exact Option.map_eq_some_iff.mp (of_decide_eq_true hfound)

theorem firstCandidate_protoText (ps : List Prototype) (symbolPrefix name : Text) :
    firstCandidate symbolPrefix (linesAux [] (protoText ps)) name =
      (declaring ps symbolPrefix name).bind fun p => candidate symbolPrefix p.line := by
  have hbreaks : ∀ l ∈ ps.map Prototype.line, '\n' ∉ l := by
    intro l hl
    obtain ⟨p, _, rfl⟩ := List.mem_map.mp hl
    exact p.oneLine
  rw [protoText, linesAux_unlines hbreaks]
  induction ps with
  | nil => rfl
  | cons p ps ih =>
    have hrest := ih fun l hl => hbreaks l (List.mem_cons_of_mem _ hl)
    have hline := candidate_dropCarriageReturn symbolPrefix p
    rw [List.map_cons, List.map_cons, declaring, List.find?_cons]
    cases hc : candidate symbolPrefix p.line with
    | none =>
      rw [firstCandidate_skip (hline.trans hc), hrest]
      rfl
    | some c =>
      rw [firstCandidate_cons (hline.trans hc), hrest]
      by_cases hname : name = c.name
      · simp [hname, hc]
      · have hname' : ¬c.name = name := fun he => hname he.symm
        simp [hname, hname', declaring]

/-! ### Lists -/

theorem sanitizeParam_congr {raw raw' : Text} (h : trimmed raw = trimmed raw') :
    sanitizeParam raw = sanitizeParam raw' := by
  unfold sanitizeParam
  rw [h]

/-- The blanks around a list belong to its first and last piece. -/
theorem pieces_trimmed (list : Text) : pieces (trimmed list) = pieces list := by
  obtain ⟨front, back, hlist, hfront, hback⟩ := exists_trimmed list
  have hcons : ∀ c piece, isWhitespace c = true → sanitizeParam (c :: piece) = sanitizeParam piece := by
    intro c piece hc
    apply sanitizeParam_congr
    unfold trimmed
    rw [List.dropWhile_cons_of_pos hc]
  have hlead := filterMap_blank_append hfront hcons (trimmed list ++ back)
  obtain ⟨init, last, hsplit, happend⟩ := @splitOn_append_last _ _ ',' (trimmed list)
  have hcomma : ',' ∉ back := by
    intro hmem
    exact absurd (hback ',' hmem) (by decide)
  have hlast : sanitizeParam (last ++ back) = sanitizeParam last :=
    sanitizeParam_congr (trimmed_append_blank last hback)
  have hfinal : [last ++ back].filterMap sanitizeParam = [last].filterMap sanitizeParam := by
    rw [List.filterMap_cons, List.filterMap_cons, hlast]
  have hwhole : pieces list = ((trimmed list ++ back).splitOn ',').filterMap sanitizeParam := by
    rw [← hlead, ← List.append_assoc, ← hlist]
    rfl
  rw [hwhole, happend back hcomma, List.filterMap_append, hfinal, ← List.filterMap_append, ← hsplit]
  rfl

theorem pieces_bare {bare : Text} (h : trimmed bare = [] ∨ trimmed bare = voidText) :
    pieces bare = [] := by
  have hnone : sanitizeParam bare = none := if_pos h
  rw [pieces, splitOn_bare h, List.filterMap_cons_none hnone]
  rfl

/-- The pieces of the list are those of its parameters, one after the other. -/
theorem pieces_list (p : Prototype) : pieces p.list = p.slots.flatMap fun s => pieces s.text := by
  unfold Prototype.list listText
  cases hslots : p.slots with
  | nil => exact pieces_bare p.noParameters
  | cons first rest =>
    have hjoined := @splitOn_intercalate_flatMap _ _ ',' first.text (rest.map Slot.text)
    rw [← List.map_cons] at hjoined
    simp only [pieces]
    rw [hjoined, List.flatMap_map, List.filterMap_flatMap]

theorem wrapper_line {symbolPrefix : Text} {p : Prototype} {c : Candidate}
    (h : candidate symbolPrefix p.line = some c) :
    c.wrapper = ((p.slots.flatMap fun s => pieces s.text).mapM extractParamName).map fun argNames =>
      ⟨c.declPrefix, c.name,
        [',', ' '].intercalate (p.slots.flatMap fun s => pieces s.text), argNames⟩ := by
  unfold Candidate.wrapper
  simp only
  rw [parse_sanitizeParams, sanitizeParams_eq, candidate_params h, pieces_trimmed, pieces_list]

/-! ### Simple parameters -/

theorem pieces_slots_plain {slots : List Slot} (h : ∀ s ∈ slots, s.param.IsPlain) :
    slots.flatMap (fun s => pieces s.text) = slots.map (fun s => collapsed s.param.declaration) ∧
      (slots.map fun s => collapsed s.param.declaration).mapM extractParamName =
        some (slots.map fun s => s.param.name) := by
  induction slots with
  | nil => exact ⟨rfl, rfl⟩
  | cons s slots ih =>
    obtain ⟨hpieces, hname⟩ := pieces_plain s (h s List.mem_cons_self)
    obtain ⟨hrest, hnames⟩ := ih fun x hx => h x (List.mem_cons_of_mem _ hx)
    constructor
    · rw [List.flatMap_cons, hpieces, hrest]
      rfl
    · rw [List.map_cons, List.mapM_cons, hname, hnames]
      rfl

theorem collapsed_plain_ne_nil (s : Slot) (h : s.param.IsPlain) : collapsed s.param.declaration ≠ [] := by
  have hmem : collapsed s.param.declaration ∈ pieces s.text := by
    rw [(pieces_plain s h).1]
    exact List.mem_singleton_self _
  exact (pieces_solid hmem).2.1

theorem intercalate_ne_nil {joint first : Text} (h : first ≠ []) (rest : List Text) :
    joint.intercalate (first :: rest) ≠ [] := by
  cases rest with
  | nil => rwa [List.intercalate_singleton]
  | cons second rest =>
    rw [List.intercalate_cons_cons]
    simp [h]

/-- A list of simple and pointer declarators is forwarded. -/
theorem forwards_plain {symbolPrefix : Text} {p : Prototype} {c : Candidate} {w : WrapperPrototype}
    (hc : candidate symbolPrefix p.line = some c) (hw : c.wrapper = some w)
    (h : ∀ s ∈ p.slots, s.param.IsPlain) : Forwards p w := by
  obtain ⟨hpieces, hnames⟩ := pieces_slots_plain h
  rw [wrapper_line hc, hpieces, hnames, Option.map_some] at hw
  cases hw
  have hparameters : WrapperPrototype.parameterList ⟨c.declPrefix, c.name,
      [',', ' '].intercalate (p.slots.map fun s => collapsed s.param.declaration),
      p.slots.map fun s => s.param.name⟩ = p.parameterList := by
    unfold WrapperPrototype.parameterList Prototype.parameterList
    cases hslots : p.slots with
    | nil => rfl
    | cons s slots =>
      have hs : s ∈ p.slots := by
        rw [hslots]
        exact List.mem_cons_self
      simp only [List.map_cons]
      rw [if_neg (intercalate_ne_nil (collapsed_plain_ne_nil s (h s hs)) _),
        if_neg (List.cons_ne_nil _ _)]
  refine ⟨rfl, hparameters, ?_⟩
  unfold WrapperPrototype.function
  rw [hparameters]
  rfl

/-! ### Arrays and pointers to functions -/

theorem extractParamName_wordless {q : Text} (h : Solid q) :
    extractParamName q = none ↔ q = [] ∨ Wordless q := by
  rw [extractParamName_solid h, Wordless]
  rcases List.eq_nil_or_concat q with rfl | ⟨init, c, hq⟩
  · simp
  · rw [List.concat_eq_append] at hq
    rw [hq, List.reverse_append, List.reverse_singleton, List.singleton_append, List.takeWhile_cons]
    cases hc : isWordChar c with
    | true => simp [hc]
    | false => simp [hc]

theorem mapM_none {qs : List Text} {q : Text} (hq : q ∈ qs) (h : extractParamName q = none) :
    qs.mapM extractParamName = none := by
  induction qs with
  | nil => cases hq
  | cons q' qs ih =>
    rw [List.mapM_cons]
    rcases List.mem_cons.mp hq with rfl | hq
    · rw [h]
      rfl
    · rw [ih hq]
      cases extractParamName q' with
      | none => rfl
      | some name => rfl

theorem mapM_some {qs : List Text} (h : ∀ q ∈ qs, extractParamName q ≠ none) :
    ∃ names, qs.mapM extractParamName = some names := by
  induction qs with
  | nil => exact ⟨[], rfl⟩
  | cons q qs ih =>
    obtain ⟨names, hnames⟩ := ih fun x hx => h x (List.mem_cons_of_mem _ hx)
    obtain ⟨name, hname⟩ := Option.ne_none_iff_exists'.mp (h q List.mem_cons_self)
    refine ⟨name :: names, ?_⟩
    rw [List.mapM_cons, hname, hnames]
    rfl

/-- The line has a parameter that is not named, so that it is skipped. -/
def Unnamed (p : Prototype) : Prop :=
  ∃ s ∈ p.slots, ∃ part ∈ s.param.declaration.splitOn ',', Nameless part

theorem wrapper_unnamed {symbolPrefix : Text} {p : Prototype} {c : Candidate}
    (hc : candidate symbolPrefix p.line = some c) : c.wrapper = none ↔ Unnamed p := by
  rw [wrapper_line hc, Option.map_eq_none_iff]
  constructor
  · intro hnone
    by_contra hnamed
    have hall : ∀ q ∈ p.slots.flatMap fun s => pieces s.text, extractParamName q ≠ none := by
      intro q hq hname
      obtain ⟨s, hs, hq⟩ := List.mem_flatMap.mp hq
      obtain ⟨hsolid, hne, _⟩ := pieces_solid hq
      rcases (extractParamName_wordless hsolid).mp hname with hnil | hword
      · exact hne hnil
      · exact hnamed ⟨s, hs, (wordless_pieces s).mp ⟨q, hq, hword⟩⟩
    obtain ⟨names, hsome⟩ := mapM_some hall
    rw [hsome] at hnone
    cases hnone
  · rintro ⟨s, hs, hpart⟩
    obtain ⟨q, hq, hword⟩ := (wordless_pieces s).mpr hpart
    have hname := (extractParamName_wordless (pieces_solid hq).1).mpr (.inr hword)
    exact mapM_none (List.mem_flatMap.mpr ⟨s, hs, hq⟩) hname

/-- What the brackets of the generated list are counted against. -/
theorem countP_pieces_le (s : Slot) (hnamed : ∀ part ∈ s.param.declaration.splitOn ',', ¬Nameless part) :
    ((pieces s.text).map (List.countP isCloser)).sum ≤
        (collapsed s.param.declaration).countP isCloser ∧
      (¬s.param.IsPlain → ((pieces s.text).map (List.countP isCloser)).sum <
        (collapsed s.param.declaration).countP isCloser) := by
  have hsame := countP_collapsed isCloser isCloser_blank s.param.declaration
  by_cases hplain : s.param.IsPlain
  · rw [(pieces_plain s hplain).1]
    simp [hplain]
  · have hless := pieces_bracketed s hplain hnamed
    rw [hsame]
    exact ⟨hless.le, fun _ => hless⟩

theorem countP_params (slots : List Slot) :
    ([',', ' '].intercalate (slots.flatMap fun s => pieces s.text)).countP isCloser =
      (slots.map fun s => ((pieces s.text).map (List.countP isCloser)).sum).sum := by
  rw [countP_intercalate isCloser (by decide)]
  induction slots with
  | nil => rfl
  | cons s slots ih => simp [List.flatMap_cons, ih]

/-- A list with an array or a pointer to a function whose line becomes a wrapper loses a
closing bracket. -/
theorem not_forwards {symbolPrefix : Text} {p : Prototype} {c : Candidate} {w : WrapperPrototype}
    (hc : candidate symbolPrefix p.line = some c) (hw : c.wrapper = some w)
    (h : ¬∀ s ∈ p.slots, s.param.IsPlain) : ¬Forwards p w := by
  intro hforwards
  have hnamed : ¬Unnamed p := by
    rw [← wrapper_unnamed hc, hw]
    exact Option.some_ne_none w
  have hpart : ∀ s ∈ p.slots, ∀ part ∈ s.param.declaration.splitOn ',', ¬Nameless part :=
    fun s hs part hpart hname => hnamed ⟨s, hs, part, hpart, hname⟩
  obtain ⟨s, hs⟩ := not_forall.mp h
  obtain ⟨hs, hbracketed⟩ := Classical.not_imp.mp hs
  have hne : p.slots ≠ [] := List.ne_nil_of_mem hs
  have hdeclared : p.parameterList.countP isCloser =
      (p.slots.map fun s => (collapsed s.param.declaration).countP isCloser).sum := by
    rw [Prototype.parameterList, if_neg hne, countP_intercalate isCloser (by decide), List.map_map]
    rfl
  have hless := List.sum_lt_sum (fun s : Slot => ((pieces s.text).map (List.countP isCloser)).sum)
    (fun s => (collapsed s.param.declaration).countP isCloser)
    (fun s hs => (countP_pieces_le s (hpart s hs)).1)
    ⟨s, hs, (countP_pieces_le s (hpart s hs)).2 hbracketed⟩
  have hparameters := congrArg (List.countP isCloser) hforwards.parameters
  have hparams : w.params = [',', ' '].intercalate (p.slots.flatMap fun s => pieces s.text) := by
    rw [wrapper_line hc] at hw
    obtain ⟨names, _, rfl⟩ := Option.map_eq_some_iff.mp hw
    rfl
  rw [hdeclared, WrapperPrototype.parameterList, hparams] at hparameters
  split_ifs at hparameters with hnil
  · have hvoid : voidText.countP isCloser = 0 := by decide
    omega
  · rw [countP_params] at hparameters
    omega

/-! ### All lines -/

theorem wrapper_name_mem {ps : List Prototype} {manual : List Text} {symbolPrefix : Text}
    {w : WrapperPrototype} :
    w ∈ parseMissingPrototypes (protoText ps) manual symbolPrefix ↔
      w.name ∉ manual ∧ ∃ p c, declaring ps symbolPrefix w.name = some p ∧
        candidate symbolPrefix p.line = some c ∧ c.wrapper = some w := by
  rw [mem_parseMissingPrototypes, firstCandidate_protoText]
  simp only [Option.bind_eq_some_iff]
  constructor
  · rintro ⟨hmanual, c, ⟨p, hp, hc⟩, hw⟩
    exact ⟨hmanual, p, c, hp, hc, hw⟩
  · rintro ⟨hmanual, p, c, hp, hc, hw⟩
    exact ⟨hmanual, c, ⟨p, hp, hc⟩, hw⟩

/-- The arguments are forwarded when every used line either has simple and pointer parameters
only or is skipped. -/
theorem sound_iff (ps : List Prototype) (manual : List Text) (symbolPrefix : Text) :
    Sound ps manual symbolPrefix ↔
      ∀ name ∉ manual, ∀ p, declaring ps symbolPrefix name = some p →
        (∀ s ∈ p.slots, s.param.IsPlain) ∨ Unnamed p := by
  constructor
  · intro h name hmanual p hp
    by_contra hbad
    obtain ⟨hplain, hnamed⟩ := not_or.mp hbad
    obtain ⟨c, hc, hname⟩ := declaring_candidate hp
    rw [← wrapper_unnamed hc] at hnamed
    obtain ⟨w, hw⟩ := Option.ne_none_iff_exists'.mp hnamed
    have hwname : w.name = name := (wrapper_name hw).trans hname
    have hmem := wrapper_name_mem.mpr ⟨hwname ▸ hmanual, p, c, hwname ▸ hp, hc, hw⟩
    obtain ⟨p', hp', hforwards⟩ := h w hmem
    rw [hwname, hp, Option.some.injEq] at hp'
    rw [← hp'] at hforwards
    exact not_forwards hc hw hplain hforwards
  · intro h w hmem
    obtain ⟨hmanual, p, c, hp, hc, hw⟩ := wrapper_name_mem.mp hmem
    refine ⟨p, hp, ?_⟩
    rcases h w.name hmanual p hp with hplain | hunnamed
    · exact forwards_plain hc hw hplain
    · rw [← wrapper_unnamed hc, hw] at hunnamed
      cases hunnamed

/-- The line `CUresult cuFoo(int a[n == 1]);`. -/
def cutBound : Prototype where
  head := "CUresult cuFoo".toList
  slots := [⟨[], .bracketed "int ".toList ['a'] "[n == 1".toList ']' .none (by decide) (by decide), [],
    by simp [Blank], by simp [Blank]⟩]
  bare := []
  tail := [';']
  opened := by decide
  noParameters := .inl rfl
  closed := by decide
  oneLine := by decide

/-- The bound is cut at its equality sign, and the argument that is passed is the bound's `n`. -/
theorem cutBound_not_sound : ¬Sound [cutBound] [] ['c', 'u'] := by
  intro h
  have hname : (candidate ['c', 'u'] cutBound.line).map Candidate.name = some "cuFoo".toList := by
    decide +kernel
  have hargNames : ((candidate ['c', 'u'] cutBound.line).bind Candidate.wrapper).map
      (fun w => (w.name, w.argNames)) = some ("cuFoo".toList, [['n']]) := by
    decide +kernel
  have hp : declaring [cutBound] ['c', 'u'] "cuFoo".toList = some cutBound := by
    rw [declaring, List.find?_cons, hname]
    simp
  simp only [Option.map_eq_some_iff, Option.bind_eq_some_iff, Prod.mk.injEq] at hargNames
  obtain ⟨w, ⟨c, hc, hw⟩, hwname, hpassed⟩ := hargNames
  have hmem : w ∈ parseMissingPrototypes (protoText [cutBound]) [] ['c', 'u'] :=
    wrapper_name_mem.mpr ⟨List.not_mem_nil, cutBound, c, hwname ▸ hp, hc, hw⟩
  obtain ⟨p, hfound, hforwards⟩ := h w hmem
  rw [hwname, hp, Option.some.injEq] at hfound
  have hdeclared := hforwards.names
  rw [hpassed, ← hfound] at hdeclared
  exact absurd hdeclared (by decide)

/-- No declaration with an equality sign inside it, no wrong wrapper. -/
theorem sound_of_notMem (ps : List Prototype) (manual : List Text) (symbolPrefix : Text)
    (h : ∀ p ∈ ps, ∀ s ∈ p.slots, '=' ∉ s.param.declaration) : Sound ps manual symbolPrefix := by
  rw [sound_iff]
  intro name _ p hp
  by_cases hplain : ∀ s ∈ p.slots, s.param.IsPlain
  · exact .inl hplain
  · obtain ⟨s, hs⟩ := not_forall.mp hplain
    obtain ⟨hs, hbracketed⟩ := Classical.not_imp.mp hs
    have hequals := h p (List.mem_of_find?_eq_some hp) s hs
    exact .inr ⟨s, hs, nameless_bracketed s.param hbracketed hequals⟩

end CudaTrace.Build
