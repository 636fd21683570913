import CudaTrace.Base.Nesting
import CudaTrace.Base.Trim

/-!
# Cleaning up a function graph (hook/ptrace.rs)

The calls of a trace text, indented by their nesting depth, without headers, separators and
columns. A part of a text is indented by the calls that the part itself opens.
-/

namespace CudaTrace.Fgraph
open CudaTrace.Base CudaTrace.Base.CallTree

/-! ### The function -/

/-- A line of dashes, as it stands around a context switch. -/
def separator : List Char := List.replicate 42 '-'

/-- `str::strip_prefix` for a space, where there is one. -/
def stripSpace : List Char → List Char
  | ' ' :: rest => rest
  | rest => rest

/-- What the loop writes of a line, before it is indented. -/
def lineBody (line : List Char) : Option (List Char) :=
  let trimmedStart := line.dropWhile isWhitespace
  if ['#'].isPrefixOf trimmedStart then none
  else if separator.isPrefixOf trimmedStart then none
  else if ['=', '>'] <:+: line then none
  else
    let body :=
      match line.dropWhile (· ≠ '|') with
      | [] => trimmed trimmedStart
      | _ :: rest => trimmed (stripSpace rest)
    if body = [] then none else some body

/-- The loop over the lines, with the depth before each. -/
def sanitizeLines : ℕ → List (List Char) → List Char
  | _, [] => []
  | depth, line :: rest =>
    match lineBody line with
    | none => sanitizeLines depth rest
    | some body =>
      let depth := if ['}'].isPrefixOf body then depth - 1 else depth
      List.replicate depth '\t' ++ body ++ '\n' ::
        sanitizeLines (if ['{'].isSuffixOf body then depth + 1 else depth) rest

def sanitizeFgraphTraceOutput (graph : String) : String :=
  let out := sanitizeLines 0 (linesAux [] graph.toList)
  if out = [] then graph else String.ofList out

/-! ### Trace texts -/

def isOrdinary (c : Char) : Bool := c.isAlphanum || c = '_' || c = '.' || c = '$'

/-- The name of a kernel function, with its module where it is not in the kernel itself. -/
structure FunctionName where
  symbol : List Char
  moduleName : Option (List Char)
  named : symbol ≠ []
  ordinary : ∀ c ∈ symbol ++ moduleName.getD [], isOrdinary c = true

def FunctionName.text (f : FunctionName) : List Char :=
  f.symbol ++
    match f.moduleName with
    | none => []
    | some name => [' ', '['] ++ name ++ [']']

/-- Calls whose closing line may repeat the name. -/
abbrev TraceCall := CallTree FunctionName (Option FunctionName) FunctionName
abbrev TraceEvent := CallEvent FunctionName (Option FunctionName) FunctionName

def bodyText : TraceEvent → List Char
  | .opened f => f.text ++ ['(', ')', ' ', '{']
  | .leaf f => f.text ++ ['(', ')', ';']
  | .closed none => ['}']
  | .closed (some f) => ['}', ' ', '/', '*', ' '] ++ f.text ++ [' ', '*', '/']

/-- The processor and the duration in front of the bar, and the spaces after it. -/
structure Columns where
  lead : ℕ
  cpu : List Char
  duration : List Char
  pad : ℕ
  numbered : cpu ≠ []
  digits : ∀ c ∈ cpu, c.isDigit = true
  timed : ∀ c ∈ duration, c.isDigit = true ∨ c ∈ [' ', '.', 'u', 's', '+', '!', '#', '*', '@', '$']

def Columns.text (c : Columns) : List Char :=
  List.replicate c.lead ' ' ++ c.cpu ++ [')'] ++ c.duration

inductive TraceLine where
  | call (columns : Columns) (event : TraceEvent)
  | header (lead : ℕ) (text : List Char) (unbroken : '\n' ∉ text)
  | rule (lead extra : ℕ)
  | switch (before after : List Char) (unbroken : '\n' ∉ before ++ after)
  | blank (text : List Char) (unbroken : '\n' ∉ text) (white : ∀ c ∈ text, isWhitespace c = true)

namespace TraceLine

def text : TraceLine → List Char
  | call columns event =>
    columns.text ++ '|' :: (List.replicate columns.pad ' ' ++ bodyText event)
  | header lead text _ => List.replicate lead ' ' ++ '#' :: text
  | rule lead extra => List.replicate lead ' ' ++ separator ++ List.replicate extra '-'
  | switch before after _ => before ++ ['=', '>'] ++ after
  | blank text _ _ => text

def event? : TraceLine → Option TraceEvent
  | call _ event => some event
  | _ => none

end TraceLine

/-- The calls of a text, line by line. -/
def callLines (ls : List TraceLine) : List TraceEvent := ls.filterMap TraceLine.event?

def traceText (ls : List TraceLine) : String := String.ofList (unlines (ls.map TraceLine.text))

/-- A call line of the output. -/
def indented (depth : ℕ) (event : TraceEvent) : List Char :=
  List.replicate depth '\t' ++ bodyText event

/-! ### The characters of a line -/

theorem isOrdinary_graphic {c : Char} (h : isOrdinary c = true) :
    0x20 < c.toNat ∧ c.toNat < 0x7f := by
  unfold isOrdinary at h
  simp only [Bool.or_eq_true, decide_eq_true_eq] at h
  rcases h with ((h | rfl) | rfl) | rfl
  · exact isAlphanum_graphic h
  · decide
  · decide
  · decide

theorem isDigit_ordinary {c : Char} (h : c.isDigit = true) : isOrdinary c = true := by
  simp [isOrdinary, Char.isAlphanum, h]

theorem isWhitespace_ordinary {c : Char} (h : isOrdinary c = true) : isWhitespace c = false :=
  isWhitespace_graphic (isOrdinary_graphic h).1 (isOrdinary_graphic h).2

theorem functionName_cons (f : FunctionName) :
    ∃ c cs, f.text = c :: cs ∧ isOrdinary c = true := by
  cases h : f.symbol with
  | nil => exact absurd h f.named
  | cons c cs =>
    have hc := f.ordinary c (by rw [h]; simp)
    unfold FunctionName.text
    rw [h]
    exact ⟨c, _, rfl, hc⟩

theorem mem_functionName {f : FunctionName} {c : Char} (h : c ∈ f.text) :
    isOrdinary c = true ∨ c ∈ [' ', '[', ']'] := by
  have hordinary := f.ordinary c
  unfold FunctionName.text at h
  cases hmodule : f.moduleName with
  | none =>
    rw [hmodule] at h hordinary
    left
    simpa using hordinary (by simpa using h)
  | some name =>
    rw [hmodule] at h hordinary
    simp only [List.mem_append, List.mem_cons, List.not_mem_nil, or_false] at h hordinary ⊢
    simp only [Option.getD_some] at hordinary
    tauto

theorem mem_bodyText {e : TraceEvent} {c : Char} (h : c ∈ bodyText e) :
    isOrdinary c = true ∨ c ∈ [' ', '[', ']', '(', ')', '{', '}', ';', '/', '*'] := by
  cases e with
  | opened f =>
    have hname := @mem_functionName f c
    simp only [bodyText, List.mem_append, List.mem_cons, List.not_mem_nil, or_false] at h hname ⊢
    tauto
  | leaf f =>
    have hname := @mem_functionName f c
    simp only [bodyText, List.mem_append, List.mem_cons, List.not_mem_nil, or_false] at h hname ⊢
    tauto
  | closed tail =>
    cases tail with
    | none =>
      simp only [bodyText, List.mem_cons, List.not_mem_nil, or_false] at h ⊢
      tauto
    | some f =>
      have hname := @mem_functionName f c
      simp only [bodyText, List.mem_append, List.mem_cons, List.not_mem_nil, or_false] at h hname ⊢
      tauto

theorem notMem_bodyText (e : TraceEvent) {c : Char} (hc : c ∈ ['=', '|', '\n', '\r']) :
    c ∉ bodyText e := by
  have hother : ∀ c ∈ ['=', '|', '\n', '\r'],
      ¬(isOrdinary c = true ∨ c ∈ [' ', '[', ']', '(', ')', '{', '}', ';', '/', '*']) := by decide
  intro h
  exact hother c hc (mem_bodyText h)

/-- A body starts with a name, or closes a call. -/
theorem bodyText_cons (e : TraceEvent) :
    ∃ c cs, bodyText e = c :: cs ∧ isWhitespace c = false ∧
      (c = '}' ↔ ∃ tail, e = .closed tail) := by
  have hbrace : ∀ {c : Char}, isOrdinary c = true → c ≠ '}' := by
    intro c hc he
    rw [he] at hc
    revert hc
    decide
  cases e with
  | opened f =>
    obtain ⟨c, cs, hname, hc⟩ := functionName_cons f
    have htext : bodyText (.opened f) = c :: (cs ++ ['(', ')', ' ', '{']) := by
      rw [bodyText, hname]
      rfl
    exact ⟨c, _, htext, isWhitespace_ordinary hc, by simp [hbrace hc]⟩
  | leaf f =>
    obtain ⟨c, cs, hname, hc⟩ := functionName_cons f
    have htext : bodyText (.leaf f) = c :: (cs ++ ['(', ')', ';']) := by
      rw [bodyText, hname]
      rfl
    exact ⟨c, _, htext, isWhitespace_ordinary hc, by simp [hbrace hc]⟩
  | closed tail =>
    cases tail with
    | none => exact ⟨'}', [], rfl, by decide, by simp⟩
    | some f => exact ⟨'}', _, rfl, by decide, by simp⟩

/-- A body ends with a brace exactly when it opens a call. -/
theorem bodyText_concat (e : TraceEvent) :
    ∃ cs c, bodyText e = cs ++ [c] ∧ isWhitespace c = false ∧ (c = '{' ↔ ∃ f, e = .opened f) := by
  cases e with
  | opened f =>
    have htext : bodyText (.opened f) = f.text ++ ['(', ')', ' '] ++ ['{'] := by
      rw [bodyText, List.append_assoc]
      rfl
    exact ⟨_, '{', htext, by decide, by simp⟩
  | leaf f =>
    have htext : bodyText (.leaf f) = f.text ++ ['(', ')'] ++ [';'] := by
      rw [bodyText, List.append_assoc]
      rfl
    exact ⟨_, ';', htext, by decide, by simp⟩
  | closed tail =>
    cases tail with
    | none => exact ⟨[], '}', rfl, by decide, by simp⟩
    | some f =>
      have htext : bodyText (.closed (some f)) =
          ['}', ' ', '/', '*', ' '] ++ f.text ++ [' ', '*'] ++ ['/'] := by
        rw [bodyText, List.append_assoc, List.append_assoc, List.append_assoc]
        rfl
      exact ⟨_, '/', htext, by decide, by simp⟩

theorem solid_bodyText (e : TraceEvent) : Solid (bodyText e) := by
  obtain ⟨c, cs, hfirst, hc, _⟩ := bodyText_cons e
  obtain ⟨ds, d, hlast, hd, _⟩ := bodyText_concat e
  constructor
  · intro x hx
    rw [hfirst, List.head?_cons, Option.mem_some_iff] at hx
    rwa [← hx]
  · intro x hx
    rw [hlast, List.getLast?_concat, Option.mem_some_iff] at hx
    rwa [← hx]

theorem bodyText_ne_nil (e : TraceEvent) : bodyText e ≠ [] := by
  obtain ⟨c, cs, hfirst, _⟩ := bodyText_cons e
  rw [hfirst]
  exact List.cons_ne_nil c cs

theorem closes_bodyText (e : TraceEvent) :
    ['}'].isPrefixOf (bodyText e) = true ↔ ∃ tail, e = .closed tail := by
  obtain ⟨c, cs, hfirst, _, hbrace⟩ := bodyText_cons e
  rw [hfirst, ← hbrace]
  show ('}' == c && true) = true ↔ c = '}'
  rw [Bool.and_true, beq_iff_eq]
  exact eq_comm

theorem opens_bodyText (e : TraceEvent) :
    ['{'].isSuffixOf (bodyText e) = true ↔ ∃ f, e = .opened f := by
  obtain ⟨cs, c, hlast, _, hbrace⟩ := bodyText_concat e
  rw [hlast, ← hbrace, List.isSuffixOf, List.reverse_append]
  show ('{' == c && true) = true ↔ c = '{'
  rw [Bool.and_true, beq_iff_eq]
  exact eq_comm

/-! ### What each line gives -/

theorem isWhitespace_spaces (n : ℕ) : ∀ c ∈ List.replicate n ' ', isWhitespace c = true := by
  intro c hc
  rw [List.eq_of_mem_replicate hc]
  decide

theorem notMem_columns (columns : Columns) {c : Char} (hc : c ∈ ['=', '|', '\n', '\r']) :
    c ∉ columns.text := by
  have hother : ∀ c ∈ ['=', '|', '\n', '\r'], ¬c.isDigit = true ∧
      c ∉ [' ', ')', '.', 'u', 's', '+', '!', '#', '*', '@', '$'] := by decide
  obtain ⟨hdigit, hmark⟩ := hother c hc
  simp only [List.mem_cons, List.not_mem_nil, or_false, not_or] at hmark
  intro h
  simp only [Columns.text, List.mem_append, List.mem_replicate, List.mem_singleton] at h
  rcases h with ((h | h) | h) | h
  · exact hmark.1 h.2
  · exact hdigit (columns.digits c h)
  · exact hmark.2.1 h
  · have hduration := columns.timed c h
    simp only [List.mem_cons, List.not_mem_nil, or_false] at hduration
    tauto

theorem notMem_call (columns : Columns) (e : TraceEvent) {c : Char}
    (hc : c ∈ ['=', '\n', '\r']) : c ∉ (TraceLine.call columns e).text := by
  have hbar : ∀ c ∈ ['=', '\n', '\r'], c ≠ '|' ∧ c ≠ ' ' ∧ c ∈ ['=', '|', '\n', '\r'] := by decide
  obtain ⟨hne, hspace, hother⟩ := hbar c hc
  have hcolumns := notMem_columns columns hother
  have hbody := notMem_bodyText e hother
  simp only [TraceLine.text, List.mem_append, List.mem_cons, List.mem_replicate]
  tauto

theorem trimmed_stripSpace (e : TraceEvent) (n : ℕ) :
    trimmed (stripSpace (List.replicate n ' ' ++ bodyText e)) = bodyText e := by
  cases n with
  | zero =>
    obtain ⟨c, cs, hfirst, hc, _⟩ := bodyText_cons e
    have hplain : stripSpace (bodyText e) = bodyText e := by
      rw [hfirst]
      unfold stripSpace
      split
      · rename_i he
        rw [(List.cons.inj he).1] at hc
        exact absurd hc (by decide)
      · rfl
    rw [List.replicate_zero, List.nil_append, hplain, trimmed_solid (solid_bodyText e)]
  | succ n =>
    have hpadded := @trimmed_append _ _ [] (isWhitespace_spaces n) (solid_bodyText e)
      (bodyText_ne_nil e) (by simp)
    rwa [List.append_nil] at hpadded

/-- The body is what stands behind the bar. -/
theorem lineBody_call (columns : Columns) (e : TraceEvent) :
    lineBody (TraceLine.call columns e).text = some (bodyText e) := by
  obtain ⟨d, ds, hcpu⟩ := List.exists_cons_of_ne_nil columns.numbered
  have hd : d.isDigit = true := columns.digits d (by rw [hcpu]; exact List.mem_cons_self)
  have hstart : (TraceLine.call columns e).text.dropWhile isWhitespace =
      d :: (ds ++ [')'] ++ columns.duration ++
        '|' :: (List.replicate columns.pad ' ' ++ bodyText e)) := by
    have htext : (TraceLine.call columns e).text = List.replicate columns.lead ' ' ++
        d :: (ds ++ [')'] ++ columns.duration ++
          '|' :: (List.replicate columns.pad ' ' ++ bodyText e)) := by
      simp [TraceLine.text, Columns.text, hcpu]
    rw [htext]
    apply dropWhile_blank_append (isWhitespace_spaces _)
    intro c hc
    rw [List.head?_cons, Option.mem_some_iff] at hc
    rw [← hc]
    exact isWhitespace_ordinary (isDigit_ordinary hd)
  have hmark : d ≠ '#' ∧ d ≠ '-' := by
    constructor
    · intro he
      rw [he] at hd
      revert hd
      decide
    · intro he
      rw [he] at hd
      revert hd
      decide
  have hequals := notMem_call columns e (c := '=') (by decide)
  have hbar : (TraceLine.call columns e).text.dropWhile (· ≠ '|') =
      '|' :: (List.replicate columns.pad ' ' ++ bodyText e) := by
    have hcolumns : ∀ c ∈ columns.text, decide (c ≠ '|') = true := by
      intro c hc
      have hne := ne_of_mem_of_not_mem hc (notMem_columns columns (c := '|') (by decide))
      exact decide_eq_true hne
    rw [TraceLine.text, List.dropWhile_append_of_pos hcolumns, List.dropWhile_cons]
    rfl
  have hbody := trimmed_stripSpace e columns.pad
  unfold lineBody
  simp only [hstart, hbar]
  rw [if_neg, if_neg, if_neg, hbody, if_neg (bodyText_ne_nil e)]
  · intro hpattern
    exact hequals (hpattern.subset List.mem_cons_self)
  · show ¬('-' == d && _) = true
    rw [beq_eq_false_iff_ne.mpr (Ne.symm hmark.2)]
    exact Bool.false_ne_true
  · show ¬('#' == d && _) = true
    rw [beq_eq_false_iff_ne.mpr (Ne.symm hmark.1)]
    exact Bool.false_ne_true

theorem lineBody_inserted {line : TraceLine} (h : line.event? = none) :
    lineBody (dropCarriageReturn line.text) = none := by
  cases line with
  | call columns event => cases h
  | header lead text unbroken =>
    have hstart : (List.replicate lead ' ' ++ '#' :: dropCarriageReturn text).dropWhile isWhitespace =
        '#' :: dropCarriageReturn text :=
      dropWhile_blank_append (isWhitespace_spaces lead) (by simp; decide)
    unfold lineBody
    rw [TraceLine.text, dropCarriageReturn_append _ _ (by decide)]
    simp only [hstart]
    exact if_pos rfl
  | rule lead extra =>
    have hplain : '\r' ∉ (TraceLine.rule lead extra).text := by
      simp [TraceLine.text, separator]
    have htext : (TraceLine.rule lead extra).text =
        List.replicate lead ' ' ++ (separator ++ List.replicate extra '-') := by
      rw [TraceLine.text, List.append_assoc]
    have hstart : (TraceLine.rule lead extra).text.dropWhile isWhitespace =
        separator ++ List.replicate extra '-' := by
      rw [htext]
      exact dropWhile_blank_append (isWhitespace_spaces lead) (by simp [separator]; decide)
    have hrule : separator.isPrefixOf (separator ++ List.replicate extra '-') = true :=
      List.isPrefixOf_iff_prefix.mpr (List.prefix_append _ _)
    unfold lineBody
    rw [dropCarriageReturn_of_notMem hplain]
    simp only [hstart, hrule, if_true]
    exact if_neg Bool.false_ne_true
  | switch before after unbroken =>
    have harrow : ['=', '>'] <:+: dropCarriageReturn (before ++ ['=', '>'] ++ after) :=
      (infix_dropCarriageReturn (by decide)).mpr ⟨before, after, rfl⟩
    unfold lineBody
    rw [TraceLine.text]
    simp only [harrow, if_true]
    split_ifs <;> rfl
  | blank text unbroken white =>
    have hwhite : ∀ c ∈ dropCarriageReturn text, isWhitespace c = true :=
      fun c hc => white c (mem_dropCarriageReturn hc)
    have hother : ∀ c, isWhitespace c = false → c ∉ dropCarriageReturn text := by
      intro c hc hmem
      rw [hwhite c hmem] at hc
      cases hc
    have hstart : (dropCarriageReturn text).dropWhile isWhitespace = [] := by
      have hempty := @dropWhile_blank_append _ [] hwhite (by simp)
      rwa [List.append_nil] at hempty
    have hbar : (dropCarriageReturn text).dropWhile (· ≠ '|') = [] := by
      have hne : ∀ c ∈ dropCarriageReturn text, decide (c ≠ '|') = true := by
        intro c hc
        exact decide_eq_true (ne_of_mem_of_not_mem hc (hother '|' (by decide)))
      have hempty := @List.dropWhile_append_of_pos _ _ (dropCarriageReturn text) [] hne
      rwa [List.append_nil, List.dropWhile_nil] at hempty
    unfold lineBody
    rw [TraceLine.text]
    simp only [hstart, hbar]
    rw [if_neg (by decide), if_neg (by decide), if_neg]
    · rfl
    · intro hpattern
      exact hother '=' (by decide) (hpattern.subset List.mem_cons_self)

/-! ### The loop -/

theorem notMem_break (line : TraceLine) : '\n' ∉ line.text := by
  cases line with
  | call columns event => exact notMem_call columns event (by decide)
  | header lead text unbroken => simpa [TraceLine.text] using unbroken
  | rule lead extra => simp [TraceLine.text, separator]
  | switch before after unbroken => simpa [TraceLine.text] using unbroken
  | blank text unbroken white => exact unbroken

theorem shownDepth_eq (depth : ℕ) (e : TraceEvent) :
    (if ['}'].isPrefixOf (bodyText e) then depth - 1 else depth) = e.lineDepth depth := by
  cases e with
  | opened f =>
    apply if_neg
    intro h
    obtain ⟨tail, he⟩ := (closes_bodyText _).mp h
    cases he
  | leaf f =>
    apply if_neg
    intro h
    obtain ⟨tail, he⟩ := (closes_bodyText _).mp h
    cases he
  | closed tail => exact if_pos ((closes_bodyText _).mpr ⟨tail, rfl⟩)

theorem nextDepth_eq (depth : ℕ) (e : TraceEvent) :
    (if ['{'].isSuffixOf (bodyText e) then e.lineDepth depth + 1 else e.lineDepth depth) =
      e.nextDepth depth := by
  cases e with
  | opened f => exact if_pos ((opens_bodyText _).mpr ⟨f, rfl⟩)
  | leaf f =>
    apply if_neg
    intro h
    obtain ⟨g, he⟩ := (opens_bodyText _).mp h
    cases he
  | closed tail =>
    apply if_neg
    intro h
    obtain ⟨g, he⟩ := (opens_bodyText _).mp h
    cases he

/-- The loop writes the calls with the depths that the counter finds. -/
theorem sanitizeLines_eq (depth : ℕ) (ls : List TraceLine) :
    sanitizeLines depth (ls.map fun line => dropCarriageReturn line.text) =
      unlines (List.zipWith indented (indents depth (callLines ls)) (callLines ls)) := by
  induction ls generalizing depth with
  | nil => rfl
  | cons line ls ih =>
    cases hline : line.event? with
    | none =>
      have hcalls : callLines (line :: ls) = callLines ls := List.filterMap_cons_none hline
      rw [hcalls, List.map_cons, sanitizeLines, lineBody_inserted hline]
      exact ih depth
    | some e =>
      cases line with
      | call columns event =>
        cases hline
        have hcalls : callLines (.call columns e :: ls) = e :: callLines ls := rfl
        have hplain := dropCarriageReturn_of_notMem (notMem_call columns e (c := '\r') (by decide))
        rw [hcalls, List.map_cons, sanitizeLines, hplain, lineBody_call]
        simp only [shownDepth_eq, nextDepth_eq]
        rw [ih (e.nextDepth depth), indents, List.zipWith_cons_cons]
        simp [unlines, indented]
      | header => cases hline
      | rule => cases hline
      | switch => cases hline
      | blank => cases hline

theorem sanitize_traceText {ls : List TraceLine} (hcalls : callLines ls ≠ []) :
    sanitizeFgraphTraceOutput (traceText ls) =
      String.ofList (unlines (List.zipWith indented (indents 0 (callLines ls)) (callLines ls))) := by
  have hbreaks : ∀ l ∈ ls.map TraceLine.text, '\n' ∉ l := by
    intro l hl
    obtain ⟨line, _, rfl⟩ := List.mem_map.mp hl
    exact notMem_break line
  have hloop : sanitizeLines 0 (linesAux [] (traceText ls).toList) =
      unlines (List.zipWith indented (indents 0 (callLines ls)) (callLines ls)) := by
    rw [traceText, String.toList_ofList, linesAux_unlines hbreaks, List.map_map]
    exact sanitizeLines_eq 0 ls
  have hwritten : unlines (List.zipWith indented (indents 0 (callLines ls)) (callLines ls)) ≠ [] := by
    obtain ⟨e, es, he⟩ := List.exists_cons_of_ne_nil hcalls
    rw [he, indents, List.zipWith_cons_cons]
    simp [unlines]
  unfold sanitizeFgraphTraceOutput
  rw [hloop]
  exact if_neg hwritten

/-- A text that renders a forest is cleaned up to the calls at their depths, and a run of its
lines to its calls, each behind those that the run opened and has not closed. -/
theorem sanitize_renders (forest : List TraceCall) (ls : List TraceLine)
    (h : callLines ls = forestEvents forest) :
    (forest ≠ [] → sanitizeFgraphTraceOutput (traceText ls) =
      String.ofList (unlines (forestLines (.ofLines indented) 0 forest))) ∧
    ∀ before part after, ls = before ++ part ++ after → callLines part ≠ [] →
      sanitizeFgraphTraceOutput (traceText part) =
        String.ofList (unlines (List.zipWith indented
          ((List.range' (callLines before).length (callLines part).length).map
            (openAt (forestSpans 0 forest) (callLines before).length))
          (callLines part))) := by
  constructor
  · intro hforest
    obtain ⟨tree, trees, rfl⟩ := List.exists_cons_of_ne_nil hforest
    have hcalls : callLines ls ≠ [] := by
      rw [h, forestEvents]
      exact List.append_ne_nil_of_left_ne_nil (events_ne_nil tree) _
    rw [sanitize_traceText hcalls, h, forestLines_ofLines]
  · intro before part after hls hcalls
    have hevents : forestEvents forest =
        callLines before ++ callLines part ++ callLines after := by
      rw [← h, hls]
      simp [callLines]
    rw [sanitize_traceText hcalls, indents_part hevents]

def ioctlName : FunctionName :=
  ⟨['i', 'o', 'c', 't', 'l'], none, by decide, by decide⟩

def fdgetName : FunctionName :=
  ⟨['f', 'd', 'g', 'e', 't'], none, by decide, by decide⟩

def shortColumns : Columns :=
  ⟨2, ['4'], [' ', '0', '.', '3', ' ', 'u', 's', ' '], 1, by decide, by decide, by decide⟩

/-- A call with one call inside, behind a header and around a switch of the task. -/
def switchedTrace : List TraceLine :=
  [.header 0 [' ', 't', 'r', 'a', 'c', 'e', 'r'] (by decide), .call shortColumns (.opened ioctlName),
   .rule 1 0, .switch ['a', ' '] [' ', 'b'] (by decide), .call shortColumns (.leaf fdgetName),
   .blank [' '] (by decide) (by decide), .call shortColumns (.closed none)]

theorem sanitize_switchedTrace :
    sanitizeFgraphTraceOutput (traceText switchedTrace) = "ioctl() \x7b\n\tfdget();\n\x7d\n" ∧
      sanitizeFgraphTraceOutput (traceText (switchedTrace.drop 3)) = "fdget();\n\x7d\n" := by
  have hcalls : callLines switchedTrace =
      forestEvents [.span ioctlName none [.leaf fdgetName]] := rfl
  obtain ⟨hwhole, hpart⟩ :=
    sanitize_renders [.span ioctlName none [.leaf fdgetName]] switchedTrace hcalls
  constructor
  · rw [hwhole (List.cons_ne_nil _ _)]
    rfl
  · rw [hpart (switchedTrace.take 3) (switchedTrace.drop 3) [] (by simp) (List.cons_ne_nil _ _)]
    rfl

end CudaTrace.Fgraph
