import CudaTrace.Base.Text
import Mathlib.Data.List.Infix

/-!
# Fields of a line

Texts of any content stand in a line between delimiters. A reader lets a field end at the
first closing delimiter; between quotes a backslash takes the next character with it.
-/

namespace CudaTrace.Base

/-- A text that does not break its line. -/
def NoBreak (s : String) : Prop := '\n' ∉ s.toList

instance (s : String) : Decidable (NoBreak s) := inferInstanceAs (Decidable ('\n' ∉ s.toList))

theorem noBreak_ofList {cs : List Char} (h : '\n' ∉ cs) : NoBreak (String.ofList cs) := by
  rw [NoBreak, String.toList_ofList]
  exact h

theorem noBreak_append {s t : String} : NoBreak (s ++ t) ↔ NoBreak s ∧ NoBreak t := by
  simp [NoBreak, String.toList_append, not_or]

theorem NoBreak.append {s t : String} (hs : NoBreak s) (ht : NoBreak t) : NoBreak (s ++ t) :=
  noBreak_append.mpr ⟨hs, ht⟩

/-! ### Delimiters -/

inductive Delim where
  | quotes
  | ticks
  | parens
  deriving DecidableEq

namespace Delim

def opening : Delim → Char
  | quotes => '"'
  | ticks => '\''
  | parens => '('

def closing : Delim → Char
  | quotes => '"'
  | ticks => '\''
  | parens => ')'

def escapes : Delim → Bool
  | quotes | ticks => true
  | parens => false

/-- The content of a field, read from behind its opening; `taken` tells that a backslash
stands before. -/
def read (d : Delim) : Bool → List Char → List Char
  | _, [] => []
  | true, c :: cs => c :: d.read false cs
  | false, c :: cs => if c = d.closing then [] else c :: d.read (d.escapes && c == '\\') cs

/-- The closing delimiter does not occur before the end, and is not taken there. -/
def holds (d : Delim) : Bool → List Char → Bool
  | taken, [] => !taken
  | true, _ :: cs => d.holds false cs
  | false, c :: cs => c != d.closing && d.holds (d.escapes && c == '\\') cs

/-- A reader finds the end of the text if and only if the text does not close its field. -/
theorem read_iff (d : Delim) (taken : Bool) (s rest : List Char) :
    d.read taken (s ++ d.closing :: rest) = s ↔ d.holds taken s = true := by
  induction s generalizing taken with
  | nil =>
    cases taken with
    | false => simp [read, holds]
    | true => simp [read, holds]
  | cons c s ih =>
    cases taken with
    | true => simp [read, holds, ih]
    | false =>
      by_cases hc : c = d.closing
      · simp [read, holds, hc]
      · simp [read, holds, hc, ih]

/-- A reader gets over other characters. -/
theorem holds_append {d : Delim} {s : List Char} (h : ∀ c ∈ s, c ≠ d.closing ∧ c ≠ '\\')
    (rest : List Char) : d.holds false (s ++ rest) = d.holds false rest := by
  induction s with
  | nil => rfl
  | cons c s ih =>
    obtain ⟨hclose, hslash⟩ := h c List.mem_cons_self
    have hrest := ih fun x hx => h x (List.mem_cons_of_mem _ hx)
    have htaken : (d.escapes && c == '\\') = false := by simp [hslash]
    rw [List.cons_append, holds, htaken, hrest]
    simp [hclose]

/-- A text of other characters stands in its field as it is. -/
theorem holds_of_forall {d : Delim} {s : List Char} (h : ∀ c ∈ s, c ≠ d.closing ∧ c ≠ '\\') :
    d.holds false s = true := by
  have hend := holds_append h []
  rwa [List.append_nil] at hend

/-- Tokens that a reader gets over without ending the field. -/
theorem holds_flatten {d : Delim} {tokens : List (List Char)}
    (h : ∀ t ∈ tokens, ∀ rest, d.holds false (t ++ rest) = d.holds false rest) :
    d.holds false tokens.flatten = true := by
  induction tokens with
  | nil => rfl
  | cons t tokens ih =>
    rw [List.flatten_cons, h t List.mem_cons_self]
    exact ih fun x hx => h x (List.mem_cons_of_mem _ hx)

end Delim

/-! ### Texts with quoted parts -/

/-- Where a reader of quotes stands. -/
inductive QuoteMode where
  | outside
  | inside
  | taken
  deriving DecidableEq

def QuoteMode.next : QuoteMode → Char → QuoteMode
  | outside, c => if c = '"' then inside else outside
  | inside, c => if c = '"' then outside else if c = '\\' then taken else inside
  | taken, _ => inside

/-- A text on one line each of whose quotations ends within it. -/
structure Tidy (cs : List Char) : Prop where
  noBreak : '\n' ∉ cs
  balanced : cs.foldl QuoteMode.next .outside = .outside

namespace Tidy
variable {cs ds : List Char}

theorem nil : Tidy [] := ⟨List.not_mem_nil, rfl⟩

theorem append (h : Tidy cs) (h' : Tidy ds) : Tidy (cs ++ ds) := by
  refine ⟨fun hmem => ?_, ?_⟩
  · rcases List.mem_append.mp hmem with hmem | hmem
    · exact h.noBreak hmem
    · exact h'.noBreak hmem
  · rw [List.foldl_append, h.balanced, h'.balanced]

/-- A text without quotes. -/
theorem of_forall (h : ∀ c ∈ cs, c ≠ '\n' ∧ c ≠ '"') : Tidy cs := by
  refine ⟨fun hmem => (h _ hmem).1 rfl, ?_⟩
  induction cs with
  | nil => rfl
  | cons c cs ih =>
    have hnext : QuoteMode.next .outside c = .outside :=
      if_neg (h c List.mem_cons_self).2
    rw [List.foldl_cons, hnext]
    exact ih fun x hx => h x (List.mem_cons_of_mem _ hx)

/-- Tokens that a reader inside a quotation comes out of inside it, between quotes. -/
theorem quoted {tokens : List (List Char)}
    (h : ∀ t ∈ tokens, '\n' ∉ t ∧ t.foldl QuoteMode.next .inside = .inside) :
    Tidy ('"' :: (tokens.flatten ++ ['"'])) := by
  have hinside : tokens.flatten.foldl QuoteMode.next .inside = .inside := by
    induction tokens with
    | nil => rfl
    | cons t tokens ih =>
      rw [List.flatten_cons, List.foldl_append, (h t List.mem_cons_self).2]
      exact ih fun x hx => h x (List.mem_cons_of_mem _ hx)
  refine ⟨fun hmem => ?_, ?_⟩
  · have hquote : '\n' ∉ ['"'] := by decide
    rcases List.mem_cons.mp hmem with hmem | hmem
    · cases hmem
    · rcases List.mem_append.mp hmem with hmem | hmem
      · obtain ⟨t, ht, hmem⟩ := List.mem_flatten.mp hmem
        exact (h t ht).1 hmem
      · exact hquote hmem
  · rw [List.foldl_cons, List.foldl_append]
    change ['"'].foldl QuoteMode.next (tokens.flatten.foldl QuoteMode.next .inside) = .outside
    rw [hinside]
    rfl

end Tidy

/-! ### Pieces of a line -/

/-- A line is put together of fixed texts, of fields and of texts that quote by themselves. -/
inductive Piece where
  | text (s : String) (h : NoBreak s := by decide)
  | field (d : Delim) (s : String)
  | nested (s : String) (h : Tidy s.toList)

namespace Piece

def render : Piece → String
  | text s _ => s
  | field d s => d.opening.toString ++ s ++ d.closing.toString
  | nested s _ => s

def field? : Piece → Option (Delim × String)
  | field d s => some (d, s)
  | text _ _ | nested _ _ => none

end Piece

def renderLine (pieces : List Piece) : String := String.join (pieces.map Piece.render)

/-- One line, in which every field ends where its text ends. -/
structure Unambiguous (pieces : List Piece) : Prop where
  oneLine : NoBreak (renderLine pieces)
  ends : ∀ before d s after, pieces = before ++ Piece.field d s :: after →
    d.read false (s.toList ++ d.closing :: (renderLine after).toList) = s.toList
  nested : ∀ s h, Piece.nested s h ∈ pieces → s.toList.foldl QuoteMode.next .outside = .outside

/-- The text neither breaks the line nor ends its field. -/
def Clean (f : Delim × String) : Prop := NoBreak f.2 ∧ f.1.holds false f.2.toList = true

instance (f : Delim × String) : Decidable (Clean f) :=
  inferInstanceAs (Decidable (NoBreak f.2 ∧ f.1.holds false f.2.toList = true))

theorem noBreak_render_iff (p : Piece) : NoBreak p.render ↔ ∀ f, p.field? = some f → NoBreak f.2 := by
  cases p with
  | text s h => simpa [Piece.render, Piece.field?] using h
  | field d s =>
    have hopen : NoBreak d.opening.toString := by cases d <;> decide
    have hclose : NoBreak d.closing.toString := by cases d <;> decide
    have hrender : NoBreak (Piece.field d s).render ↔ NoBreak s := by
      rw [Piece.render, noBreak_append, noBreak_append]
      exact ⟨fun h => h.1.2, fun h => ⟨⟨hopen, h⟩, hclose⟩⟩
    rw [hrender]
    simp [Piece.field?]
  | nested s h => simpa [Piece.render, Piece.field?, NoBreak] using h.noBreak

theorem renderLine_cons (p : Piece) (pieces : List Piece) :
    renderLine (p :: pieces) = p.render ++ renderLine pieces := by
  simp [renderLine, String.join_cons]

/-- A line is unambiguous if and only if the texts in its fields are clean. -/
theorem unambiguous_iff (pieces : List Piece) :
    Unambiguous pieces ↔ ∀ f ∈ pieces.filterMap Piece.field?, Clean f := by
  have hbreak : NoBreak (renderLine pieces) ↔ ∀ f ∈ pieces.filterMap Piece.field?, NoBreak f.2 := by
    induction pieces with
    | nil => simp [renderLine, NoBreak]
    | cons p pieces ih =>
      rw [renderLine_cons, noBreak_append, ih, noBreak_render_iff]
      cases hp : p.field? with
      | none => simp [List.filterMap_cons_none hp]
      | some f => simp [List.filterMap_cons_some hp]
  have hends : ∀ d s, Piece.field d s ∈ pieces ↔ (d, s) ∈ pieces.filterMap Piece.field? := by
    intro d s
    rw [List.mem_filterMap]
    refine ⟨fun h => ⟨_, h, rfl⟩, fun ⟨p, hp, he⟩ => ?_⟩
    cases p with
    | text s' h' => cases he
    | nested s' h' => cases he
    | field d' s' =>
      cases he
      exact hp
  refine ⟨fun h f hf => ?_, fun h => ?_⟩
  · obtain ⟨d, s⟩ := f
    obtain ⟨before, after, hsplit⟩ := List.append_of_mem ((hends d s).mpr hf)
    exact ⟨hbreak.mp h.oneLine _ hf, (d.read_iff false _ _).mp (h.ends _ _ _ _ hsplit)⟩
  · refine ⟨hbreak.mpr fun f hf => (h f hf).1, fun before d s after hsplit => ?_, fun s ht _ =>
      ht.balanced⟩
    have hmem : Piece.field d s ∈ pieces := by
      rw [hsplit]
      exact List.mem_append_right _ List.mem_cons_self
    exact (d.read_iff false _ _).mpr (h _ ((hends d s).mp hmem)).2

end CudaTrace.Base
