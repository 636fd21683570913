import CudaTrace.Base.Text
import Mathlib.Data.List.DropRight
import Mathlib.Data.List.Nodup
import Mathlib.Tactic.Linarith

/-!
# JSON texts

Syntax trees of JSON, a reader of the JSON grammar, and the rules by which a
text that was put together from parts reads back. The reader is a function, so a
text denotes at most one tree.
-/

namespace CudaTrace.Base

/-- A JSON value; `num m e` is `m * 10 ^ e`. -/
inductive Json where
  | null
  | bool (b : Bool)
  | num (mantissa exponent : ℤ)
  | str (s : String)
  | arr (xs : List Json)
  | obj (members : List (String × Json))

namespace Json

/-- No object of the tree has two members of the same name. -/
inductive UniqueKeys : Json → Prop where
  | null : UniqueKeys null
  | bool (b : Bool) : UniqueKeys (bool b)
  | num (m e : ℤ) : UniqueKeys (num m e)
  | str (s : String) : UniqueKeys (str s)
  | arr {xs : List Json} (h : ∀ x ∈ xs, UniqueKeys x) : UniqueKeys (arr xs)
  | obj {ms : List (String × Json)} (hkeys : (ms.map Prod.fst).Nodup)
      (h : ∀ m ∈ ms, UniqueKeys m.2) : UniqueKeys (obj ms)

theorem uniqueKeys_obj_iff {ms : List (String × Json)} (h : ∀ m ∈ ms, UniqueKeys m.2) :
    UniqueKeys (obj ms) ↔ (ms.map Prod.fst).Nodup := by
  constructor
  · intro hu
    cases hu with
    | obj hkeys _ => exact hkeys
  · intro hkeys
    exact .obj hkeys h

/-! ### The reader -/

def isSpace (c : Char) : Bool := c = ' ' || c = '\t' || c = '\n' || c = '\r'

def skipSpace (cs : List Char) : List Char := cs.dropWhile isSpace

/-- Four hexadecimal digits. -/
def hex4 : List Char → Option (ℕ × List Char)
  | a :: b :: c :: d :: rest => (hexDigits 0 [a, b, c, d]).map fun u => (u, rest)
  | _ => none

theorem hex4_append {cs tail : List Char} {u : ℕ} (rest : List Char) (h : hex4 cs = some (u, tail)) :
    hex4 (cs ++ rest) = some (u, tail ++ rest) := by
  match cs with
  | [] | [_] | [_, _] | [_, _, _] => simp [hex4] at h
  | a :: b :: c :: d :: cs =>
    simp only [hex4, Option.map_eq_some_iff, Prod.mk.injEq] at h
    obtain ⟨v, hv, rfl, rfl⟩ := h
    simp [hex4, hv]

/-- The character that a one letter escape stands for. -/
def unescape (c : Char) : Option Char :=
  if c = '"' then some '"'
  else if c = '\\' then some '\\'
  else if c = '/' then some '/'
  else if c = 'b' then some '\x08'
  else if c = 'f' then some '\x0c'
  else if c = 'n' then some '\n'
  else if c = 'r' then some '\r'
  else if c = 't' then some '\t'
  else none

/-- What follows backslash and `u`: a code unit, or two that make a surrogate pair. -/
def unicodeEscape (cs : List Char) : Option (Char × List Char) := do
  let (u, rest) ← hex4 cs
  if u < 0xd800 ∨ 0xdfff < u then some (Char.ofNat u, rest)
  else
    match rest with
    | '\\' :: 'u' :: more => do
      let (l, rest) ← hex4 more
      if u < 0xdc00 ∧ 0xdc00 ≤ l ∧ l ≤ 0xdfff then
        some (Char.ofNat (0x10000 + (u - 0xd800) * 0x400 + (l - 0xdc00)), rest)
      else none
    | _ => none

/-- One character of a string literal. -/
def stringChar : List Char → Option (Char × List Char)
  | [] => none
  | c :: rest =>
    if c = '\\' then
      match rest with
      | [] => none
      | e :: rest => if e = 'u' then unicodeEscape rest else (unescape e).map fun d => (d, rest)
    else if c.toNat < 0x20 then none
    else some (c, rest)

/-- The characters up to the closing quote (`fuel` bounds their number). -/
def stringChars : ℕ → List Char → Option (List Char × List Char)
  | 0, _ => none
  | _ + 1, [] => none
  | fuel + 1, c :: cs =>
    if c = '"' then some ([], cs)
    else do
      let (d, rest) ← stringChar (c :: cs)
      let (ds, rest) ← stringChars fuel rest
      some (d :: ds, rest)

/-- A string literal after its opening quote. -/
def string (cs : List Char) : Option (String × List Char) :=
  (stringChars cs.length cs).map fun p => (String.ofList p.1, p.2)

/-- A sign that may be missing. -/
def sign (cs : List Char) : Bool × List Char :=
  match cs with
  | c :: rest => if c = '-' then (true, rest) else (false, cs)
  | [] => (false, [])

def withSign (negative : Bool) (n : ℕ) : ℤ := if negative then -n else n

/-- The digits after a decimal point, none when there is no point. -/
def fraction : List Char → Option (List Char × List Char)
  | [] => some ([], [])
  | c :: cs =>
    if c = '.' then
      let ds := cs.takeWhile Char.isDigit
      if ds.isEmpty then none else some (ds, cs.dropWhile Char.isDigit)
    else some ([], c :: cs)

/-- The power of ten after `e`, zero when there is none. -/
def power : List Char → Option (ℤ × List Char)
  | [] => some (0, [])
  | c :: cs =>
    if c = 'e' ∨ c = 'E' then
      let (negative, cs) := if cs.head? = some '+' then (false, cs.tail) else sign cs
      let ds := cs.takeWhile Char.isDigit
      if ds.isEmpty then none
      else some (withSign negative (Nat.ofDigitChars 10 ds 0), cs.dropWhile Char.isDigit)
    else some (0, c :: cs)

def number (cs : List Char) : Option (Json × List Char) :=
  let (negative, cs) := sign cs
  let ds := cs.takeWhile Char.isDigit
  if ds.isEmpty ∨ (ds.head? = some '0' ∧ 1 < ds.length) then none
  else do
    let (fs, cs) ← fraction (cs.dropWhile Char.isDigit)
    let (e, cs) ← power cs
    some (num (withSign negative (Nat.ofDigitChars 10 (ds ++ fs) 0)) (e - fs.length), cs)

def literal (cs : List Char) : Option (Json × List Char) :=
  if cs.take 4 = ['n', 'u', 'l', 'l'] then some (null, cs.drop 4)
  else if cs.take 4 = ['t', 'r', 'u', 'e'] then some (bool true, cs.drop 4)
  else if cs.take 5 = ['f', 'a', 'l', 's', 'e'] then some (bool false, cs.drop 5)
  else none

mutual

/-- One value, with the text after it (`fuel` bounds the depth and the number of parts). -/
def value : ℕ → List Char → Option (Json × List Char)
  | 0, _ => none
  | fuel + 1, cs =>
    match skipSpace cs with
    | [] => none
    | c :: rest =>
      if c = '"' then (string rest).map fun p => (str p.1, p.2)
      else if c = '[' then
        if (skipSpace rest).head? = some ']' then some (arr [], (skipSpace rest).tail)
        else (elements fuel rest).map fun p => (arr p.1, p.2)
      else if c = '{' then
        if (skipSpace rest).head? = some '}' then some (obj [], (skipSpace rest).tail)
        else (members fuel rest).map fun p => (obj p.1, p.2)
      else if c = '-' ∨ c.isDigit then number (c :: rest)
      else literal (c :: rest)

/-- The elements of an array and its closing bracket. -/
def elements : ℕ → List Char → Option (List Json × List Char)
  | 0, _ => none
  | fuel + 1, cs => do
    let (v, rest) ← value fuel cs
    match skipSpace rest with
    | ',' :: rest => do
      let (vs, rest) ← elements fuel rest
      some (v :: vs, rest)
    | ']' :: rest => some ([v], rest)
    | _ => none

/-- The members of an object and its closing brace. -/
def members : ℕ → List Char → Option (List (String × Json) × List Char)
  | 0, _ => none
  | fuel + 1, cs =>
    match skipSpace cs with
    | '"' :: rest => do
      let (k, rest) ← string rest
      match skipSpace rest with
      | ':' :: rest => do
        let (v, rest) ← value fuel rest
        match skipSpace rest with
        | ',' :: rest => do
          let (ms, rest) ← members fuel rest
          some ((k, v) :: ms, rest)
        | '}' :: rest => some ([(k, v)], rest)
        | _ => none
      | _ => none
    | _ => none

end

/-- The tree of a whole text: one value, nothing before and after it but white space. -/
def parse (t : String) : Option Json :=
  match value (t.toList.length + 1) t.toList with
  | some (v, rest) => if (skipSpace rest).isEmpty then some v else none
  | none => none

/-! ### Texts put together from parts -/

/-- What may follow a value: nothing that could continue a number. -/
def Follows (rest : List Char) : Prop :=
  ∀ c ∈ rest.head?, c.isDigit = false ∧ c ≠ '.' ∧ c ≠ 'e' ∧ c ≠ 'E'

theorem follows_nil : Follows [] := by simp [Follows]

theorem follows_cons {c : Char} {rest : List Char}
    (h : c.isDigit = false ∧ c ≠ '.' ∧ c ≠ 'e' ∧ c ≠ 'E') : Follows (c :: rest) := by
  intro d hd
  simp only [List.head?_cons, Option.mem_def, Option.some.injEq] at hd
  subst hd
  exact h

theorem follows_comma {rest : List Char} : Follows (',' :: rest) := follows_cons (by decide)
theorem follows_bracket {rest : List Char} : Follows (']' :: rest) := follows_cons (by decide)
theorem follows_brace {rest : List Char} : Follows ('}' :: rest) := follows_cons (by decide)

/-- The reader takes exactly `t` and finds `j`, whatever follows. -/
def Reads (t : List Char) (j : Json) : Prop :=
  ∀ fuel rest, t.length ≤ fuel → Follows rest → value fuel (t ++ rest) = some (j, rest)

/-- The same for a string literal: an opening quote, then the rest of `t`. -/
def Quotes (t : List Char) (s : String) : Prop :=
  ∃ body, t = '"' :: body ∧ ∀ rest, string (body ++ rest) = some (s, rest)

theorem Reads.parse {t : String} {j : Json} (h : Reads t.toList j) : parse t = some j := by
  have hv : value (t.toList.length + 1) t.toList = some (j, []) := by
    have := h (t.toList.length + 1) [] (by omega) follows_nil
    simpa using this
  simp [Json.parse, hv, skipSpace]

theorem skipSpace_cons {c : Char} (h : isSpace c = false) (cs : List Char) :
    skipSpace (c :: cs) = c :: cs := by
  rw [skipSpace, List.dropWhile_cons, h]
  rfl

theorem value_skipSpace (fuel : ℕ) (cs : List Char) : value fuel (skipSpace cs) = value fuel cs := by
  cases fuel with
  | zero => rfl
  | succ fuel =>
    have hskip : skipSpace (skipSpace cs) = skipSpace cs := List.dropWhile_idempotent _ _
    simp only [value, hskip]

/-! ### Numbers and literals -/

theorem sign_digit {c : Char} {cs : List Char} (h : c.isDigit = true) :
    sign (c :: cs) = (false, c :: cs) := by
  have hc : c ≠ '-' := by
    rintro rfl
    simp at h
  simp [sign, hc]

theorem fraction_of_follows {rest : List Char} (h : Follows rest) :
    fraction rest = some ([], rest) := by
  cases rest with
  | nil => rfl
  | cons c cs =>
    have hc := h c (by simp)
    simp [fraction, hc.2.1]

theorem power_of_follows {rest : List Char} (h : Follows rest) : power rest = some (0, rest) := by
  cases rest with
  | nil => rfl
  | cons c cs =>
    have hc := h c (by simp)
    simp [power, hc.2.2.1, hc.2.2.2]

theorem takeWhile_isDigit {ds rest : List Char} (hd : ∀ c ∈ ds, c.isDigit = true)
    (h : Follows rest) : (ds ++ rest).takeWhile Char.isDigit = ds := by
  rw [List.takeWhile_append_of_pos hd]
  cases rest with
  | nil => simp
  | cons c cs =>
    have hc := h c (by simp)
    simp [hc.1]

theorem dropWhile_isDigit {ds rest : List Char} (hd : ∀ c ∈ ds, c.isDigit = true)
    (h : Follows rest) : (ds ++ rest).dropWhile Char.isDigit = rest := by
  rw [List.dropWhile_append_of_pos hd]
  cases rest with
  | nil => rfl
  | cons c cs =>
    have hc := h c (by simp)
    simp [hc.1]

theorem isDigit_toDigits (n : ℕ) : ∀ c ∈ Nat.toDigits 10 n, c.isDigit = true := by
  intro c hc
  exact Nat.isDigit_of_mem_toDigits (by omega) (by omega) hc

theorem head?_toDigits_ne_zero {n : ℕ} (h : 0 < n) :
    (Nat.toDigits 10 n).head? ≠ some '0' := by
  induction n using Nat.strong_induction_on with
  | _ n ih =>
    by_cases hn : n < 10
    · rw [Nat.toDigits_of_lt_base hn]
      simp only [List.head?_cons, ne_eq, Option.some.injEq, Nat.digitChar_eq_zero]
      omega
    · rw [Nat.toDigits_of_base_le (by omega) (by omega), List.head?_append_of_ne_nil _ (by simp)]
      exact ih (n / 10) (by omega) (by omega)

/-- Decimal digits without leading zeros: the two spellings that JSON forbids do not occur. -/
theorem toDigits_canonical (n : ℕ) :
    ¬ ((Nat.toDigits 10 n).head? = some '0' ∧ 1 < (Nat.toDigits 10 n).length) := by
  rintro ⟨hhead, hlen⟩
  cases n with
  | zero => simp at hlen
  | succ n => exact head?_toDigits_ne_zero (by omega) hhead

theorem number_toDigits (n : ℕ) {rest : List Char} (h : Follows rest) :
    number (Nat.toDigits 10 n ++ rest) = some (num n 0, rest) := by
  have hd := isDigit_toDigits n
  have hne : Nat.toDigits 10 n ≠ [] := Nat.toDigits_ne_nil
  have hsign : sign (Nat.toDigits 10 n ++ rest) = (false, Nat.toDigits 10 n ++ rest) := by
    cases hds : Nat.toDigits 10 n with
    | nil => exact absurd hds hne
    | cons c cs => exact sign_digit (hd c (by simp [hds]))
  simp [number, hsign, takeWhile_isDigit hd h, dropWhile_isDigit hd h, toDigits_canonical n,
    fraction_of_follows h, power_of_follows h, withSign, Nat.ofDigitChars_ten_toDigits]

theorem number_neg_toDigits (n : ℕ) {rest : List Char} (h : Follows rest) :
    number ('-' :: (Nat.toDigits 10 n ++ rest)) = some (num (-n) 0, rest) := by
  have hd := isDigit_toDigits n
  simp [number, sign, takeWhile_isDigit hd h, dropWhile_isDigit hd h, toDigits_canonical n,
    fraction_of_follows h, power_of_follows h, withSign, Nat.ofDigitChars_ten_toDigits]

/-- A value that starts with a digit or a minus sign is read as a number. -/
theorem value_number {fuel : ℕ} {c : Char} {cs : List Char} (h : c = '-' ∨ c.isDigit = true) :
    value (fuel + 1) (c :: cs) = number (c :: cs) := by
  have hne : isSpace c = false ∧ c ≠ '"' ∧ c ≠ '[' ∧ c ≠ '{' := by
    rcases h with rfl | h
    · decide
    · refine ⟨?_, ?_, ?_, ?_⟩
      · simp only [isSpace, Bool.or_eq_false_iff, decide_eq_false_iff_not]
        refine ⟨⟨⟨?_, ?_⟩, ?_⟩, ?_⟩ <;> (rintro rfl; simp at h)
      all_goals
        rintro rfl
        simp at h
  simp [value, skipSpace, hne.1, hne.2.1, hne.2.2.1, hne.2.2.2, h]

theorem reads_nat (n : ℕ) : Reads (Nat.repr n).toList (num n 0) := by
  intro fuel rest hfuel h
  rw [Nat.toList_repr] at hfuel ⊢
  have hlen : 0 < (Nat.toDigits 10 n).length := Nat.length_toDigits_pos
  obtain ⟨fuel, rfl⟩ : ∃ f, fuel = f + 1 := ⟨fuel - 1, by omega⟩
  rw [← number_toDigits n h]
  cases hds : Nat.toDigits 10 n with
  | nil => simp [hds] at hlen
  | cons c cs => exact value_number (.inr (isDigit_toDigits n c (by simp [hds])))

theorem reads_int (i : ℤ) : Reads (toString i).toList (num i 0) := by
  rw [Int.toString_eq_repr, Int.repr_eq_if]
  split
  · rename_i hi
    have hcast : ((i.toNat : ℕ) : ℤ) = i := by omega
    have := reads_nat i.toNat
    rwa [hcast] at this
  · rename_i hi
    intro fuel rest hfuel h
    have htext : ("-" ++ (-i).toNat.repr).toList = '-' :: Nat.toDigits 10 (-i).toNat := by
      simp [String.toList_append]
    have hcast : -(((-i).toNat : ℕ) : ℤ) = i := by omega
    rw [htext] at hfuel ⊢
    obtain ⟨fuel, rfl⟩ : ∃ f, fuel = f + 1 := ⟨fuel - 1, by simp at hfuel; omega⟩
    rw [List.cons_append, value_number (.inl rfl), number_neg_toDigits _ h, hcast]

theorem reads_bool (b : Bool) : Reads (if b then "true" else "false").toList (bool b) := by
  intro fuel rest hfuel h
  cases b with
  | true =>
    obtain ⟨fuel, rfl⟩ : ∃ f, fuel = f + 1 := ⟨fuel - 1, by simp at hfuel; omega⟩
    simp [value, skipSpace, isSpace, literal]
  | false =>
    obtain ⟨fuel, rfl⟩ : ∃ f, fuel = f + 1 := ⟨fuel - 1, by simp at hfuel; omega⟩
    simp [value, skipSpace, isSpace, literal]

theorem Quotes.reads {t : List Char} {s : String} (h : Quotes t s) : Reads t (str s) := by
  obtain ⟨body, rfl, hbody⟩ := h
  intro fuel rest hfuel _
  obtain ⟨fuel, rfl⟩ : ∃ f, fuel = f + 1 := ⟨fuel - 1, by simp at hfuel; omega⟩
  simp [value, skipSpace, isSpace, hbody]

/-! ### Arrays and objects -/

theorem elements_intercalate (ts : List (List Char × Json)) (hne : ts ≠ [])
    (h : ∀ t ∈ ts, Reads t.1 t.2) (fuel : ℕ) (rest : List Char)
    (hfuel : ([','].intercalate (ts.map Prod.fst)).length < fuel) :
    elements fuel ([','].intercalate (ts.map Prod.fst) ++ ']' :: rest) =
      some (ts.map Prod.snd, rest) := by
  induction ts generalizing fuel with
  | nil => exact absurd rfl hne
  | cons t ts ih =>
    have ht : Reads t.1 t.2 := h t (by simp)
    obtain ⟨fuel, rfl⟩ : ∃ f, fuel = f + 1 := ⟨fuel - 1, by omega⟩
    cases ts with
    | nil =>
      simp only [List.map_cons, List.map_nil, List.intercalate_singleton] at hfuel ⊢
      have hv := ht fuel (']' :: rest) (by omega) follows_bracket
      simp [elements, hv, skipSpace, isSpace]
    | cons u us =>
      simp only [List.map_cons, List.intercalate_cons_cons, List.append_assoc,
        List.length_append, List.length_singleton] at hfuel ih ⊢
      have htail := ih (by simp) (fun x hx => h x (by simp [hx])) fuel (by omega)
      have hv := ht fuel (',' :: ([','].intercalate (u.1 :: us.map Prod.fst) ++ ']' :: rest))
        (by omega) follows_comma
      simp only [List.singleton_append, elements, hv, Option.bind_eq_bind, Option.bind_some]
      simp [skipSpace, isSpace, htail]

/-- No value starts with a closing bracket, so the reader goes on to the elements. -/
theorem head?_skipSpace_of_elements {fuel : ℕ} {cs rest : List Char} {vs : List Json}
    (h : elements fuel cs = some (vs, rest)) : (skipSpace cs).head? ≠ some ']' := by
  intro hhead
  cases fuel with
  | zero => simp [elements] at h
  | succ fuel =>
    cases hcs : skipSpace cs with
    | nil => simp [hcs] at hhead
    | cons c tail =>
      have hc : c = ']' := by simpa [hcs] using hhead
      have hv : value fuel cs = none := by
        cases fuel with
        | zero => rfl
        | succ fuel => simp [value, hcs, hc, literal]
      simp [elements, hv] at h

theorem reads_arr (ts : List (List Char × Json)) (h : ∀ t ∈ ts, Reads t.1 t.2) :
    Reads ('[' :: [','].intercalate (ts.map Prod.fst) ++ [']']) (arr (ts.map Prod.snd)) := by
  intro fuel rest hfuel _
  obtain ⟨fuel, rfl⟩ : ∃ f, fuel = f + 1 := ⟨fuel - 1, by simp at hfuel; omega⟩
  by_cases hne : ts = []
  · subst hne
    simp [value, skipSpace, isSpace]
  · have hlen : ([','].intercalate (ts.map Prod.fst)).length < fuel := by
      simp only [List.length_append, List.length_cons, List.length_nil] at hfuel
      omega
    have he := elements_intercalate ts hne h fuel rest hlen
    have hhead := head?_skipSpace_of_elements he
    have hbracket : skipSpace ('[' :: ([','].intercalate (ts.map Prod.fst) ++ ']' :: rest)) =
        '[' :: ([','].intercalate (ts.map Prod.fst) ++ ']' :: rest) := by
      simp [skipSpace, isSpace]
    simp only [List.cons_append, List.append_assoc, List.nil_append, value, hbracket, Char.reduceEq, if_false, if_true, hhead, he, Option.map_some]

/-- The text of one member: the literal of its name, a colon and its value. -/
structure MemberText where
  name : List Char
  text : List Char
  key : String
  value : Json
  quotes : Quotes name key
  reads : Reads text value

def MemberText.chars (m : MemberText) : List Char := m.name ++ ':' :: m.text

/-- The reader finds `j` in `t` and stops behind it, up to white space. -/
def Yields (t : List Char) (j : Json) : Prop :=
  ∀ fuel rest, t.length < fuel → Follows rest →
    ∃ r, value fuel (t ++ rest) = some (j, r) ∧ skipSpace r = skipSpace rest

theorem Reads.yields {t : List Char} {j : Json} (h : Reads t j) : Yields t j := by
  intro fuel rest hfuel hrest
  exact ⟨rest, h fuel rest (by omega) hrest, rfl⟩

/-- A member whose value may have white space around it. -/
structure SpelledMember where
  name : List Char
  text : List Char
  key : String
  value : Json
  quotes : Quotes name key
  yields : Yields text value

def SpelledMember.chars (m : SpelledMember) : List Char := m.name ++ ':' :: m.text

def MemberText.spelled (m : MemberText) : SpelledMember :=
  ⟨m.name, m.text, m.key, m.value, m.quotes, m.reads.yields⟩

theorem members_intercalate (ms : List SpelledMember) (hne : ms ≠ []) (fuel : ℕ) (rest : List Char)
    (hfuel : ([','].intercalate (ms.map SpelledMember.chars)).length < fuel) :
    members fuel ([','].intercalate (ms.map SpelledMember.chars) ++ '}' :: rest) =
      some (ms.map fun m => (m.key, m.value), rest) := by
  induction ms generalizing fuel with
  | nil => exact absurd rfl hne
  | cons m ms ih =>
    obtain ⟨body, hname, hbody⟩ := m.quotes
    obtain ⟨fuel, rfl⟩ : ∃ f, fuel = f + 1 := ⟨fuel - 1, by omega⟩
    have hchars : m.chars = '"' :: (body ++ ':' :: m.text) := by simp [SpelledMember.chars, hname]
    cases ms with
    | nil =>
      simp only [List.map_cons, List.map_nil, List.intercalate_singleton, hchars,
        List.length_append, List.length_cons] at hfuel ⊢
      obtain ⟨r, hv, hskip⟩ := m.yields fuel ('}' :: rest) (by omega) follows_brace
      rw [skipSpace_cons (by decide)] at hskip
      simp [members, hbody, hv, hskip, skipSpace_cons, isSpace]
    | cons n ns =>
      simp only [List.map_cons, List.intercalate_cons_cons, hchars, List.append_assoc,
        List.length_append, List.length_cons] at hfuel ih ⊢
      have htail := ih (by simp) fuel (by omega)
      obtain ⟨r, hv, hskip⟩ := m.yields fuel
        (',' :: ([','].intercalate (n.chars :: ns.map SpelledMember.chars) ++ '}' :: rest))
        (by omega) follows_comma
      rw [skipSpace_cons (by decide)] at hskip
      simp only [List.cons_append, List.nil_append, List.append_assoc]
      simp [members, hbody, hv, hskip, skipSpace_cons, isSpace, htail]

theorem head?_skipSpace_of_members {fuel : ℕ} {cs rest : List Char} {ms : List (String × Json)}
    (h : members fuel cs = some (ms, rest)) : (skipSpace cs).head? ≠ some '}' := by
  intro hhead
  cases fuel with
  | zero => simp [members] at h
  | succ fuel =>
    cases hcs : skipSpace cs with
    | nil => simp [hcs] at hhead
    | cons c tail =>
      have hc : c = '}' := by simpa [hcs] using hhead
      simp [members, hcs, hc] at h

theorem reads_object (ms : List SpelledMember) :
    Reads ('{' :: [','].intercalate (ms.map SpelledMember.chars) ++ ['}'])
      (obj (ms.map fun m => (m.key, m.value))) := by
  intro fuel rest hfuel _
  obtain ⟨fuel, rfl⟩ : ∃ f, fuel = f + 1 := ⟨fuel - 1, by simp at hfuel; omega⟩
  by_cases hne : ms = []
  · subst hne
    simp [value, skipSpace, isSpace]
  · have hlen : ([','].intercalate (ms.map SpelledMember.chars)).length < fuel := by
      simp only [List.length_append, List.length_cons, List.length_nil] at hfuel
      omega
    have he := members_intercalate ms hne fuel rest hlen
    have hhead := head?_skipSpace_of_members he
    have hbrace : skipSpace ('{' :: ([','].intercalate (ms.map SpelledMember.chars) ++ '}' :: rest)) =
        '{' :: ([','].intercalate (ms.map SpelledMember.chars) ++ '}' :: rest) := by
      simp [skipSpace, isSpace]
    simp only [List.cons_append, List.append_assoc, List.nil_append, value, hbrace, Char.reduceEq,
      if_false, if_true, hhead, he, Option.map_some]

theorem reads_obj (ms : List MemberText) :
    Reads ('{' :: [','].intercalate (ms.map MemberText.chars) ++ ['}'])
      (obj (ms.map fun m => (m.key, m.value))) := by
  have hspelled := reads_object (ms.map MemberText.spelled)
  rw [List.map_map, List.map_map] at hspelled
  exact hspelled

end Json
end CudaTrace.Base
