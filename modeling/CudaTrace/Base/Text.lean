import Mathlib.Algebra.Group.Int.Defs
import Mathlib.Algebra.Group.Nat.Defs
import Mathlib.Data.List.Infix

/-!
# Text helpers

The parts of the string library that line and path handling use, over lists of
characters: substring search, line and word splitting, suffix trimming and
hexadecimal numbers.
-/

namespace CudaTrace.Base

/-- Facts about the characters of a list are decided on the list, not on all characters. -/
instance (priority := high) decidableForallMemChar (p : Char → Prop) [DecidablePred p]
    (cs : List Char) : Decidable (∀ c ∈ cs, p c) := List.decidableBAll p cs

/-- `str::contains` for a string pattern. -/
def contains (hay needle : String) : Bool := decide (needle.toList <:+: hay.toList)

/-- `str::starts_with` for a string pattern. -/
def startsWith (s pat : String) : Bool := pat.toList.isPrefixOf s.toList

/-- Remove every repetition of `pat` at the front (`fuel` bounds the recursion). -/
def dropRepeated (pat : List Char) : ℕ → List Char → List Char
  | 0, cs => cs
  | fuel + 1, cs => if pat.isPrefixOf cs then dropRepeated pat fuel (cs.drop pat.length) else cs

/-- `str::trim_end_matches` for a non-empty string pattern. -/
def trimEndMatches (s pat : String) : String :=
  String.ofList (dropRepeated pat.toList.reverse s.length s.toList.reverse).reverse

/-- A carriage return at the end of a line is part of the line break. -/
def dropCarriageReturn (cs : List Char) : List Char :=
  if cs.getLast? = some '\r' then cs.dropLast else cs

/-- The lines of a text; the part after the last break counts when it is not empty. -/
def linesAux (acc : List Char) : List Char → List (List Char)
  | [] => if acc.isEmpty then [] else [acc.reverse]
  | '\n' :: cs => dropCarriageReturn acc.reverse :: linesAux [] cs
  | c :: cs => linesAux (c :: acc) cs

/-- `str::lines`. -/
def lines (s : String) : List String := (linesAux [] s.toList).map String.ofList

/-- `char::is_whitespace`. -/
def isWhitespace (c : Char) : Bool :=
  (0x09 ≤ c.toNat && c.toNat ≤ 0x0d) || c.toNat = 0x20 || c.toNat = 0x85 || c.toNat = 0xa0 ||
    c.toNat = 0x1680 || (0x2000 ≤ c.toNat && c.toNat ≤ 0x200a) || c.toNat = 0x2028 ||
    c.toNat = 0x2029 || c.toNat = 0x202f || c.toNat = 0x205f || c.toNat = 0x3000

def wordsAux (acc : List Char) : List Char → List (List Char)
  | [] => if acc.isEmpty then [] else [acc.reverse]
  | c :: cs =>
    if isWhitespace c then
      if acc.isEmpty then wordsAux [] cs else acc.reverse :: wordsAux [] cs
    else wordsAux (c :: acc) cs

/-- `str::split_whitespace`. -/
def splitWhitespace (s : String) : List String := (wordsAux [] s.toList).map String.ofList

theorem mem_wordsAux {acc cs w : List Char} (hacc : ∀ c ∈ acc, isWhitespace c = false)
    (hw : w ∈ wordsAux acc cs) : ∀ c ∈ w, isWhitespace c = false := by
  induction cs generalizing acc with
  | nil =>
    by_cases hnil : acc.isEmpty
    · simp [wordsAux, hnil] at hw
    · simp only [wordsAux, hnil, Bool.false_eq_true, if_false, List.mem_singleton] at hw
      subst hw
      simpa using hacc
  | cons c cs ih =>
    by_cases hc : isWhitespace c
    · by_cases hnil : acc.isEmpty
      · simp only [wordsAux, hc, hnil, if_true] at hw
        exact ih (by simp) hw
      · simp only [wordsAux, hc, hnil, Bool.false_eq_true, if_true, if_false, List.mem_cons] at hw
        rcases hw with rfl | hw
        · simpa using hacc
        · exact ih (by simp) hw
    · simp only [wordsAux, hc, Bool.false_eq_true, if_false] at hw
      exact ih (List.forall_mem_cons.mpr ⟨by simpa using hc, hacc⟩) hw

/-- `str::trim`. -/
def trim (s : String) : String :=
  String.ofList ((s.toList.dropWhile isWhitespace).reverse.dropWhile isWhitespace).reverse

/-- `str::split_once` for a character. -/
def splitOnce (s : String) (c : Char) : Option (String × String) :=
  let cs := s.toList
  match cs.dropWhile (· ≠ c) with
  | [] => none
  | _ :: rest => some (String.ofList (cs.takeWhile (· ≠ c)), String.ofList rest)

def splitAtText (pat : List Char) : List Char → Option (List Char × List Char)
  | [] => if pat.isEmpty then some ([], []) else none
  | c :: cs =>
    if pat.isPrefixOf (c :: cs) then some ([], (c :: cs).drop pat.length)
    else (splitAtText pat cs).map fun p => (c :: p.1, p.2)

/-- `str::split_once` for a string pattern. -/
def splitOnceStr (s pat : String) : Option (String × String) :=
  (splitAtText pat.toList s.toList).map fun p => (String.ofList p.1, String.ofList p.2)

def hexDigit (c : Char) : Option ℕ :=
  if '0' ≤ c ∧ c ≤ '9' then some (c.toNat - '0'.toNat)
  else if 'a' ≤ c ∧ c ≤ 'f' then some (c.toNat - 'a'.toNat + 10)
  else if 'A' ≤ c ∧ c ≤ 'F' then some (c.toNat - 'A'.toNat + 10)
  else none

def hexDigits (acc : ℕ) : List Char → Option ℕ
  | [] => some acc
  | c :: cs => (hexDigit c).bind fun d => hexDigits (16 * acc + d) cs

/-- `u64::from_str_radix(_, 16)`: an optional plus sign, then digits of a value below 2^64. -/
def parseHexU64 (s : String) : Option (BitVec 64) :=
  let digits := if s.toList.head? = some '+' then s.toList.drop 1 else s.toList
  if digits.isEmpty then none
  else (hexDigits 0 digits).bind fun n => if n < 2 ^ 64 then some (BitVec.ofNat 64 n) else none

/-- `str::parse::<i64>`: an optional sign, then decimal digits of a value in range. -/
def parseI64 (s : String) : Option (BitVec 64) :=
  let (negative, digits) : Bool × List Char := match s.toList with
    | '-' :: ds => (true, ds)
    | '+' :: ds => (false, ds)
    | ds => (false, ds)
  if digits.isEmpty || !digits.all Char.isDigit then none
  else
    let magnitude : ℤ := Nat.ofDigitChars 10 digits 0
    let value := if negative then -magnitude else magnitude
    if -2 ^ 63 ≤ value ∧ value < 2 ^ 63 then some (BitVec.ofInt 64 value) else none

/-- Lower-case hexadecimal, as `{:x}` prints it. -/
def toHex (n : ℕ) : String := String.ofList (Nat.toDigits 16 n)

/-- `Path::file_name`: the last component, unless it is `..` or there is none. -/
def fileName (path : String) : Option String :=
  let comps := (path.toList.splitOn '/').filter fun c => !c.isEmpty && c != ['.']
  match comps.getLast? with
  | none => none
  | some c => if c = ['.', '.'] then none else some (String.ofList c)

/-! ### Numbers -/

theorem mem_toDigits {b n : ℕ} (hb : 1 < b) {c : Char} (hc : c ∈ Nat.toDigits b n) :
    ∃ d < b, c = d.digitChar := by
  induction n using Nat.strong_induction_on with
  | _ n ih =>
    by_cases hn : n < b
    · rw [Nat.toDigits_of_lt_base hn, List.mem_singleton] at hc
      exact ⟨n, hn, hc⟩
    · rw [Nat.toDigits_of_base_le hb (by omega), List.mem_append, List.mem_singleton] at hc
      rcases hc with hc | hc
      · exact ih (n / b) (Nat.div_lt_self (by omega) hb) hc
      · exact ⟨n % b, Nat.mod_lt _ (by omega), hc⟩

theorem hexDigits_append (acc : ℕ) (xs ys : List Char) :
    hexDigits acc (xs ++ ys) = (hexDigits acc xs).bind fun a => hexDigits a ys := by
  induction xs generalizing acc with
  | nil => rfl
  | cons x xs ih =>
    rw [List.cons_append, hexDigits, hexDigits]
    cases hexDigit x with
    | none => rfl
    | some d => exact ih _

theorem hexDigits_toDigits (n : ℕ) : hexDigits 0 (Nat.toDigits 16 n) = some n := by
  have hdigit : ∀ d < 16, hexDigit d.digitChar = some d := by decide
  induction n using Nat.strong_induction_on with
  | _ n ih =>
    by_cases hn : n < 16
    · rw [Nat.toDigits_of_lt_base hn]
      simp [hexDigits, hdigit n hn]
    · have hlow : n % 16 < 16 := Nat.mod_lt _ (by decide)
      rw [Nat.toDigits_of_base_le (by decide) (by omega), hexDigits_append, ih (n / 16) (by omega)]
      simp only [Option.bind_some, hexDigits, hdigit _ hlow, Option.some.injEq]
      omega

theorem parseHexU64_toHex (v : BitVec 64) : parseHexU64 (toHex v.toNat) = some v := by
  have hchars : (toHex v.toNat).toList = Nat.toDigits 16 v.toNat := String.toList_ofList
  have hplus : (Nat.toDigits 16 v.toNat).head? ≠ some '+' := by
    intro hhead
    obtain ⟨d, hd, hchar⟩ := mem_toDigits (by decide) (List.mem_of_mem_head? hhead)
    have hdigit : ∀ d < 16, '+' ≠ Nat.digitChar d := by decide
    exact hdigit d hd hchar
  have hne : Nat.toDigits 16 v.toNat ≠ [] := Nat.toDigits_ne_nil
  have hlt : v.toNat < 2 ^ 64 := v.isLt
  have hfilled : (Nat.toDigits 16 v.toNat).isEmpty = false := by simp [hne]
  unfold parseHexU64
  simp only [hchars, if_neg hplus, hfilled, Bool.false_eq_true, if_false, hexDigits_toDigits,
    Option.bind_some, if_pos hlt, BitVec.ofNat_toNat, BitVec.setWidth_eq]

theorem exists_digit (n : ℤ) : ∃ d ∈ (toString n).toList, d.isDigit = true := by
  have hnat : ∀ m : ℕ, ∃ d ∈ m.repr.toList, d.isDigit = true := by
    intro m
    rw [Nat.toList_repr]
    obtain ⟨d, hd⟩ := List.exists_mem_of_ne_nil _ (Nat.toDigits_ne_nil (n := m) (b := 10))
    exact ⟨d, hd, Nat.isDigit_of_mem_toDigits (by decide) (by decide) hd⟩
  cases n with
  | ofNat m => exact hnat m
  | negSucc m =>
    obtain ⟨d, hd, hdigit⟩ := hnat m.succ
    change ∃ d ∈ ("-" ++ m.succ.repr).toList, d.isDigit = true
    rw [String.toList_append]
    exact ⟨d, List.mem_append_right _ hd, hdigit⟩

theorem toString_int_ne {s : String} (hs : ∀ d ∈ s.toList, d.isDigit = false) (n : ℤ) :
    toString n ≠ s := by
  intro he
  obtain ⟨d, hd, hdigit⟩ := exists_digit n
  rw [he] at hd
  rw [hs d hd] at hdigit
  cases hdigit

theorem isEmpty_toString_int (n : ℤ) : (toString n).isEmpty = false := by
  rw [Bool.eq_false_iff, ne_eq, String.isEmpty_iff]
  exact toString_int_ne (by simp) n

theorem toString_int_injective {n m : ℤ} (h : toString n = toString m) : n = m := by
  have hnat : ∀ {a b : ℕ}, a.repr.toList = b.repr.toList → a = b := by
    intro a b he
    rw [Nat.toList_repr, Nat.toList_repr] at he
    have hread := congrArg (fun ds => Nat.ofDigitChars 10 ds 0) he
    simpa only [Nat.ofDigitChars_ten_toDigits] using hread
  have hsign : ∀ (a : ℕ) (cs : List Char), a.repr.toList ≠ '-' :: cs := by
    intro a cs he
    have hmem : '-' ∈ Nat.toDigits 10 a := by
      rw [← Nat.toList_repr, he]
      exact List.mem_cons_self
    exact absurd (Nat.isDigit_of_mem_toDigits (by decide) (by decide) hmem) (by decide)
  have hlist := congrArg String.toList h
  cases n with
  | ofNat a =>
    cases m with
    | ofNat b => exact congrArg Int.ofNat (hnat hlist)
    | negSucc b =>
      change a.repr.toList = ("-" ++ b.succ.repr).toList at hlist
      rw [String.toList_append] at hlist
      exact absurd hlist (hsign a _)
  | negSucc a =>
    change ("-" ++ a.succ.repr).toList = _ at hlist
    rw [String.toList_append] at hlist
    cases m with
    | ofNat b => exact absurd hlist.symm (hsign b _)
    | negSucc b =>
      change _ = ("-" ++ b.succ.repr).toList at hlist
      rw [String.toList_append] at hlist
      have hsucc := hnat (List.append_cancel_left hlist)
      exact congrArg Int.negSucc (Nat.succ.inj hsucc)

example : lines "a\r\nb\n\nc" = ["a", "b", "", "c"] := by decide
example : fileName "./dir/cudatrace.output" = some "cudatrace.output" := by decide

end CudaTrace.Base
