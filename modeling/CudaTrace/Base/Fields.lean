import CudaTrace.Base.Lines
import CudaTrace.Base.Pieces

/-!
# Cutting a text

A text is cut into its lines, a line at the first or the last place of a character, and the
numbers in it are read.
-/

namespace CudaTrace.Base

def cutFirst (c : Char) (s : List Char) : List Char × List Char :=
  (s.takeWhile (· ≠ c), (s.dropWhile (· ≠ c)).drop 1)

def cutLast (c : Char) (s : List Char) : List Char × List Char :=
  let (back, front) := cutFirst c s.reverse
  (front.reverse, back.reverse)

theorem cutFirst_append {c : Char} {a : List Char} (h : c ∉ a) (r : List Char) :
    cutFirst c (a ++ c :: r) = (a, r) := by
  have hall : ∀ x ∈ a, decide (x ≠ c) = true := fun x hx => by simpa using ne_of_mem_of_not_mem hx h
  rw [cutFirst, List.takeWhile_append_of_pos hall, List.dropWhile_append_of_pos hall]
  simp

theorem cutLast_append {c : Char} {r : List Char} (h : c ∉ r) (a : List Char) :
    cutLast c (a ++ c :: r) = (a, r) := by
  have hrev : (a ++ c :: r).reverse = r.reverse ++ c :: a.reverse := by simp
  rw [cutLast, hrev, cutFirst_append (mt List.mem_reverse.mp h)]
  simp

/-- What stands before the first place of a character, and what stands behind it. -/
theorem cut_inj {c : Char} {a a' r r' : List Char} (ha : c ∉ a) (ha' : c ∉ a')
    (h : a ++ c :: r = a' ++ c :: r') : a = a' ∧ r = r' := by
  have hcut := cutFirst_append ha r
  rw [h, cutFirst_append ha'] at hcut
  obtain ⟨hfront, hback⟩ := Prod.mk.inj hcut
  exact ⟨hfront.symm, hback.symm⟩

/-! ### Numbers -/

def readNat (s : List Char) : ℕ := Nat.ofDigitChars 10 s 0

def readInt : List Char → ℤ
  | '-' :: s => -(readNat s : ℤ)
  | s => readNat s

theorem notMem_repr {c : Char} (h : c.isDigit = false) (n : ℕ) : c ∉ n.repr.toList := by
  intro hc
  rw [Nat.toList_repr] at hc
  have hdigit := Nat.isDigit_of_mem_toDigits (by decide) (by decide) hc
  rw [h] at hdigit
  cases hdigit

theorem notMem_toString_int {c : Char} (h : c.isDigit = false) (hsign : c ≠ '-') (i : ℤ) :
    c ∉ (toString i).toList := by
  cases i with
  | ofNat n => exact notMem_repr h n
  | negSucc n =>
    show c ∉ ("-" ++ n.succ.repr).toList
    rw [String.toList_append, List.mem_append, not_or]
    exact ⟨by simpa using hsign, notMem_repr h _⟩

theorem readNat_repr (n : ℕ) : readNat n.repr.toList = n := by
  rw [Nat.toList_repr, readNat, Nat.ofDigitChars_ten_toDigits]

theorem readInt_toString (i : ℤ) : readInt (toString i).toList = i := by
  cases i with
  | ofNat n =>
    have hread : readInt n.repr.toList = readNat n.repr.toList := by
      have hsign := notMem_repr (c := '-') (by decide) n
      cases hs : n.repr.toList with
      | nil => rfl
      | cons c s =>
        have hne : c ≠ '-' := by
          rintro rfl
          rw [hs] at hsign
          exact hsign List.mem_cons_self
        unfold readInt
        split
        · rename_i he
          exact absurd (List.cons.inj he).1 hne
        · rfl
    exact hread.trans (congrArg _ (readNat_repr n))
  | negSucc n =>
    show readInt ("-" ++ n.succ.repr).toList = _
    rw [String.toList_append]
    show -(readNat n.succ.repr.toList : ℤ) = _
    rw [readNat_repr]
    rfl

end CudaTrace.Base
