import CudaTrace.Ptrace.Status

/-!
# Writing a whole buffer (logger.rs, hook/ptrace.rs)

`write` may take a part of what it is offered. The loop goes on with the rest, also when nothing
was taken, and gives up at the first error but an interruption.
-/

namespace CudaTrace
open CudaTrace.Ptrace (I32 I64)

abbrev Bytes := List (BitVec 8)

def eintr : I32 := 4#32

/-- What a call of `write` returns, and the error number after it. -/
structure WriteResult where
  written : I64
  errno : I32

namespace WriteResult

def Interrupted (r : WriteResult) : Prop := r.written.toInt < 0 ∧ r.errno = eintr

def Fails (r : WriteResult) : Prop := r.written.toInt < 0 ∧ r.errno ≠ eintr

/-- How many bytes the call took. -/
def count (r : WriteResult) : ℕ := if r.written.toInt < 0 then 0 else r.written.toNat

end WriteResult

inductive Outcome where
  | ok
  | err
  /-- The slice behind the count is out of range. -/
  | panic
  deriving DecidableEq

/-- How the loop ended, and the bytes that the calls took, in order. -/
structure Written where
  outcome : Outcome
  accepted : Bytes

/-- The loop of both functions from call `i` on; `fuel` bounds the calls and `none` is a loop that
has not ended by then. -/
def writeLoop (results : ℕ → WriteResult) : ℕ → ℕ → Bytes → Option Written
  | 0, _, data => if data = [] then some ⟨.ok, []⟩ else none
  | fuel + 1, i, data =>
    if data = [] then some ⟨.ok, []⟩
    else if (results i).written.toInt < 0 then
      if (results i).errno = eintr then writeLoop results fuel (i + 1) data
      else some ⟨.err, []⟩
    else
      let written := (results i).written.toNat
      if data.length < written then some ⟨.panic, []⟩
      else
        (writeLoop results fuel (i + 1) (data.drop written)).map fun w =>
          { w with accepted := data.take written ++ w.accepted }

/-- `write_all` of ptrace.rs; the results are those of `call_real_write` and `last_errno`. -/
def Ptrace.writeAll (results : ℕ → WriteResult) (fuel : ℕ) (data : Bytes) : Option Written :=
  writeLoop results fuel 0 data

/-- `write_all` of logger.rs; the results are those of `write` and `__errno_location`. -/
def Logger.writeAll (results : ℕ → WriteResult) (fuel : ℕ) (data : Bytes) : Option Written :=
  writeLoop results fuel 0 data

/-! ### What the calls take -/

/-- The bytes that the first `n` calls took. -/
def taken (results : ℕ → WriteResult) : ℕ → ℕ
  | 0 => 0
  | n + 1 => taken results n + (results n).count

/-- Call `n` is made: no call before it failed and bytes are left. -/
def Calling (results : ℕ → WriteResult) (data : Bytes) (n : ℕ) : Prop :=
  (∀ i < n, ¬(results i).Fails) ∧ taken results n < data.length

/-- No call takes more than it was offered. -/
def Offered (results : ℕ → WriteResult) (data : Bytes) : Prop :=
  ∀ n, Calling results data n → taken results (n + 1) ≤ data.length

/-- From some call on, with bytes left, nothing is taken and no call fails. -/
def Stalled (results : ℕ → WriteResult) (data : Bytes) : Prop :=
  ∃ n, Calling results data n ∧
    ∀ m, n ≤ m → (results m).written.toInt = 0 ∨ (results m).Interrupted

/-- The loop ends, well exactly when everything was taken once and in order; when it ends with an
error, a part of the data is missing at the end. -/
structure WritesAll (writeAll : (ℕ → WriteResult) → ℕ → Bytes → Option Written)
    (results : ℕ → WriteResult) (data : Bytes) : Prop where
  terminates : ∃ fuel w, writeAll results fuel data = some w
  ok : ∀ fuel w, writeAll results fuel data = some w → (w.outcome = .ok ↔ w.accepted = data)
  err : ∀ fuel w, writeAll results fuel data = some w → w.outcome ≠ .ok →
    w.outcome = .err ∧ w.accepted <+: data ∧ w.accepted ≠ data

variable {results : ℕ → WriteResult} {data : Bytes}

theorem taken_mono {n m : ℕ} (h : n ≤ m) : taken results n ≤ taken results m := by
  induction m with
  | zero =>
    have hn : n = 0 := by omega
    rw [hn]
  | succ m ih =>
    by_cases hnm : n = m + 1
    · rw [hnm]
    · have hle := ih (by omega)
      rw [taken]
      omega

/-! ### One call -/

theorem writeLoop_succ (fuel i : ℕ) :
    writeLoop results (fuel + 1) i data =
      if data = [] then some ⟨.ok, []⟩
      else if (results i).written.toInt < 0 then
        if (results i).errno = eintr then writeLoop results fuel (i + 1) data
        else some ⟨.err, []⟩
      else if data.length < (results i).written.toNat then some ⟨.panic, []⟩
      else
        (writeLoop results fuel (i + 1) (data.drop (results i).written.toNat)).map fun w =>
          { w with accepted := data.take (results i).written.toNat ++ w.accepted } :=
  rfl

theorem writeLoop_nil (fuel i : ℕ) : writeLoop results fuel i [] = some ⟨.ok, []⟩ := by
  cases fuel with
  | zero => rfl
  | succ fuel => rfl

theorem writeLoop_fails {i : ℕ} (hne : data ≠ []) (h : (results i).Fails) (fuel : ℕ) :
    writeLoop results (fuel + 1) i data = some ⟨.err, []⟩ := by
  rw [writeLoop_succ, if_neg hne, if_pos h.1, if_neg h.2]

/-- A call that does not fail is followed by the loop over what it left. -/
theorem writeLoop_goes {i : ℕ} (hne : data ≠ []) (h : ¬(results i).Fails)
    (hcount : (results i).count ≤ data.length) (fuel : ℕ) :
    writeLoop results (fuel + 1) i data =
      (writeLoop results fuel (i + 1) (data.drop (results i).count)).map fun w =>
        { w with accepted := data.take (results i).count ++ w.accepted } := by
  rw [writeLoop_succ, if_neg hne]
  by_cases hsign : (results i).written.toInt < 0
  · have hinterrupted : (results i).errno = eintr := by
      by_contra herrno
      exact h ⟨hsign, herrno⟩
    have hzero : (results i).count = 0 := if_pos hsign
    rw [if_pos hsign, if_pos hinterrupted, hzero]
    simp
  · have hwritten : (results i).count = (results i).written.toNat := if_neg hsign
    rw [hwritten] at hcount ⊢
    rw [if_neg hsign, if_neg (Nat.not_lt.mpr hcount)]

theorem writeLoop_panics {i : ℕ} (hcount : data.length < (results i).count) (fuel : ℕ) :
    ∀ w, writeLoop results (fuel + 1) i data = some w → w.outcome = .panic ∨ data = [] := by
  intro w hw
  have hsign : ¬(results i).written.toInt < 0 := by
    intro hsign
    have hzero : (results i).count = 0 := if_pos hsign
    omega
  have hwritten : (results i).count = (results i).written.toNat := if_neg hsign
  by_cases hne : data = []
  · exact .inr hne
  · rw [hwritten] at hcount
    rw [writeLoop_succ, if_neg hne, if_neg hsign, if_pos hcount, Option.some.injEq] at hw
    rw [← hw]
    exact .inl rfl

/-! ### What was taken -/

/-- Everything, or with an error not everything. -/
def Faithful (data : Bytes) (w : Written) : Prop :=
  (w.outcome = .ok ∧ w.accepted = data) ∨
    (w.outcome = .err ∧ w.accepted <+: data ∧ w.accepted ≠ data)

theorem Faithful.behind {n : ℕ} {w : Written} (h : Faithful (data.drop n) w) :
    Faithful data { w with accepted := data.take n ++ w.accepted } := by
  have hsplit := List.take_append_drop n data
  rcases h with ⟨hok, hall⟩ | ⟨herr, ⟨rest, hrest⟩, hmissing⟩
  · refine .inl ⟨hok, ?_⟩
    show data.take n ++ w.accepted = data
    rw [hall, hsplit]
  · refine .inr ⟨herr, ⟨rest, ?_⟩, ?_⟩
    · show data.take n ++ w.accepted ++ rest = data
      rw [List.append_assoc, hrest, hsplit]
    · intro hall
      have hsame : data.take n ++ w.accepted = data.take n ++ data.drop n := hall.trans hsplit.symm
      exact hmissing (List.append_cancel_left hsame)

theorem writeLoop_faithful (fuel i : ℕ) {w : Written}
    (hw : writeLoop results fuel i data = some w) (hp : w.outcome ≠ .panic) : Faithful data w := by
  by_cases hnil : data = []
  · rw [hnil, writeLoop_nil, Option.some.injEq] at hw
    rw [← hw, hnil]
    exact .inl ⟨rfl, rfl⟩
  · induction fuel generalizing i data w with
    | zero =>
      rw [writeLoop, if_neg hnil] at hw
      cases hw
    | succ fuel ih =>
      by_cases hfails : (results i).Fails
      · rw [writeLoop_fails hnil hfails, Option.some.injEq] at hw
        rw [← hw]
        exact .inr ⟨rfl, List.nil_prefix, fun he => hnil he.symm⟩
      · by_cases hcount : (results i).count ≤ data.length
        · rw [writeLoop_goes hnil hfails hcount, Option.map_eq_some_iff] at hw
          obtain ⟨w', hw', rfl⟩ := hw
          apply Faithful.behind
          by_cases hrest : data.drop (results i).count = []
          · rw [hrest, writeLoop_nil, Option.some.injEq] at hw'
            rw [← hw', hrest]
            exact .inl ⟨rfl, rfl⟩
          · exact ih (i + 1) hw' hp hrest
        · rcases writeLoop_panics (Nat.not_le.mp hcount) fuel w hw with hpanic | hempty
          · exact absurd hpanic hp
          · exact absurd hempty hnil

/-! ### When the loop ends -/

theorem Calling.next {i : ℕ} (h : Calling results data i) (hgoes : ¬(results i).Fails) :
    ∀ j < i + 1, ¬(results j).Fails := by
  intro j hj
  by_cases hji : j = i
  · rwa [hji]
  · exact h.1 j (by omega)

theorem drop_ne_nil {i : ℕ} (h : taken results i < data.length) :
    data.drop (taken results i) ≠ [] := by
  intro hnil
  have hlength := List.drop_eq_nil_iff.mp hnil
  omega

theorem drop_taken {i : ℕ} (h : data.length ≤ taken results i) : data.drop (taken results i) = [] :=
  List.drop_eq_nil_iff.mpr h

/-- Behind the calls before, one call that does not fail. -/
theorem writeLoop_step (h : Offered results data) {i : ℕ} (hcall : Calling results data i)
    (hgoes : ¬(results i).Fails) (fuel : ℕ) :
    writeLoop results (fuel + 1) i (data.drop (taken results i)) =
      (writeLoop results fuel (i + 1) (data.drop (taken results (i + 1)))).map fun w =>
        { w with accepted := (data.drop (taken results i)).take (results i).count ++ w.accepted } := by
  have hnext := h i hcall
  have hcount : (results i).count ≤ (data.drop (taken results i)).length := by
    rw [taken] at hnext
    rw [List.length_drop]
    omega
  rw [writeLoop_goes (drop_ne_nil hcall.2) hgoes hcount, List.drop_drop, taken]

theorem writeLoop_ne_panic (h : Offered results data) (fuel i : ℕ) {w : Written}
    (hbefore : ∀ j < i, ¬(results j).Fails)
    (hw : writeLoop results fuel i (data.drop (taken results i)) = some w) : w.outcome ≠ .panic := by
  induction fuel generalizing i w with
  | zero =>
    rw [writeLoop] at hw
    split_ifs at hw
    cases hw
    exact Outcome.noConfusion
  | succ fuel ih =>
    by_cases hleft : taken results i < data.length
    · by_cases hfails : (results i).Fails
      · rw [writeLoop_fails (drop_ne_nil hleft) hfails, Option.some.injEq] at hw
        rw [← hw]
        exact Outcome.noConfusion
      · have hcall : Calling results data i := ⟨hbefore, hleft⟩
        rw [writeLoop_step h hcall hfails, Option.map_eq_some_iff] at hw
        obtain ⟨w', hw', rfl⟩ := hw
        have hrest : w'.outcome ≠ .panic := ih (i + 1) (hcall.next hfails) hw'
        exact hrest
    · rw [drop_taken (by omega), writeLoop_nil, Option.some.injEq] at hw
      rw [← hw]
      exact Outcome.noConfusion

/-- The loop ends by the first call that fails or the last byte that is taken. -/
theorem writeLoop_ends (h : Offered results data) {n : ℕ}
    (hn : (results n).Fails ∨ data.length ≤ taken results n) (k : ℕ) {i : ℕ} (hk : n = i + k)
    (hbefore : ∀ j < i, ¬(results j).Fails) :
    ∃ w, writeLoop results (k + 1) i (data.drop (taken results i)) = some w := by
  induction k generalizing i with
  | zero =>
    have hin : n = i := by omega
    rw [hin] at hn
    by_cases hleft : taken results i < data.length
    · have hfails : (results i).Fails := by
        rcases hn with hfails | hlength
        · exact hfails
        · omega
      exact ⟨_, writeLoop_fails (drop_ne_nil hleft) hfails 0⟩
    · exact ⟨_, by rw [drop_taken (by omega), writeLoop_nil]⟩
  | succ k ih =>
    by_cases hleft : taken results i < data.length
    · by_cases hfails : (results i).Fails
      · exact ⟨_, writeLoop_fails (drop_ne_nil hleft) hfails (k + 1)⟩
      · have hcall : Calling results data i := ⟨hbefore, hleft⟩
        have hnext : n = i + 1 + k := by omega
        obtain ⟨w, hw⟩ := ih hnext (hcall.next hfails)
        exact ⟨_, by rw [writeLoop_step h hcall hfails, hw, Option.map_some]⟩
    · exact ⟨_, by rw [drop_taken (by omega), writeLoop_nil]⟩

/-- A loop all of whose calls are made does not end. -/
theorem writeLoop_goesOn (h : Offered results data) (hcalls : ∀ n, Calling results data n)
    (fuel i : ℕ) : writeLoop results fuel i (data.drop (taken results i)) = none := by
  induction fuel generalizing i with
  | zero =>
    rw [writeLoop, if_neg (drop_ne_nil (hcalls i).2)]
  | succ fuel ih =>
    have hgoes : ¬(results i).Fails := (hcalls (i + 1)).1 i (by omega)
    rw [writeLoop_step h (hcalls i) hgoes, ih (i + 1), Option.map_none]

/-! ### Stalled calls -/

theorem count_stalled {r : WriteResult} (h : r.written.toInt = 0 ∨ r.Interrupted) :
    r.count = 0 ∧ ¬r.Fails := by
  unfold WriteResult.count WriteResult.Fails
  rcases h with hzero | ⟨hsign, herrno⟩
  · have hnat : r.written.toNat = 0 := by
      have hvalue : r.written = 0#64 := BitVec.eq_of_toInt_eq hzero
      rw [hvalue]
      rfl
    rw [hnat, hzero]
    simp
  · rw [if_pos hsign]
    exact ⟨rfl, fun hfails => hfails.2 herrno⟩

theorem stalled_calls (h : Stalled results data) : ∀ n, Calling results data n := by
  obtain ⟨n, ⟨hbefore, hleft⟩, hstalled⟩ := h
  have hsame : ∀ k, taken results (n + k) = taken results n := by
    intro k
    induction k with
    | zero => rfl
    | succ k ih =>
      have hzero := (count_stalled (hstalled (n + k) (by omega))).1
      rw [← Nat.add_assoc, taken, ih, hzero, Nat.add_zero]
  have hgoes : ∀ m, ¬(results m).Fails := by
    intro m
    by_cases hm : m < n
    · exact hbefore m hm
    · exact (count_stalled (hstalled m (by omega))).2
  intro m
  refine ⟨fun j _ => hgoes j, ?_⟩
  by_cases hm : m < n
  · have hle := @taken_mono results m n (by omega)
    omega
  · have hk := hsame (m - n)
    rw [Nat.add_sub_cancel' (by omega)] at hk
    omega

/-- A sum that stays below a bound grows only finitely often. -/
theorem exists_last (hbound : ∀ n, taken results n < data.length) :
    ∃ n, ∀ m, n ≤ m → (results m).count = 0 := by
  by_contra hmore
  have hgrows : ∀ k, ∃ n, k ≤ taken results n := by
    intro k
    induction k with
    | zero => exact ⟨0, Nat.zero_le _⟩
    | succ k ih =>
      obtain ⟨n, hn⟩ := ih
      obtain ⟨m, hm⟩ := not_forall.mp (not_exists.mp hmore n)
      obtain ⟨hnm, hcount⟩ := Classical.not_imp.mp hm
      have hle := @taken_mono results n m hnm
      refine ⟨m + 1, ?_⟩
      rw [taken]
      omega
  obtain ⟨n, hn⟩ := hgrows data.length
  have hlt := hbound n
  omega

theorem stalled_of_calls (h : ∀ n, Calling results data n) : Stalled results data := by
  obtain ⟨n, hn⟩ := exists_last fun n => (h n).2
  refine ⟨n, h n, ?_⟩
  intro m hm
  have hcount := hn m hm
  have hgoes : ¬(results m).Fails := (h (m + 1)).1 m (by omega)
  by_cases hsign : (results m).written.toInt < 0
  · right
    refine ⟨hsign, ?_⟩
    by_contra herrno
    exact hgoes ⟨hsign, herrno⟩
  · left
    have hnat : (results m).written.toNat = 0 := by
      rw [WriteResult.count, if_neg hsign] at hcount
      exact hcount
    have hvalue : (results m).written = 0#64 := BitVec.eq_of_toNat_eq hnat
    rw [hvalue]
    rfl

/-! ### Both functions -/

theorem writesAll_iff_goes (h : Offered results data) :
    WritesAll (fun results fuel data => writeLoop results fuel 0 data) results data ↔
      ¬Stalled results data := by
  constructor
  · rintro ⟨⟨fuel, w, hw⟩, _, _⟩ hstalled
    have hnone := writeLoop_goesOn h (stalled_calls hstalled) fuel 0
    rw [taken, List.drop_zero] at hnone
    rw [hnone] at hw
    cases hw
  · intro hgoes
    have hfaithful : ∀ fuel w, writeLoop results fuel 0 data = some w → Faithful data w := by
      intro fuel w hw
      refine writeLoop_faithful fuel 0 hw ?_
      refine writeLoop_ne_panic h fuel 0 (by omega) ?_
      rwa [taken, List.drop_zero]
    refine ⟨?_, ?_, ?_⟩
    · obtain ⟨n, hn⟩ := not_forall.mp (mt stalled_of_calls hgoes)
      have hend : ∃ m, (results m).Fails ∨ data.length ≤ taken results m := by
        by_contra hnone
        apply hn
        refine ⟨fun i _ hfails => hnone ⟨i, .inl hfails⟩, ?_⟩
        by_contra hleft
        exact hnone ⟨n, .inr (by omega)⟩
      obtain ⟨m, hm⟩ := hend
      obtain ⟨w, hw⟩ := @writeLoop_ends results data h m hm m 0 (by omega) (by omega)
      rw [taken, List.drop_zero] at hw
      exact ⟨m + 1, w, hw⟩
    · intro fuel w hw
      rcases hfaithful fuel w hw with ⟨hok, hall⟩ | ⟨herr, _, hmissing⟩
      · exact iff_of_true hok hall
      · exact iff_of_false (by rw [herr]; exact Outcome.noConfusion) hmissing
    · intro fuel w hw hne
      rcases hfaithful fuel w hw with ⟨hok, _⟩ | hrest
      · exact absurd hok hne
      · exact hrest

/-- Both functions write all of the data, or report an error, unless the calls stall. -/
theorem writesAll_iff (h : Offered results data) :
    WritesAll Ptrace.writeAll results data ∧ WritesAll Logger.writeAll results data ↔
      ¬Stalled results data := by
  have hboth := writesAll_iff_goes h
  constructor
  · intro hwrites
    exact hboth.mp hwrites.1
  · intro hgoes
    exact ⟨hboth.mpr hgoes, hboth.mpr hgoes⟩

/-- An interrupted call, a call that takes one byte of two, and a call that takes the other. -/
def shortWrites (n : ℕ) : WriteResult := if n = 0 then ⟨-1#64, eintr⟩ else ⟨1#64, 0#32⟩

theorem writesAll_shortWrites :
    WritesAll Ptrace.writeAll shortWrites [65#8, 10#8] ∧
      WritesAll Logger.writeAll shortWrites [65#8, 10#8] := by
  have hone : ∀ n, 1 ≤ n → shortWrites n = ⟨1#64, 0#32⟩ := by
    intro n hn
    exact if_neg (by omega)
  have hstart : taken shortWrites 3 = 2 := by decide
  apply (writesAll_iff ?_).mpr
  · rintro ⟨n, _, hstalled⟩
    have hnext := hstalled (n + 1) (by omega)
    rw [hone (n + 1) (by omega)] at hnext
    rcases hnext with hzero | ⟨hsign, _⟩
    · exact absurd hzero (by decide)
    · exact absurd hsign (by decide)
  · rintro n ⟨_, hleft⟩
    have hlength : ([65#8, 10#8] : Bytes).length = 2 := rfl
    rw [hlength] at hleft ⊢
    have hn : n < 3 := by
      by_contra hge
      have hle := @taken_mono shortWrites 3 n (by omega)
      omega
    have hle := @taken_mono shortWrites (n + 1) 3 (by omega)
    omega

/-- A file that takes nothing and reports no error. -/
def takesNothing (_ : ℕ) : WriteResult := ⟨0#64, 0#32⟩

/-- Calls that take nothing are repeated for ever, although none is interrupted. -/
theorem takesNothing_not_ended :
    ¬∀ (results : ℕ → WriteResult) (data : Bytes), Offered results data →
      (∀ n, ∃ m, n ≤ m ∧ ¬(results m).Interrupted) →
      WritesAll Ptrace.writeAll results data ∧ WritesAll Logger.writeAll results data := by
  intro h
  have hzero : ∀ n, taken takesNothing n = 0 := by
    intro n
    induction n with
    | zero => rfl
    | succ n ih =>
      rw [taken, ih]
      rfl
  have hsign : ∀ n, ¬(takesNothing n).written.toInt < 0 := by
    intro n
    show ¬(0#64).toInt < 0
    decide
  have hoffered : Offered takesNothing [10#8] := by
    intro n _
    rw [hzero]
    exact Nat.zero_le _
  have hcalls : ∀ n, Calling takesNothing [10#8] n := by
    intro n
    refine ⟨fun i _ hfails => hsign i hfails.1, ?_⟩
    rw [hzero]
    decide
  have hsome := h takesNothing [10#8] hoffered fun n => ⟨n, le_refl n, fun hi => hsign n hi.1⟩
  obtain ⟨fuel, w, hw⟩ := hsome.1.terminates
  have hnone := writeLoop_goesOn hoffered hcalls fuel 0
  rw [taken, List.drop_zero] at hnone
  have hw' : writeLoop takesNothing fuel 0 [10#8] = some w := hw
  rw [hnone] at hw'
  cases hw'

end CudaTrace
