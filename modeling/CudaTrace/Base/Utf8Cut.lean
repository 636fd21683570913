import CudaTrace.Base.Utf8

/-!
# Cutting a lossy decoding

A byte that does not continue a sequence starts a new part of the decoding, so the text before
it can be decoded alone. From this follows when one more copy of the last byte does not show.
-/

namespace CudaTrace.Base

theorem isContinuation_iff {b : UInt8} : isContinuation b = true ↔ 0x80 ≤ b.toNat ∧ b.toNat ≤ 0xbf := by
  simp [isContinuation, UInt8.le_iff_toNat_le]

theorem isContinuation_of_secondByteOk {lead b : UInt8} (h : secondByteOk lead b = true) :
    isContinuation b = true := by
  rw [isContinuation_iff]
  unfold secondByteOk at h
  split_ifs at h
  all_goals
    simp only [Bool.and_eq_true, decide_eq_true_eq, UInt8.le_iff_toNat_le, isContinuation_iff] at h
    have h80 : (0x80 : UInt8).toNat = 0x80 := rfl
    have h8f : (0x8f : UInt8).toNat = 0x8f := rfl
    have h90 : (0x90 : UInt8).toNat = 0x90 := rfl
    have h9f : (0x9f : UInt8).toNat = 0x9f := rfl
    have ha0 : (0xa0 : UInt8).toNat = 0xa0 := rfl
    have hbf : (0xbf : UInt8).toNat = 0xbf := rfl
    omega

/-- An encoded character is a byte that starts a sequence and bytes that continue it; the
leading bytes from `0xf0` on take three of these. -/
theorem encode_shape (c : Char) : ∃ lead conts, String.utf8EncodeChar c = lead :: conts ∧
    isContinuation lead = false ∧ (∀ b ∈ conts, isContinuation b = true) ∧
    (0xf0 ≤ lead → conts.length = 3) := by
  have hlead : ∀ n, (n < 0x80 ∨ 0xc0 ≤ n) → n < 256 → isContinuation (UInt8.ofNat n) = false := by
    intro n hn hlt
    rw [Bool.eq_false_iff, ne_eq, isContinuation_iff, UInt8.toNat_ofNat']
    omega
  have hcont : ∀ n, isContinuation (UInt8.ofNat (n % 0x40 + 0x80)) = true := by
    intro n
    rw [isContinuation_iff, UInt8.toNat_ofNat']
    omega
  have hlow : ∀ n < 0xf0, ¬ (0xf0 : UInt8) ≤ UInt8.ofNat n := by
    intro n hn hle
    have hf0 : (0xf0 : UInt8).toNat = 0xf0 := rfl
    rw [UInt8.le_iff_toNat_le, UInt8.toNat_ofNat'] at hle
    omega
  unfold String.utf8EncodeChar
  dsimp only
  split_ifs
  · refine ⟨_, _, rfl, hlead _ (by omega) (by omega), by simp, fun h => absurd h (hlow _ (by omega))⟩
  · refine ⟨_, _, rfl, hlead _ (by omega) (by omega), ?_, fun h => absurd h (hlow _ (by omega))⟩
    exact List.forall_mem_singleton.mpr (hcont _)
  · refine ⟨_, _, rfl, hlead _ (by omega) (by omega), ?_, fun h => absurd h (hlow _ (by omega))⟩
    exact List.forall_mem_cons.mpr ⟨hcont _, List.forall_mem_singleton.mpr (hcont _)⟩
  · refine ⟨_, _, rfl, hlead _ (by omega) (by omega), ?_, fun _ => rfl⟩
    exact List.forall_mem_cons.mpr ⟨hcont _, List.forall_mem_cons.mpr ⟨hcont _,
      List.forall_mem_singleton.mpr (hcont _)⟩⟩

/-! ### The decoding without fuel -/

theorem invalidLen_pos (lead : UInt8) (rest : List UInt8) : 0 < invalidLen lead rest := by
  unfold invalidLen
  split_ifs <;> decide

theorem lossyChars_fuel (bytes : List UInt8) (fuel : ℕ) (h : bytes.length ≤ fuel) :
    lossyChars fuel bytes = lossyChars bytes.length bytes := by
  induction hn : bytes.length using Nat.strongRecOn generalizing bytes fuel with
  | ind n ih =>
    cases bytes with
    | nil =>
      subst hn
      cases fuel <;> rfl
    | cons b rest =>
      subst hn
      obtain ⟨fuel, rfl⟩ : ∃ k, fuel = k + 1 := ⟨fuel - 1, by simp at h; omega⟩
      have hrest : rest.length ≤ fuel := by simpa using h
      have hdrop : ∀ k, 0 < k → lossyChars fuel ((b :: rest).drop k) =
          lossyChars rest.length ((b :: rest).drop k) := by
        intro k hk
        have hlen : ((b :: rest).drop k).length ≤ rest.length := by
          rw [List.length_drop, List.length_cons]
          omega
        rw [ih _ (by rw [List.length_cons]; omega) _ fuel (by omega) rfl,
          ih _ (by rw [List.length_cons]; omega) _ rest.length hlen rfl]
      simp only [List.length_cons, lossyChars]
      cases (b :: rest).toByteArray.utf8DecodeChar? 0 with
      | none => simp only [hdrop _ (invalidLen_pos b rest)]
      | some c => simp only [hdrop _ c.utf8Size_pos]

/-- The characters of a lossy decoding. -/
def lossy (bytes : List UInt8) : List Char := lossyChars bytes.length bytes

theorem lossy_nil : lossy [] = [] := rfl

/-- The character that the bytes start with, if they start with an encoded one. -/
def leading (bytes : List UInt8) : Option Char := bytes.toByteArray.utf8DecodeChar? 0

theorem leading_iff {bytes : List UInt8} {c : Char} :
    leading bytes = some c ↔ ∃ rest, bytes = String.utf8EncodeChar c ++ rest := by
  constructor
  · intro h
    obtain ⟨tail, htail⟩ := ByteArray.exists_of_utf8DecodeChar?_eq_some h
    have hlist : tail = tail.data.toList.toByteArray := by
      apply ByteArray.ext
      rw [List.data_toByteArray, Array.toArray_toList]
    rw [hlist, ← List.toByteArray_append, List.toByteArray_inj] at htail
    exact ⟨_, htail⟩
  · rintro ⟨rest, rfl⟩
    rw [leading, List.toByteArray_append]
    exact ByteArray.utf8DecodeChar?_utf8EncodeChar_append

theorem lossy_some {bytes : List UInt8} {c : Char} (h : leading bytes = some c) :
    lossy bytes = c :: lossy (bytes.drop c.utf8Size) := by
  obtain ⟨rest, rfl⟩ := leading_iff.mp h
  have hlen := String.length_utf8EncodeChar c
  have hpos := c.utf8Size_pos
  obtain ⟨n, hn⟩ : ∃ n, (String.utf8EncodeChar c ++ rest).length = n + 1 :=
    ⟨(String.utf8EncodeChar c ++ rest).length - 1, by rw [List.length_append]; omega⟩
  rw [lossy, hn, lossyChars_encode, ← hlen, List.drop_left, lossy]
  rw [List.length_append] at hn
  rw [lossyChars_fuel _ n (by omega)]

theorem lossy_none {b : UInt8} {rest : List UInt8} (h : leading (b :: rest) = none) :
    lossy (b :: rest) = '\uFFFD' :: lossy ((b :: rest).drop (invalidLen b rest)) := by
  have hpos := invalidLen_pos b rest
  have hlen : ((b :: rest).drop (invalidLen b rest)).length ≤ rest.length := by
    rw [List.length_drop, List.length_cons]
    omega
  rw [lossy, List.length_cons, lossyChars]
  rw [leading] at h
  rw [h]
  dsimp only
  rw [lossyChars_fuel _ _ hlen, lossy]

/-! ### Cutting before a byte that starts a sequence -/

/-- What starts a text still starts it when more follows. -/
theorem leading_append {bytes : List UInt8} {c : Char} (h : leading bytes = some c)
    (more : List UInt8) : leading (bytes ++ more) = some c := by
  obtain ⟨rest, rfl⟩ := leading_iff.mp h
  exact leading_iff.mpr ⟨rest ++ more, by rw [List.append_assoc]⟩

/-- A character of the longer text that ends within the shorter one starts that as well. -/
theorem leading_of_append {bytes more : List UInt8} {c : Char}
    (h : leading (bytes ++ more) = some c) (hlen : c.utf8Size ≤ bytes.length) :
    leading bytes = some c := by
  obtain ⟨rest, hrest⟩ := leading_iff.mp h
  rw [← String.length_utf8EncodeChar c] at hlen
  have hstarts : String.utf8EncodeChar c <+: bytes :=
    List.prefix_of_prefix_length_le ⟨rest, hrest.symm⟩ (List.prefix_append _ _) hlen
  obtain ⟨tail, htail⟩ := hstarts
  exact leading_iff.mpr ⟨tail, htail.symm⟩

theorem invalidLen_le (lead : UInt8) (rest : List UInt8) : invalidLen lead rest ≤ rest.length + 1 := by
  have hzero : secondByteOk lead 0 = false := by
    rw [Bool.eq_false_iff]
    exact fun h => absurd (isContinuation_of_secondByteOk h) (by decide)
  have hend : isContinuation 0 = false := by decide
  cases rest with
  | nil => simp [invalidLen, hzero]
  | cons x rest =>
    cases rest with
    | nil =>
      simp only [invalidLen, List.getD_cons_zero, List.getD_cons_succ, List.getD_nil, hend,
        Bool.and_false, Bool.false_eq_true, if_false, List.length_cons, List.length_nil]
      split_ifs <;> omega
    | cons y rest =>
      simp only [invalidLen, List.length_cons]
      split_ifs <;> omega

theorem invalidLen_cut {b : UInt8} (hb : isContinuation b = false) (lead : UInt8)
    (xs ys : List UInt8) : invalidLen lead (xs ++ b :: ys) = invalidLen lead xs := by
  have hno : ∀ x, isContinuation x = false → secondByteOk lead x = false := by
    intro x hx
    rw [Bool.eq_false_iff]
    intro h
    rw [isContinuation_of_secondByteOk h] at hx
    cases hx
  have hend : isContinuation 0 = false := by decide
  cases xs with
  | nil => simp [invalidLen, hno b hb, hno 0 hend]
  | cons x xs =>
    cases xs with
    | nil => simp [invalidLen, hb, hend]
    | cons y xs => simp [invalidLen]

theorem lossy_cut {b : UInt8} (hb : isContinuation b = false) (xs ys : List UInt8) :
    lossy (xs ++ b :: ys) = lossy xs ++ lossy (b :: ys) := by
  induction hn : xs.length using Nat.strongRecOn generalizing xs with
  | ind n ih =>
    subst hn
    cases xs with
    | nil => rfl
    | cons x xs =>
      have hrest : ∀ k, 0 < k → k ≤ (x :: xs).length →
          lossy ((x :: xs ++ b :: ys).drop k) = lossy ((x :: xs).drop k) ++ lossy (b :: ys) := by
        intro k hk hle
        rw [List.drop_append_of_le_length hle]
        exact ih _ (by rw [List.length_drop]; simp only [List.length_cons]; omega) _ rfl
      cases hlead : leading (x :: xs ++ b :: ys) with
      | some c =>
        have hsize : c.utf8Size ≤ (x :: xs).length := by
          by_contra hlong
          obtain ⟨first, conts, hshape, _, hconts, _⟩ := encode_shape c
          obtain ⟨tail, htail⟩ := leading_iff.mp hlead
          have hlen := String.length_utf8EncodeChar c
          rw [hshape, List.length_cons] at hlen
          rw [hshape] at htail
          have hmem := congrArg (fun l => l[(x :: xs).length]?) htail
          have hin : xs.length < conts.length := by
            simp only [List.length_cons] at hlong
            omega
          simp only [List.getElem?_append_right (Nat.le_refl _), Nat.sub_self, List.cons_append,
            List.length_cons, List.getElem?_cons_succ, List.getElem?_cons_zero,
            List.getElem?_append_left hin] at hmem
          rw [hconts b (List.mem_of_getElem? (by simpa using hmem.symm))] at hb
          cases hb
        rw [lossy_some hlead, lossy_some (leading_of_append hlead hsize),
          hrest _ c.utf8Size_pos hsize, List.cons_append]
      | none =>
        have hshort : leading (x :: xs) = none := by
          cases hc : leading (x :: xs) with
          | none => rfl
          | some c =>
            rw [leading_append hc] at hlead
            cases hlead
        have hlong : leading (x :: (xs ++ b :: ys)) = none := hlead
        have htail := hrest _ (invalidLen_pos x xs) (invalidLen_le x xs)
        rw [List.cons_append] at htail
        rw [lossy_none hshort, List.cons_append, lossy_none hlong, invalidLen_cut hb, htail,
          List.cons_append]

theorem leading_cont {b : UInt8} (hb : isContinuation b = true) (rest : List UInt8) :
    leading (b :: rest) = none := by
  cases hlead : leading (b :: rest) with
  | none => rfl
  | some c =>
    obtain ⟨first, conts, hshape, hfirst, _⟩ := encode_shape c
    obtain ⟨tail, htail⟩ := leading_iff.mp hlead
    rw [hshape, List.cons_append, List.cons.injEq] at htail
    rw [← htail.1, hb] at hfirst
    cases hfirst

theorem secondByteOk_cont {lead : UInt8} (h : isContinuation lead = true) (b : UInt8) :
    secondByteOk lead b = false := by
  rw [isContinuation_iff] at h
  have hne : ∀ x : UInt8, 0xc0 ≤ x.toNat → lead ≠ x := by
    rintro x hx rfl
    omega
  have hge : ∀ x : UInt8, 0xc0 ≤ x.toNat → ¬ x ≤ lead := by
    intro x hx hle
    rw [UInt8.le_iff_toNat_le] at hle
    omega
  simp [secondByteOk, hne 0xe0 (by decide), hne 0xed (by decide), hge 0xe1 (by decide),
    hne 0xf0 (by decide), hge 0xf1 (by decide), hne 0xf4 (by decide)]

/-- Bytes that continue nothing are replaced one by one. -/
theorem lossy_conts {bytes : List UInt8} (h : ∀ b ∈ bytes, isContinuation b = true) :
    lossy bytes = List.replicate bytes.length '\uFFFD' := by
  induction bytes with
  | nil => rfl
  | cons b bytes ih =>
    have hb := h b List.mem_cons_self
    have hone : invalidLen b bytes = 1 := by simp [invalidLen, secondByteOk_cont hb]
    rw [lossy_none (leading_cont hb bytes), hone, List.drop_one, List.tail_cons,
      ih fun x hx => h x (List.mem_cons_of_mem _ hx)]
    rfl

/-! ### One more copy of the last byte -/

theorem lossy_lead {lead b : UInt8} {conts : List UInt8} (hlead : isContinuation lead = false)
    (hconts : ∀ x ∈ conts, isContinuation x = true) (hb : isContinuation b = true) :
    lossy (lead :: (conts ++ [b] ++ [b])) = lossy (lead :: (conts ++ [b])) ↔
      conts = [] ∧ 0xf0 ≤ lead ∧ secondByteOk lead b = true := by
  have hshort : ∀ x ∈ conts ++ [b], isContinuation x = true := by
    intro x hx
    rcases List.mem_append.mp hx with hx | hx
    · exact hconts x hx
    · rwa [List.mem_singleton.mp hx]
  have hlong : ∀ x ∈ conts ++ [b] ++ [b], isContinuation x = true := by
    intro x hx
    rcases List.mem_append.mp hx with hx | hx
    · exact hshort x hx
    · rwa [List.mem_singleton.mp hx]
  have hrest : ∀ bytes : List UInt8, (∀ x ∈ bytes, isContinuation x = true) → ∀ k, 0 < k →
      lossy ((lead :: bytes).drop k) = List.replicate (bytes.length + 1 - k) '\uFFFD' := by
    intro bytes hbytes k hk
    obtain ⟨k, rfl⟩ : ∃ j, k = j + 1 := ⟨k - 1, by omega⟩
    rw [List.drop_succ_cons, lossy_conts fun x hx => hbytes x (List.mem_of_mem_drop hx),
      List.length_drop]
    congr 1
    omega
  cases hfirst : leading (lead :: (conts ++ [b])) with
  | some c =>
    -- a whole character stands before the bytes that are replaced
    have hmore : leading (lead :: (conts ++ [b] ++ [b])) = some c := leading_append hfirst [b]
    obtain ⟨first, tail, hshape, _, _, hfour⟩ := encode_shape c
    have hlen := String.length_utf8EncodeChar c
    obtain ⟨rest, hsplit⟩ := leading_iff.mp hfirst
    rw [lossy_some hfirst, lossy_some hmore, hrest _ hshort _ c.utf8Size_pos,
      hrest _ hlong _ c.utf8Size_pos]
    refine iff_of_false (fun he => ?_) fun ⟨hnil, hhigh, _⟩ => ?_
    · have hsize := congrArg List.length hsplit
      have hcount := congrArg List.length he
      simp only [List.length_cons, List.length_replicate, List.length_append, List.length_nil]
        at hcount hsize
      omega
    · rw [hshape, List.cons_append, List.cons.injEq] at hsplit
      have hsize := congrArg List.length hsplit.2
      rw [← hsplit.1] at hfour
      simp only [hnil, List.length_append, hfour hhigh, List.length_cons, List.length_nil] at hsize
      omega
  | none =>
    cases hmore : leading (lead :: (conts ++ [b] ++ [b])) with
    | some c =>
      -- the new byte completes a character, and that is not the replacement character
      have hwhole : lead :: (conts ++ [b] ++ [b]) = String.utf8EncodeChar c := by
        obtain ⟨rest, hsplit⟩ := leading_iff.mp hmore
        cases hnil : rest with
        | nil => rwa [hnil, List.append_nil] at hsplit
        | cons y ys =>
          have hle : c.utf8Size ≤ (lead :: (conts ++ [b])).length := by
            have hsize := congrArg List.length hsplit
            rw [hnil, List.length_append, String.length_utf8EncodeChar] at hsize
            simp only [List.length_cons, List.length_append, List.length_nil] at hsize ⊢
            omega
          have hsplit' : (lead :: (conts ++ [b])) ++ [b] = String.utf8EncodeChar c ++ rest := hsplit
          have hcut := leading_of_append (leading_iff.mpr ⟨rest, hsplit'⟩) hle
          rw [hfirst] at hcut
          cases hcut
      have hsize : c.utf8Size = (lead :: (conts ++ [b] ++ [b])).length := by
        rw [hwhole, String.length_utf8EncodeChar]
      obtain ⟨first, tail, hshape, _, _, hfour⟩ := encode_shape c
      rw [lossy_some hmore, lossy_none hfirst, hsize, List.drop_length, lossy_nil]
      refine iff_of_false (fun he => ?_) fun ⟨hnil, hhigh, _⟩ => ?_
      · have hchar : c = '\uFFFD' := by simpa using congrArg List.head? he
        have hbytes : String.utf8EncodeChar '\uFFFD' = [0xef, 0xbf, 0xbd] := by decide
        rw [hchar, hbytes] at hwhole
        have hlast := congrArg List.reverse hwhole
        simp only [List.reverse_cons, List.reverse_append, List.reverse_nil, List.nil_append,
          List.cons_append, List.cons.injEq] at hlast
        obtain ⟨rfl, hsecond, _⟩ := hlast
        exact absurd hsecond (by decide)
      · rw [hshape, List.cons.injEq] at hwhole
        rw [← hwhole.1] at hfour
        have hthree := hfour hhigh
        rw [← hwhole.2, hnil] at hthree
        simp at hthree
    | none =>
      rw [lossy_none hmore, lossy_none hfirst, List.cons.injEq, eq_self, true_and,
        hrest _ hlong _ (invalidLen_pos _ _), hrest _ hshort _ (invalidLen_pos _ _)]
      have hcount : ∀ m n, List.replicate m '\uFFFD' = List.replicate n '\uFFFD' ↔ m = n := by
        intro m n
        refine ⟨fun he => ?_, fun he => by rw [he]⟩
        simpa using congrArg List.length he
      have hle := invalidLen_le lead (conts ++ [b])
      have hle' := invalidLen_le lead (conts ++ [b] ++ [b])
      have hend : isContinuation 0 = false := by decide
      rw [hcount]
      simp only [List.length_append, List.length_cons, List.length_nil] at hle hle' ⊢
      cases conts with
      | nil =>
        by_cases hok : secondByteOk lead b
        · by_cases hhigh : 0xf0 ≤ lead
          · simp [invalidLen, hok, hhigh, hb, hend]
          · simp [invalidLen, hok, hhigh]
        · simp [invalidLen, hok]
      | cons x conts =>
        have hsame : invalidLen lead (x :: conts ++ [b] ++ [b]) = invalidLen lead (x :: conts ++ [b]) := by
          cases conts with
          | nil => simp [invalidLen]
          | cons y conts => simp [invalidLen]
        rw [hsame] at hle' ⊢
        simp only [reduceCtorEq, false_and, iff_false]
        omega

theorem split_at_lead (bytes : List UInt8) : (∀ b ∈ bytes, isContinuation b = true) ∨
    ∃ before lead conts, bytes = before ++ lead :: conts ∧ isContinuation lead = false ∧
      ∀ b ∈ conts, isContinuation b = true := by
  induction bytes with
  | nil => exact .inl (by simp)
  | cons x bytes ih =>
    rcases ih with hall | ⟨before, lead, conts, rfl, hlead, hconts⟩
    · cases hx : isContinuation x with
      | true => exact .inl (List.forall_mem_cons.mpr ⟨hx, hall⟩)
      | false => exact .inr ⟨[], x, bytes, rfl, hx, hall⟩
    · exact .inr ⟨x :: before, lead, conts, rfl, hlead, hconts⟩

/-- One more copy of the last byte does not show if and only if that byte is the second one of a
four byte sequence. -/
theorem lossy_repeat (bytes : List UInt8) (b : UInt8) :
    lossy (bytes ++ [b] ++ [b]) = lossy (bytes ++ [b]) ↔
      ∃ before lead, bytes = before ++ [lead] ∧ 0xf0 ≤ lead ∧ secondByteOk lead b = true := by
  cases hb : isContinuation b with
  | false =>
    have hcut := lossy_cut hb (bytes ++ [b]) []
    rw [hcut]
    refine iff_of_false (fun he => ?_) fun ⟨_, _, _, _, hok⟩ => ?_
    · rw [List.append_right_eq_self] at he
      cases hlead : leading [b] with
      | some c =>
        rw [lossy_some hlead] at he
        cases he
      | none =>
        rw [lossy_none hlead] at he
        cases he
    · rw [isContinuation_of_secondByteOk hok] at hb
      cases hb
  | true =>
    rcases split_at_lead bytes with hall | ⟨before, lead, conts, rfl, hlead, hconts⟩
    · have hshort : ∀ x ∈ bytes ++ [b], isContinuation x = true := by simpa [or_imp, forall_and, hb]
      have hlong : ∀ x ∈ bytes ++ [b] ++ [b], isContinuation x = true := by
        simpa [or_imp, forall_and, hb]
      rw [lossy_conts hshort, lossy_conts hlong]
      refine iff_of_false (fun he => ?_) fun ⟨before, lead, hbytes, _, hok⟩ => ?_
      · have hcount := congrArg List.length he
        simp at hcount
      · have hcont := hall lead (by simp [hbytes])
        rw [secondByteOk_cont hcont] at hok
        cases hok
    · have hlong : before ++ lead :: conts ++ [b] ++ [b] =
          before ++ lead :: (conts ++ [b] ++ [b]) := by simp
      have hshort : before ++ lead :: conts ++ [b] = before ++ lead :: (conts ++ [b]) := by simp
      rw [hlong, hshort, lossy_cut hlead, lossy_cut hlead, List.append_cancel_left_eq,
        lossy_lead hlead hconts hb]
      constructor
      · rintro ⟨rfl, hhigh, hok⟩
        exact ⟨before, lead, rfl, hhigh, hok⟩
      · rintro ⟨before', lead', heq, hhigh, hok⟩
        rcases List.eq_nil_or_concat conts with rfl | ⟨conts', x, rfl⟩
        · have hsame := (List.append_inj' heq rfl).2
          rw [List.cons.injEq] at hsame
          rw [hsame.1]
          exact ⟨rfl, hhigh, hok⟩
        · rw [List.concat_eq_append, ← List.cons_append, ← List.append_assoc] at heq
          have hsame := (List.append_inj' heq rfl).2
          rw [List.cons.injEq] at hsame
          rw [← hsame.1, secondByteOk_cont (hconts x (by simp))] at hok
          cases hok

theorem fromUtf8Lossy_repeat (bytes : List UInt8) (b : UInt8) :
    fromUtf8Lossy (bytes ++ [b] ++ [b]) = fromUtf8Lossy (bytes ++ [b]) ↔
      ∃ before lead, bytes = before ++ [lead] ∧ 0xf0 ≤ lead ∧ secondByteOk lead b = true := by
  rw [← lossy_repeat]
  refine ⟨fun h => ?_, fun h => congrArg String.ofList h⟩
  have hchars := congrArg String.toList h
  rwa [fromUtf8Lossy, fromUtf8Lossy, String.toList_ofList, String.toList_ofList] at hchars

end CudaTrace.Base
