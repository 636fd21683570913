import CudaTrace.Base.Json

/-!
# JSON texts inside other texts

What the reader finds in a text it also finds with more text behind it, unless a number at the
end goes on there.
-/

namespace CudaTrace.Base
namespace Json

variable {cs r : List Char}

/-! ### Strings -/

theorem unicodeEscape_append {c : Char} (h : unicodeEscape cs = some (c, r)) (rest : List Char) :
    unicodeEscape (cs ++ rest) = some (c, r ++ rest) := by
  unfold unicodeEscape at h ⊢
  simp only [Option.bind_eq_bind, Option.bind_eq_some_iff, Prod.exists] at h ⊢
  obtain ⟨u, tail, hu, h⟩ := h
  refine ⟨u, tail ++ rest, hex4_append rest hu, ?_⟩
  by_cases hplain : u < 0xd800 ∨ 0xdfff < u
  · rw [if_pos hplain] at h ⊢
    cases h
    rfl
  · rw [if_neg hplain] at h ⊢
    split at h
    · obtain ⟨⟨l, tail⟩, hl, h⟩ := Option.bind_eq_some_iff.mp h
      simp only [List.cons_append, hex4_append rest hl, Option.bind_some]
      by_cases hlow : u < 0xdc00 ∧ 0xdc00 ≤ l ∧ l ≤ 0xdfff
      · rw [if_pos hlow, Option.some.injEq, Prod.mk.injEq] at h ⊢
        have hrest : tail = r := h.2
        exact ⟨h.1, by rw [hrest]⟩
      · rw [if_neg hlow] at h
        cases h
    · cases h

theorem stringChar_append {c : Char} (h : stringChar cs = some (c, r)) (rest : List Char) :
    stringChar (cs ++ rest) = some (c, r ++ rest) := by
  cases cs with
  | nil => cases h
  | cons a cs =>
    rw [List.cons_append]
    by_cases hslash : a = '\\'
    · cases cs with
      | nil => simp [stringChar, hslash] at h
      | cons e cs =>
        simp only [stringChar, if_pos hslash, List.cons_append] at h ⊢
        by_cases hunicode : e = 'u'
        · rw [if_pos hunicode] at h ⊢
          exact unicodeEscape_append h rest
        · rw [if_neg hunicode] at h ⊢
          obtain ⟨d, hd, he⟩ := Option.map_eq_some_iff.mp h
          cases he
          rw [hd]
          rfl
    · simp only [stringChar, if_neg hslash] at h ⊢
      split_ifs at h ⊢
      cases h
      rfl

theorem stringChars_append {fuel fuel' : ℕ} {ds : List Char} (h : stringChars fuel cs = some (ds, r))
    (hfuel : fuel ≤ fuel') (rest : List Char) :
    stringChars fuel' (cs ++ rest) = some (ds, r ++ rest) := by
  induction fuel generalizing fuel' cs ds with
  | zero => cases h
  | succ fuel ih =>
    obtain ⟨fuel', rfl⟩ : ∃ f, fuel' = f + 1 := ⟨fuel' - 1, by omega⟩
    cases cs with
    | nil => cases h
    | cons c cs =>
      rw [List.cons_append]
      unfold stringChars at h ⊢
      split_ifs at h ⊢ with hquote
      · cases h
        rfl
      · simp only [Option.bind_eq_bind, Option.bind_eq_some_iff, Prod.exists] at h ⊢
        obtain ⟨d, tail, hd, ds', more, hds, he⟩ := h
        cases he
        exact ⟨d, tail ++ rest, stringChar_append hd rest, ds', r ++ rest, ih hds (by omega), rfl⟩

theorem string_append {s : String} (h : string cs = some (s, r)) (rest : List Char) :
    string (cs ++ rest) = some (s, r ++ rest) := by
  unfold string at h ⊢
  obtain ⟨⟨ds, tail⟩, hds, he⟩ := Option.map_eq_some_iff.mp h
  cases he
  have hlonger : cs.length ≤ (cs ++ rest).length := by
    rw [List.length_append]
    omega
  rw [stringChars_append hds hlonger rest]
  rfl

/-! ### Numbers and literals -/

/-- A run of digits ends where it ended, or at the end of the text. -/
theorem digits_append (hdrop : cs.dropWhile Char.isDigit = r) {rest : List Char}
    (h : r = [] → Follows rest) :
    (cs ++ rest).takeWhile Char.isDigit = cs.takeWhile Char.isDigit ∧
      (cs ++ rest).dropWhile Char.isDigit = r ++ rest := by
  have hdigits : ∀ c ∈ cs.takeWhile Char.isDigit, c.isDigit = true :=
    fun c hc => List.all_eq_true.mp List.all_takeWhile c hc
  have hsplit : cs = cs.takeWhile Char.isDigit ++ r := by
    rw [← hdrop, List.takeWhile_append_dropWhile]
  have hstop : ∀ c ∈ (r ++ rest).head?, c.isDigit = false := by
    intro c hc
    cases r with
    | nil => exact (h rfl c hc).1
    | cons d r =>
      have hfirst := List.head?_dropWhile_not Char.isDigit cs
      rw [hdrop] at hfirst
      cases hc
      exact hfirst
  have hwhole : cs ++ rest = cs.takeWhile Char.isDigit ++ (r ++ rest) := by
    rw [← List.append_assoc, ← hsplit]
  rw [hwhole, List.takeWhile_append_of_pos hdigits, List.dropWhile_append_of_pos hdigits]
  cases hnext : r ++ rest with
  | nil => simp
  | cons c cs' =>
    have hc := hstop c (by rw [hnext]; rfl)
    simp [hc]

theorem sign_append (hne : cs ≠ []) (rest : List Char) :
    sign (cs ++ rest) = ((sign cs).1, (sign cs).2 ++ rest) := by
  cases cs with
  | nil => exact absurd rfl hne
  | cons c cs =>
    simp only [sign, List.cons_append]
    split_ifs
    · rfl
    · rfl

theorem fraction_append {fs : List Char} (h : fraction cs = some (fs, r)) {rest : List Char}
    (hrest : r = [] → Follows rest) : fraction (cs ++ rest) = some (fs, r ++ rest) := by
  cases cs with
  | nil =>
    cases h
    exact fraction_of_follows (hrest rfl)
  | cons c cs =>
    simp only [fraction, List.cons_append] at h ⊢
    by_cases hpoint : c = '.'
    · rw [if_pos hpoint] at h ⊢
      by_cases hnone : (cs.takeWhile Char.isDigit).isEmpty = true
      · rw [if_pos hnone] at h
        cases h
      · rw [if_neg hnone, Option.some.injEq, Prod.mk.injEq] at h
        obtain ⟨htake, hdrop⟩ := digits_append h.2 hrest
        rw [htake, hdrop, if_neg hnone, h.1]
    · rw [if_neg hpoint] at h ⊢
      cases h
      rfl

/-- What stands behind the sign of an exponent. -/
theorem exponent_append {ds : List Char} (hne : ds ≠ []) (rest : List Char) :
    (if (ds ++ rest).head? = some '+' then (false, (ds ++ rest).tail) else sign (ds ++ rest)) =
      ((if ds.head? = some '+' then (false, ds.tail) else sign ds).1,
        (if ds.head? = some '+' then (false, ds.tail) else sign ds).2 ++ rest) := by
  rw [List.head?_append_of_ne_nil _ hne]
  split_ifs
  · rw [List.tail_append_of_ne_nil hne]
  · exact sign_append hne rest

theorem power_append {e : ℤ} (h : power cs = some (e, r)) {rest : List Char}
    (hrest : r = [] → Follows rest) : power (cs ++ rest) = some (e, r ++ rest) := by
  cases cs with
  | nil =>
    cases h
    exact power_of_follows (hrest rfl)
  | cons c cs =>
    simp only [power, List.cons_append] at h ⊢
    by_cases hexponent : c = 'e' ∨ c = 'E'
    · rw [if_pos hexponent] at h ⊢
      by_cases hnone : cs = []
      · rw [hnone] at h
        cases h
      · rw [exponent_append hnone rest]
        generalize (if cs.head? = some '+' then (false, cs.tail) else sign cs) = signed at h ⊢
        obtain ⟨negative, ds⟩ := signed
        simp only at h ⊢
        by_cases hempty : (ds.takeWhile Char.isDigit).isEmpty = true
        · rw [if_pos hempty] at h
          cases h
        · rw [if_neg hempty, Option.some.injEq, Prod.mk.injEq] at h
          obtain ⟨htake, hdrop⟩ := digits_append h.2 hrest
          rw [htake, hdrop, if_neg hempty, h.1]
    · rw [if_neg hexponent] at h ⊢
      cases h
      rfl

theorem number_append {j : Json} (h : number cs = some (j, r)) {rest : List Char}
    (hrest : r = [] → Follows rest) : number (cs ++ rest) = some (j, r ++ rest) := by
  by_cases hnone : cs = []
  · rw [hnone] at h
    cases h
  · unfold number at h ⊢
    rw [sign_append hnone rest]
    generalize sign cs = signed at h ⊢
    obtain ⟨negative, ds⟩ := signed
    simp only [Option.bind_eq_bind] at h ⊢
    by_cases hbad : (ds.takeWhile Char.isDigit).isEmpty = true ∨
        ((ds.takeWhile Char.isDigit).head? = some '0' ∧ 1 < (ds.takeWhile Char.isDigit).length)
    · rw [if_pos hbad] at h
      cases h
    · rw [if_neg hbad] at h
      obtain ⟨⟨fs, afterFraction⟩, hfraction, h⟩ := Option.bind_eq_some_iff.mp h
      obtain ⟨⟨e, afterPower⟩, hpower, h⟩ := Option.bind_eq_some_iff.mp h
      cases h
      have hpower' := power_append hpower hrest
      have hfollows : afterFraction = [] → Follows rest := by
        intro hnil
        rw [hnil] at hpower
        cases hpower
        exact hrest rfl
      have hfraction' := fraction_append hfraction hfollows
      have hdigits : ds.dropWhile Char.isDigit = [] → Follows rest := by
        intro hnil
        rw [hnil] at hfraction
        cases hfraction
        exact hfollows rfl
      obtain ⟨htake, hdrop⟩ := digits_append rfl hdigits
      rw [htake, hdrop, if_neg hbad, hfraction', Option.bind_some, hpower', Option.bind_some]

theorem take_append_of_eq {word : List Char} {n : ℕ} (h : cs.take n = word) (hlength : word.length = n)
    (rest : List Char) : (cs ++ rest).take n = word ∧ (cs ++ rest).drop n = cs.drop n ++ rest := by
  have hn : n ≤ cs.length := by
    rw [← h, List.length_take] at hlength
    omega
  exact ⟨by rw [List.take_append_of_le_length hn, h], List.drop_append_of_le_length hn⟩

theorem literal_append {j : Json} (h : literal cs = some (j, r)) (rest : List Char) :
    literal (cs ++ rest) = some (j, r ++ rest) := by
  unfold literal at h ⊢
  by_cases hnull : cs.take 4 = ['n', 'u', 'l', 'l']
  · rw [if_pos hnull] at h
    obtain ⟨htake, hdrop⟩ := take_append_of_eq hnull rfl rest
    cases h
    rw [if_pos htake, hdrop]
  · rw [if_neg hnull] at h
    by_cases htrue : cs.take 4 = ['t', 'r', 'u', 'e']
    · rw [if_pos htrue] at h
      obtain ⟨htake, hdrop⟩ := take_append_of_eq htrue rfl rest
      cases h
      rw [htake, if_neg (by decide), if_pos rfl, hdrop]
    · rw [if_neg htrue] at h
      by_cases hfalse : cs.take 5 = ['f', 'a', 'l', 's', 'e']
      · rw [if_pos hfalse] at h
        obtain ⟨htake, hdrop⟩ := take_append_of_eq hfalse rfl rest
        have hfour : (cs ++ rest).take 4 = ['f', 'a', 'l', 's'] := by
          have hshort := congrArg (List.take 4) htake
          rw [List.take_take] at hshort
          exact hshort
        cases h
        rw [hfour, if_neg (by decide), if_neg (by decide), if_pos htake, hdrop]
      · rw [if_neg hfalse] at h
        cases h

/-! ### Values -/

theorem skipSpace_append {c : Char} {tail : List Char} (h : skipSpace cs = c :: tail)
    (rest : List Char) : skipSpace (cs ++ rest) = c :: (tail ++ rest) := by
  unfold skipSpace at h ⊢
  rw [List.dropWhile_append, h]
  rfl

/-- What the three readers find they find with more text behind it and with more turns. -/
structure Extends (fuel : ℕ) : Prop where
  value : ∀ {cs r : List Char} {j : Json} {fuel' : ℕ} {rest : List Char},
    value fuel cs = some (j, r) → fuel ≤ fuel' → (r = [] → Follows rest) →
      Json.value fuel' (cs ++ rest) = some (j, r ++ rest)
  elements : ∀ {cs r : List Char} {js : List Json} {fuel' : ℕ} (rest : List Char),
    elements fuel cs = some (js, r) → fuel ≤ fuel' →
      Json.elements fuel' (cs ++ rest) = some (js, r ++ rest)
  members : ∀ {cs r : List Char} {ms : List (String × Json)} {fuel' : ℕ} (rest : List Char),
    members fuel cs = some (ms, r) → fuel ≤ fuel' →
      Json.members fuel' (cs ++ rest) = some (ms, r ++ rest)

theorem skipSpace_ne_nil {fuel : ℕ} {js : List Json} (h : elements fuel cs = some (js, r)) :
    skipSpace cs ≠ [] := by
  intro hnil
  cases fuel with
  | zero => cases h
  | succ fuel =>
    have hvalue : Json.value fuel cs = none := by
      cases fuel with
      | zero => rfl
      | succ fuel => simp only [value, hnil]
    simp only [elements, hvalue, Option.bind_eq_bind, Option.bind_none] at h
    cases h

variable {fuel : ℕ}

theorem Extends.value_succ (ih : Extends fuel) {cs r : List Char} {j : Json} {fuel' : ℕ}
    {rest : List Char} (h : Json.value (fuel + 1) cs = some (j, r)) (hfuel : fuel + 1 ≤ fuel')
    (hrest : r = [] → Follows rest) : Json.value fuel' (cs ++ rest) = some (j, r ++ rest) := by
  obtain ⟨fuel', rfl⟩ : ∃ f, fuel' = f + 1 := ⟨fuel' - 1, by omega⟩
  have hle : fuel ≤ fuel' := by omega
  cases hcs : skipSpace cs with
  | nil =>
    simp only [Json.value, hcs] at h
    cases h
  | cons c tail =>
    simp only [Json.value, hcs, skipSpace_append hcs rest] at h ⊢
    by_cases hquote : c = '"'
    · rw [if_pos hquote] at h ⊢
      obtain ⟨⟨s, after⟩, hs, he⟩ := Option.map_eq_some_iff.mp h
      cases he
      rw [string_append hs rest]
      rfl
    · rw [if_neg hquote] at h ⊢
      by_cases hbracket : c = '['
      · rw [if_pos hbracket] at h ⊢
        cases hinside : skipSpace tail with
        | nil =>
          rw [hinside] at h
          obtain ⟨⟨js, after⟩, hs, he⟩ := Option.map_eq_some_iff.mp h
          exact absurd hinside (skipSpace_ne_nil hs)
        | cons d inside =>
          rw [hinside] at h
          rw [skipSpace_append hinside rest]
          by_cases hclose : d = ']'
          · rw [List.head?_cons, if_pos (by rw [hclose])] at h ⊢
            cases h
            rfl
          · have hopen : ¬some d = some ']' := fun he => hclose (Option.some.inj he)
            rw [List.head?_cons, if_neg hopen] at h ⊢
            obtain ⟨⟨js, after⟩, hs, he⟩ := Option.map_eq_some_iff.mp h
            cases he
            rw [ih.elements rest hs hle]
            rfl
      · rw [if_neg hbracket] at h ⊢
        by_cases hbrace : c = '{'
        · rw [if_pos hbrace] at h ⊢
          cases hinside : skipSpace tail with
          | nil =>
            rw [hinside] at h
            obtain ⟨⟨ms, after⟩, hs, he⟩ := Option.map_eq_some_iff.mp h
            cases fuel with
            | zero => cases hs
            | succ fuel =>
              simp only [Json.members, hinside] at hs
              cases hs
          | cons d inside =>
            rw [hinside] at h
            rw [skipSpace_append hinside rest]
            by_cases hclose : d = '}'
            · rw [List.head?_cons, if_pos (by rw [hclose])] at h ⊢
              cases h
              rfl
            · have hopen : ¬some d = some '}' := fun he => hclose (Option.some.inj he)
              rw [List.head?_cons, if_neg hopen] at h ⊢
              obtain ⟨⟨ms, after⟩, hs, he⟩ := Option.map_eq_some_iff.mp h
              cases he
              rw [ih.members rest hs hle]
              rfl
        · rw [if_neg hbrace] at h ⊢
          by_cases hnumber : c = '-' ∨ c.isDigit = true
          · rw [if_pos hnumber] at h ⊢
            exact number_append h hrest
          · rw [if_neg hnumber] at h ⊢
            exact literal_append h rest

theorem Extends.elements_succ (ih : Extends fuel) {cs r : List Char} {js : List Json} {fuel' : ℕ}
    (rest : List Char) (h : Json.elements (fuel + 1) cs = some (js, r)) (hfuel : fuel + 1 ≤ fuel') :
    Json.elements fuel' (cs ++ rest) = some (js, r ++ rest) := by
  obtain ⟨fuel', rfl⟩ : ∃ f, fuel' = f + 1 := ⟨fuel' - 1, by omega⟩
  have hle : fuel ≤ fuel' := by omega
  simp only [Json.elements, Option.bind_eq_bind] at h ⊢
  obtain ⟨⟨v, after⟩, hv, h⟩ := Option.bind_eq_some_iff.mp h
  cases hafter : skipSpace after with
  | nil =>
    simp only [hafter] at h
    cases h
  | cons c tail =>
    have hbehind : after = [] → Follows rest := by
      intro hnil
      rw [hnil] at hafter
      cases hafter
    rw [ih.value hv hle hbehind, Option.bind_some]
    simp only [hafter, skipSpace_append hafter rest] at h ⊢
    split at h
    · rename_i more heq
      obtain ⟨rfl, rfl⟩ := List.cons.inj heq
      obtain ⟨⟨vs, last⟩, hvs, h⟩ := Option.bind_eq_some_iff.mp h
      cases h
      simp only [ih.elements rest hvs hle, Option.bind_some]
    · rename_i more heq
      obtain ⟨rfl, rfl⟩ := List.cons.inj heq
      cases h
      rfl
    · cases h

theorem Extends.members_succ (ih : Extends fuel) {cs r : List Char} {ms : List (String × Json)}
    {fuel' : ℕ} (rest : List Char) (h : Json.members (fuel + 1) cs = some (ms, r))
    (hfuel : fuel + 1 ≤ fuel') : Json.members fuel' (cs ++ rest) = some (ms, r ++ rest) := by
  obtain ⟨fuel', rfl⟩ : ∃ f, fuel' = f + 1 := ⟨fuel' - 1, by omega⟩
  have hle : fuel ≤ fuel' := by omega
  cases hcs : skipSpace cs with
  | nil =>
    simp only [Json.members, hcs] at h
    cases h
  | cons c tail =>
    simp only [Json.members, hcs, skipSpace_append hcs rest, Option.bind_eq_bind] at h ⊢
    split at h
    · rename_i name heq
      obtain ⟨rfl, rfl⟩ := List.cons.inj heq
      obtain ⟨⟨k, afterKey⟩, hk, h⟩ := Option.bind_eq_some_iff.mp h
      simp only [string_append hk rest, Option.bind_some]
      cases hcolon : skipSpace afterKey with
      | nil =>
        simp only [hcolon] at h
        cases h
      | cons d value =>
        simp only [hcolon, skipSpace_append hcolon rest] at h ⊢
        split at h
        · rename_i text heq
          obtain ⟨rfl, rfl⟩ := List.cons.inj heq
          obtain ⟨⟨v, after⟩, hv, h⟩ := Option.bind_eq_some_iff.mp h
          cases hafter : skipSpace after with
          | nil =>
            simp only [hafter] at h
            cases h
          | cons e tail =>
            have hbehind : after = [] → Follows rest := by
              intro hnil
              rw [hnil] at hafter
              cases hafter
            simp only [ih.value hv hle hbehind, Option.bind_some, hafter,
              skipSpace_append hafter rest] at h ⊢
            split at h
            · rename_i more heq
              obtain ⟨rfl, rfl⟩ := List.cons.inj heq
              obtain ⟨⟨ms', last⟩, hms, h⟩ := Option.bind_eq_some_iff.mp h
              cases h
              simp only [ih.members rest hms hle, Option.bind_some]
            · rename_i more heq
              obtain ⟨rfl, rfl⟩ := List.cons.inj heq
              cases h
              rfl
            · cases h
        · cases h
    · cases h

theorem extends_all (fuel : ℕ) : Extends fuel := by
  induction fuel with
  | zero =>
    refine ⟨?_, ?_, ?_⟩
    · intro cs r j fuel' rest h
      cases h
    · intro cs r js fuel' rest h
      cases h
    · intro cs r ms fuel' rest h
      cases h
  | succ fuel ih => exact ⟨ih.value_succ, ih.elements_succ, ih.members_succ⟩

/-- A text that is read as a whole is read inside another text. -/
theorem yields_of_parse {t : String} {j : Json} (h : parse t = some j) : Yields t.toList j := by
  intro fuel rest hfuel hrest
  unfold parse at h
  cases hv : Json.value (t.toList.length + 1) t.toList with
  | none =>
    rw [hv] at h
    cases h
  | some p =>
    obtain ⟨v, r⟩ := p
    rw [hv] at h
    simp only at h
    split_ifs at h with hspace
    cases h
    refine ⟨r ++ rest, (extends_all _).value hv (by omega) fun _ => hrest, ?_⟩
    have hblank : ∀ c ∈ r, isSpace c = true := by
      intro c hc
      by_contra hsolid
      have hnil : skipSpace r = [] := List.isEmpty_iff.mp hspace
      exact hsolid (List.dropWhile_eq_nil_iff.mp hnil c hc)
    exact List.dropWhile_append_of_pos hblank

end Json
end CudaTrace.Base
