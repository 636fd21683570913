import CudaTrace.Ptrace.SyscallText

/-!
# Reading flag words back (ptrace.rs)

The text of a flag word names the masks that are set, wider masks first, and ends with the
word itself. `FlagTable` says what the tokens before that last number stand for.
-/

namespace CudaTrace.Ptrace
open CudaTrace.Base CudaTrace.Decode

/-! ### Parts of a word -/

theorem and_eq_iff {w : ℕ} {x m : BitVec w} :
    x &&& m = m ↔ ∀ i, m.getLsbD i = true → x.getLsbD i = true := by
  refine ⟨fun h i hi => ?_, fun h => BitVec.eq_of_getLsbD_eq fun i _ => ?_⟩
  · rw [← h, BitVec.getLsbD_and, Bool.and_eq_true] at hi
    exact hi.1
  · rw [BitVec.getLsbD_and]
    cases hm : m.getLsbD i with
    | false => simp
    | true => simp [h i hm]

theorem and_eq_zero_iff {w : ℕ} {x y : BitVec w} :
    x &&& y = 0 ↔ ∀ i, x.getLsbD i = true → y.getLsbD i = false := by
  refine ⟨fun h i hi => ?_, fun h => BitVec.eq_of_getLsbD_eq fun i _ => ?_⟩
  · have hbit := congrArg (fun z => z.getLsbD i) h
    simpa [hi] using hbit
  · rw [BitVec.getLsbD_and]
    cases hx : x.getLsbD i with
    | false => simp
    | true => simp [h i hx]

/-- Values that share no bit and together make up the word. -/
structure Splits (values : List U64) (word : U64) : Prop where
  apart : values.Pairwise fun v u => v &&& u = 0
  whole : values.foldr (· ||| ·) 0 = word

theorem getLsbD_foldr {values : List U64} {i : ℕ} :
    (values.foldr (· ||| ·) 0).getLsbD i = true ↔ ∃ v ∈ values, v.getLsbD i = true := by
  induction values with
  | nil => simp
  | cons v values ih =>
    rw [List.foldr_cons, BitVec.getLsbD_or, Bool.or_eq_true, ih, List.exists_mem_cons_iff]

theorem Splits.nil : Splits [] 0 := ⟨List.Pairwise.nil, rfl⟩

theorem Splits.singleton (word : U64) : Splits [word] word :=
  ⟨List.pairwise_singleton _ _, by simp⟩

/-- A part that is set comes before the parts of what is left without it. -/
theorem Splits.cons {values : List U64} {word mask : U64} (hset : word &&& mask = mask)
    (h : Splits values (word &&& ~~~mask)) : Splits (mask :: values) word := by
  refine ⟨List.pairwise_cons.mpr ⟨fun v hv => ?_, h.apart⟩, ?_⟩
  · rw [and_eq_zero_iff]
    intro i hi
    cases hvi : v.getLsbD i with
    | false => rfl
    | true =>
      have hleft : (word &&& ~~~mask).getLsbD i = true := by
        rw [← h.whole]
        exact getLsbD_foldr.mpr ⟨v, hv, hvi⟩
      simp [hi] at hleft
  · refine BitVec.eq_of_getLsbD_eq fun i hi => ?_
    have hmask := and_eq_iff.mp hset i
    rw [List.foldr_cons, h.whole, BitVec.getLsbD_or, BitVec.getLsbD_and, BitVec.getLsbD_not]
    cases hm : mask.getLsbD i with
    | false => simp only [hi, decide_true, Bool.not_false, Bool.and_self, Bool.and_true, Bool.false_or]
    | true => simp only [hmask hm, Bool.true_or]

/-- The masks of a list that are taken one after the other from a word. -/
def takenSpecs : List (U64 × String) → U64 → List (U64 × String)
  | [], _ => []
  | spec :: specs, word =>
    if word &&& spec.1 = spec.1 then spec :: takenSpecs specs (word &&& ~~~spec.1)
    else takenSpecs specs word

theorem takenSpecs_set {spec : U64 × String} {word : U64} (h : word &&& spec.1 = spec.1)
    (specs : List (U64 × String)) :
    takenSpecs (spec :: specs) word = spec :: takenSpecs specs (word &&& ~~~spec.1) :=
  if_pos h

theorem takenSpecs_unset {spec : U64 × String} {word : U64} (h : ¬word &&& spec.1 = spec.1)
    (specs : List (U64 × String)) : takenSpecs (spec :: specs) word = takenSpecs specs word :=
  if_neg h

theorem takeFlags_names (specs : List (U64 × String)) (word : U64) :
    (takeFlags specs word).1 = (takenSpecs specs word).map Prod.snd := by
  induction specs generalizing word with
  | nil => rfl
  | cons spec specs ih =>
    simp only [takeFlags, takenSpecs]
    split
    · simp [ih]
    · exact ih word

theorem takenSpecs_sublist (specs : List (U64 × String)) (word : U64) :
    (takenSpecs specs word).Sublist specs := by
  induction specs generalizing word with
  | nil => exact List.Sublist.slnil
  | cons spec specs ih =>
    by_cases hset : word &&& spec.1 = spec.1
    · rw [takenSpecs_set hset]
      exact (ih _).cons_cons spec
    · rw [takenSpecs_unset hset]
      exact (ih word).cons spec

/-- The values of the parts: the masks that are taken and the bits that are left. -/
def partValues (specs : List (U64 × String)) (word : U64) : List U64 :=
  (takenSpecs specs word).map Prod.fst ++
    if (takeFlags specs word).2 = 0 then [] else [(takeFlags specs word).2]

theorem splits_partValues (specs : List (U64 × String)) (word : U64) :
    Splits (partValues specs word) word := by
  induction specs generalizing word with
  | nil =>
    by_cases hzero : word = 0
    · simpa [partValues, takenSpecs, takeFlags, hzero] using Splits.nil
    · have hrest : partValues [] word = [word] := if_neg hzero
      rw [hrest]
      exact Splits.singleton word
  | cons spec specs ih =>
    by_cases hset : word &&& spec.1 = spec.1
    · have hrest : partValues (spec :: specs) word =
          spec.1 :: partValues specs (word &&& ~~~spec.1) := by
        simp [partValues, takenSpecs_set hset, takeFlags, hset]
      rw [hrest]
      exact (ih _).cons hset
    · have hrest : partValues (spec :: specs) word = partValues specs word := by
        simp [partValues, takenSpecs_unset hset, takeFlags, hset]
      rw [hrest]
      exact ih word

theorem and_not_and_eq_iff {w : ℕ} {word t m : BitVec w} :
    (word &&& ~~~t) &&& m = m ↔ word &&& m = m ∧ t &&& m = 0 := by
  rw [and_eq_iff, and_eq_iff, and_eq_zero_iff]
  constructor
  · intro h
    refine ⟨fun i hi => ?_, fun i hi => ?_⟩
    · have hbit := h i hi
      simp only [BitVec.getLsbD_and, Bool.and_eq_true] at hbit
      exact hbit.1
    · cases hm : m.getLsbD i with
      | false => rfl
      | true => simpa [hi] using h i hm
  · rintro ⟨hset, hfree⟩ i hi
    have hlt : i < w := BitVec.lt_of_getLsbD hi
    have ht : t.getLsbD i = false := by
      cases ht : t.getLsbD i with
      | false => rfl
      | true => rw [hfree i ht] at hi; cases hi
    rw [BitVec.getLsbD_and, BitVec.getLsbD_not, hset i hi, ht]
    simp [hlt]

/-- A mask is taken if and only if all of it is set and no earlier one that is taken has a bit
of it. -/
theorem mem_takenSpecs {before after : List (U64 × String)} {spec : U64 × String} {word : U64}
    (hnodup : (before ++ spec :: after).Nodup) :
    spec ∈ takenSpecs (before ++ spec :: after) word ↔
      word &&& spec.1 = spec.1 ∧
        ∀ t ∈ before, t ∈ takenSpecs (before ++ spec :: after) word → t.1 &&& spec.1 = 0 := by
  induction before generalizing word with
  | nil =>
    have hlater : ∀ r, spec ∉ takenSpecs after r := fun r hmem =>
      (List.nodup_cons.mp hnodup).1 ((takenSpecs_sublist after r).subset hmem)
    by_cases hset : word &&& spec.1 = spec.1
    · simp [takenSpecs_set hset, hset]
    · simp [takenSpecs_unset hset, hset, hlater]
  | cons t before ih =>
    obtain ⟨hfresh, hrest⟩ := List.nodup_cons.mp hnodup
    have hne : spec ≠ t := by
      rintro rfl
      exact hfresh (by simp)
    have hbefore : ∀ u ∈ before, u ≠ t := by
      rintro u hu rfl
      exact hfresh (by simp [hu])
    by_cases hset : word &&& t.1 = t.1
    · have htaken : takenSpecs (t :: before ++ spec :: after) word =
          t :: takenSpecs (before ++ spec :: after) (word &&& ~~~t.1) :=
        takenSpecs_set hset _
      rw [htaken, List.mem_cons, or_iff_right hne, ih hrest, and_not_and_eq_iff]
      constructor
      · rintro ⟨⟨hspec, ht⟩, hall⟩
        refine ⟨hspec, fun u hu hmem => ?_⟩
        rcases List.mem_cons.mp hu with rfl | hu
        · exact ht
        · exact hall u hu ((List.mem_cons.mp hmem).resolve_left (hbefore u hu))
      · rintro ⟨hspec, hall⟩
        exact ⟨⟨hspec, hall t List.mem_cons_self List.mem_cons_self⟩, fun u hu hmem =>
          hall u (List.mem_cons_of_mem _ hu) (List.mem_cons_of_mem _ hmem)⟩
    · have htaken : takenSpecs (t :: before ++ spec :: after) word =
          takenSpecs (before ++ spec :: after) word :=
        takenSpecs_unset hset _
      have hout : t ∉ takenSpecs (before ++ spec :: after) word := fun hmem =>
        hfresh ((takenSpecs_sublist _ _).subset hmem)
      rw [htaken, ih hrest, List.forall_mem_cons]
      simp [hout]

/-! ### Tokens of the text -/

/-- The tokens of a flag text, without the number in parentheses at its end. -/
def flagTokens (text : String) : List String :=
  let back := text.toList.reverse
  let body :=
    if back.head? = some ')' then ((back.dropWhile (· ≠ '(')).drop 1).reverse else text.toList
  (body.splitOn '|').map String.ofList

theorem toList_hex {w : ℕ} (v : BitVec w) :
    (hex v).toList = '0' :: 'x' :: Nat.toDigits 16 v.toNat := by
  have hdigits : (toHex v.toNat).toList = Nat.toDigits 16 v.toNat := String.toList_ofList
  rw [hex, String.toList_append, hdigits]
  rfl

/-- What is said of the digits and of `0x` holds for a number in the text. -/
theorem forall_hex {w : ℕ} (v : BitVec w) {p : Char → Prop} (hzero : p '0') (hx : p 'x')
    (hdigit : ∀ d < 16, p (Nat.digitChar d)) : ∀ c ∈ (hex v).toList, p c := by
  intro c hc
  rw [toList_hex] at hc
  rcases List.mem_cons.mp hc with rfl | hc
  · exact hzero
  · rcases List.mem_cons.mp hc with rfl | hc
    · exact hx
    · obtain ⟨d, hd, rfl⟩ := mem_toDigits (by decide) hc
      exact hdigit d hd

theorem flagTokens_joinFlags {parts : List String} (hne : parts ≠ [])
    (hbars : ∀ s ∈ parts, '|' ∉ s.toList) (flags : U64) :
    flagTokens (joinFlags parts flags) = parts := by
  have htext : (joinFlags parts flags).toList =
      ['|'].intercalate (parts.map String.toList) ++ '(' :: (hex flags).toList ++ [')'] := by
    simp [joinFlags, String.toList_append, String.toList_intercalate]
  have hdigits : ∀ c ∈ (hex flags).toList.reverse, decide (c ≠ '(') = true := by
    intro c hc
    exact decide_eq_true (forall_hex flags (p := (· ≠ '(')) (by decide) (by decide) (by decide) c
      (List.mem_reverse.mp hc))
  have hback : (((joinFlags parts flags).toList.reverse.dropWhile (· ≠ '(')).drop 1).reverse =
      ['|'].intercalate (parts.map String.toList) := by
    rw [htext]
    simp only [List.reverse_append, List.reverse_cons, List.reverse_nil, List.nil_append,
      List.append_assoc, List.cons_append]
    rw [List.dropWhile_cons_of_pos (by decide), List.dropWhile_append_of_pos hdigits]
    simp
  have hend : (joinFlags parts flags).toList.reverse.head? = some ')' := by
    rw [htext, List.reverse_append]
    rfl
  unfold flagTokens
  dsimp only
  rw [if_pos hend, hback, List.splitOn_intercalate '|' (by simpa using hbars) (by simpa using hne)]
  simp [List.map_map]

/-! ### Tables of names -/

/-- The names of a flag word: of the values of its field, of the word zero and of its flags. -/
structure FlagTable where
  field : U64
  values : List (U64 × String)
  other : String
  zero : Option String
  flags : List (U64 × String)

/-- What a token stands for. -/
def FlagTable.valueOf (table : FlagTable) (token : String) : Option U64 :=
  if startsWith token "0x" then parseHexU64 (String.ofList (token.toList.drop 2))
  else match splitOnce token '(' with
    | some (name, rest) =>
      if name = table.other then
        parseHexU64 (String.ofList ((rest.toList.drop 2).takeWhile (· ≠ ')')))
      else none
    | none =>
      if table.zero = some token then some 0
      else ((table.values ++ table.flags).find? fun spec => spec.2 == token).map Prod.fst

/-- The tokens of a word stand for parts of it, and a name stands there exactly when it should:
a flag when all of it is set and no wider flag before it is shown, a value of the field when
the field has it, the name of zero for zero. -/
structure FlagTable.Shows (table : FlagTable) (tokens : List String) (word : U64) : Prop where
  splits : ∃ values, List.Forall₂ (fun t v => table.valueOf t = some v) tokens values ∧
    Splits values word
  flag : ∀ before spec after, table.flags = before ++ spec :: after →
    (spec.2 ∈ tokens ↔ word &&& spec.1 = spec.1 ∧
      ∀ t ∈ before, t.1 &&& spec.1 = spec.1 → t.2 ∉ tokens)
  value : ∀ spec ∈ table.values, (spec.2 ∈ tokens ↔ word &&& table.field = spec.1)
  zero : ∀ name, table.zero = some name → (name ∈ tokens ↔ word = 0)

/-- The names can be told apart and read back, and a flag that shares bits with an earlier one
is a part of it. -/
structure FlagTable.Wf (table : FlagTable) : Prop where
  names : ((table.values ++ table.flags).map Prod.snd).Nodup
  plain : ∀ spec ∈ table.values ++ table.flags,
    '|' ∉ spec.2.toList ∧ startsWith spec.2 "0x" = false
  reads : ∀ spec ∈ table.values ++ table.flags, table.valueOf spec.2 = some spec.1
  zero : ∀ name ∈ table.zero, name ∉ (table.values ++ table.flags).map Prod.snd ∧
    startsWith name "0x" = false ∧ table.valueOf name = some 0 ∧
    ∀ spec ∈ table.values, spec.1 ≠ 0
  nested : table.flags.Pairwise fun t s => t.1 &&& s.1 = 0 ∨ t.1 &&& s.1 = s.1
  proper : ∀ spec ∈ table.flags, spec.1 ≠ 0 ∧ table.field &&& spec.1 = 0

def openTable : FlagTable :=
  ⟨oAccmodeMask, [(0, "O_RDONLY"), (0o1, "O_WRONLY"), (0o2, "O_RDWR")], "O_ACCMODE", none,
    openFlagSpecs⟩

def dup3Table : FlagTable := ⟨0, [], "", some "0", [(oCloexecMask, "O_CLOEXEC")]⟩

def mmapProtTable : FlagTable :=
  ⟨0, [], "", some "PROT_NONE",
    [(0x1, "PROT_READ"), (0x2, "PROT_WRITE"), (0x4, "PROT_EXEC"), (0x8, "PROT_SEM"),
      (0x1000000, "PROT_GROWSDOWN"), (0x2000000, "PROT_GROWSUP")]⟩

def mmapFlagsTable : FlagTable :=
  ⟨mapTypeMask, [(0x1, "MAP_SHARED"), (0x2, "MAP_PRIVATE"), (0x3, "MAP_SHARED_VALIDATE")],
    "MAP_TYPE", some "0", mapFlagSpecs⟩

def accessTable : FlagTable :=
  ⟨0, [], "", some "F_OK", [(0x4, "R_OK"), (0x2, "W_OK"), (0x1, "X_OK")]⟩

def newfstatatTable : FlagTable :=
  ⟨0, [], "", some "0",
    [(0x100, "AT_SYMLINK_NOFOLLOW"), (0x800, "AT_NO_AUTOMOUNT"), (0x1000, "AT_EMPTY_PATH")]⟩

def faccessatTable : FlagTable :=
  ⟨0, [], "", some "0",
    [(0x200, "AT_EACCESS"), (0x100, "AT_SYMLINK_NOFOLLOW"), (0x1000, "AT_EMPTY_PATH")]⟩

theorem wf_openTable : openTable.Wf :=
  ⟨by decide, by decide, by decide, by decide, by decide, by decide⟩

theorem wf_dup3Table : dup3Table.Wf :=
  ⟨by decide, by decide, by decide, by decide, by decide, by decide⟩

theorem wf_mmapProtTable : mmapProtTable.Wf :=
  ⟨by decide, by decide, by decide, by decide, by decide, by decide⟩

theorem wf_mmapFlagsTable : mmapFlagsTable.Wf :=
  ⟨by decide, by decide, by decide, by decide, by decide, by decide⟩

theorem wf_accessTable : accessTable.Wf :=
  ⟨by decide, by decide, by decide, by decide, by decide, by decide⟩

theorem wf_newfstatatTable : newfstatatTable.Wf :=
  ⟨by decide, by decide, by decide, by decide, by decide, by decide⟩

theorem wf_faccessatTable : faccessatTable.Wf :=
  ⟨by decide, by decide, by decide, by decide, by decide, by decide⟩

/-! ### What the formatters show -/

theorem startsWith_hex {w : ℕ} (v : BitVec w) : startsWith (hex v) "0x" = true := by
  have hpat : ("0x" : String).toList = ['0', 'x'] := rfl
  rw [startsWith, toList_hex, hpat]
  simp

theorem valueOf_hex (table : FlagTable) (v : U64) : table.valueOf (hex v) = some v := by
  have hdrop : String.ofList ((hex v).toList.drop 2) = toHex v.toNat := by
    rw [toList_hex]
    rfl
  rw [FlagTable.valueOf, if_pos (startsWith_hex v), hdrop, parseHexU64_toHex]

theorem mem_flagParts {specs : List (U64 × String)} {word : U64} {s : String}
    (hs : startsWith s "0x" = false) :
    s ∈ flagParts specs word ↔ ∃ spec ∈ takenSpecs specs word, spec.2 = s := by
  have hhex : ∀ v : U64, s ≠ hex v := by
    rintro v rfl
    rw [startsWith_hex] at hs
    cases hs
  rw [flagParts, List.mem_append, takeFlags_names, List.mem_map]
  refine or_iff_left fun h => ?_
  split at h
  · cases h
  · exact hhex _ (List.mem_singleton.mp h)

/-- What stands for the field of a word: nothing for a field that is zero, or one token. -/
structure FlagTable.FieldShown (table : FlagTable) (tokens : List String) (word : U64) : Prop where
  reads : (tokens = [] ∧ word &&& table.field = 0) ∨
    ∃ t, tokens = [t] ∧ table.valueOf t = some (word &&& table.field)
  value : ∀ spec ∈ table.values, (spec.2 ∈ tokens ↔ word &&& table.field = spec.1)
  apart : ∀ spec ∈ table.flags, spec.2 ∉ tokens
  zero : ∀ name ∈ table.zero, name ∉ tokens ∧ word ≠ 0
  bars : ∀ t ∈ tokens, '|' ∉ t.toList

namespace FlagTable
variable {table : FlagTable} {word : U64}

theorem Wf.mem_iff (hw : table.Wf) {specs : List (U64 × String)} (hsub : specs.Sublist table.flags)
    {spec : U64 × String} (hspec : spec ∈ table.values ++ table.flags) :
    (∃ t ∈ specs, t.2 = spec.2) ↔ spec ∈ specs := by
  refine ⟨fun ⟨t, ht, he⟩ => ?_, fun h => ⟨spec, h, rfl⟩⟩
  have hmem : t ∈ table.values ++ table.flags := List.mem_append_right _ (hsub.subset ht)
  rwa [← List.inj_on_of_nodup_map hw.names hmem hspec he]

theorem forall₂_flagParts (hw : table.Wf) (left : U64) :
    List.Forall₂ (fun t v => table.valueOf t = some v) (flagParts table.flags left)
      (partValues table.flags left) := by
  have hnames : List.Forall₂ (fun t v => table.valueOf t = some v)
      ((takenSpecs table.flags left).map Prod.snd) ((takenSpecs table.flags left).map Prod.fst) := by
    rw [List.forall₂_map_left_iff, List.forall₂_map_right_iff, List.forall₂_same]
    intro spec hspec
    exact hw.reads spec (List.mem_append_right _ ((takenSpecs_sublist _ _).subset hspec))
  rw [flagParts, takeFlags_names, partValues]
  refine List.rel_append hnames ?_
  split
  · exact List.Forall₂.nil
  · exact List.Forall₂.cons (valueOf_hex table _) List.Forall₂.nil

theorem Wf.noBar_flagParts (hw : table.Wf) (left : U64) :
    ∀ s ∈ flagParts table.flags left, '|' ∉ s.toList := by
  intro s hs
  rw [flagParts, takeFlags_names, List.mem_append, List.mem_map] at hs
  rcases hs with ⟨spec, hspec, rfl⟩ | hs
  · exact (hw.plain spec
      (List.mem_append_right _ ((takenSpecs_sublist _ _).subset hspec))).1
  · split at hs
    · cases hs
    · rw [List.mem_singleton.mp hs]
      intro hbar
      exact forall_hex _ (p := (· ≠ '|')) (by decide) (by decide) (by decide) '|' hbar rfl

theorem FieldShown.splits {tokens : List String} (h : table.FieldShown tokens word)
    (hw : table.Wf) : ∃ values,
    List.Forall₂ (fun t v => table.valueOf t = some v)
      (tokens ++ flagParts table.flags (word &&& ~~~table.field)) values ∧ Splits values word := by
  have hrest := forall₂_flagParts hw (word &&& ~~~table.field)
  have hsplits := splits_partValues table.flags (word &&& ~~~table.field)
  have hfield : word &&& ~~~(word &&& table.field) = word &&& ~~~table.field := by
    refine BitVec.eq_of_getLsbD_eq fun i hi => ?_
    simp only [BitVec.getLsbD_and, BitVec.getLsbD_not, hi, decide_true, Bool.true_and]
    cases word.getLsbD i <;> simp
  rcases h.reads with ⟨rfl, hzero⟩ | ⟨t, rfl, hread⟩
  · have hall : word &&& ~~~(0 : U64) = word := BitVec.and_allOnes
    rw [← hfield, hzero, hall] at hsplits hrest
    rw [← hfield, hzero, hall]
    exact ⟨_, hrest, hsplits⟩
  · refine ⟨_ :: _, List.Forall₂.cons hread hrest, Splits.cons ?_ (by rwa [hfield])⟩
    rw [← BitVec.and_assoc, BitVec.and_self]

/-- The tokens of a word: those of its field, then the flags and the rest of the word. -/
theorem FieldShown.shows {tokens : List String} (h : table.FieldShown tokens word)
    (hw : table.Wf) :
    table.Shows (tokens ++ flagParts table.flags (word &&& ~~~table.field)) word := by
  have hsub := takenSpecs_sublist table.flags (word &&& ~~~table.field)
  have hflag : ∀ spec ∈ table.flags,
      (spec.2 ∈ tokens ++ flagParts table.flags (word &&& ~~~table.field) ↔
        spec ∈ takenSpecs table.flags (word &&& ~~~table.field)) := by
    intro spec hspec
    have hmem : spec ∈ table.values ++ table.flags := List.mem_append_right _ hspec
    rw [List.mem_append, or_iff_right (h.apart spec hspec), mem_flagParts (hw.plain spec hmem).2,
      hw.mem_iff hsub hmem]
  refine ⟨h.splits hw, fun before spec after hsplit => ?_, fun spec hspec => ?_, fun name hname => ?_⟩
  · have hnodup : (before ++ spec :: after).Nodup := by
      rw [← hsplit]
      exact (List.Nodup.of_map _ hw.names).of_append_right
    have hin : ∀ t ∈ before, t ∈ table.flags := fun t ht => by simp [hsplit, ht]
    have hspec : spec ∈ table.flags := by simp [hsplit]
    have hnested : ∀ t ∈ before, t.1 &&& spec.1 = 0 ∨ t.1 &&& spec.1 = spec.1 := by
      have hpair := hw.nested
      rw [hsplit, List.pairwise_append] at hpair
      exact fun t ht => hpair.2.2 t ht spec List.mem_cons_self
    have htaken := @mem_takenSpecs before after spec (word &&& ~~~table.field) hnodup
    rw [← hsplit, and_not_and_eq_iff] at htaken
    rw [hflag spec hspec, htaken]
    constructor
    · rintro ⟨⟨hset, _⟩, hfree⟩
      refine ⟨hset, fun t ht hwide hmem => (hw.proper spec hspec).1 ?_⟩
      rw [← hwide]
      exact hfree t ht ((hflag t (hin t ht)).mp hmem)
    · rintro ⟨hset, hwide⟩
      refine ⟨⟨hset, (hw.proper spec hspec).2⟩, fun t ht hmem => ?_⟩
      exact (hnested t ht).resolve_right fun hc => hwide t ht hc ((hflag t (hin t ht)).mpr hmem)
  · have hmem : spec ∈ table.values ++ table.flags := List.mem_append_left _ hspec
    have hout : spec ∉ takenSpecs table.flags (word &&& ~~~table.field) := by
      intro ht
      have hdisj := (List.nodup_append.mp (List.Nodup.of_map _ hw.names)).2.2
      exact hdisj spec hspec spec (hsub.subset ht) rfl
    rw [List.mem_append, mem_flagParts (hw.plain spec hmem).2, hw.mem_iff hsub hmem,
      or_iff_left hout]
    exact h.value spec hspec
  · obtain ⟨hnames, hplain, _, _⟩ := hw.zero name hname
    obtain ⟨hout, hne⟩ := h.zero name hname
    refine iff_of_false (fun hmem => ?_) hne
    rcases List.mem_append.mp hmem with hmem | hmem
    · exact hout hmem
    · obtain ⟨t, ht, he⟩ := (mem_flagParts hplain).mp hmem
      exact hnames (List.mem_map.mpr ⟨t, List.mem_append_right _ (hsub.subset ht), he⟩)

/-- The word zero under a name of its own. -/
theorem Wf.shows_zero (hw : table.Wf) {name : String} (hname : table.zero = some name) :
    table.Shows [name] 0 := by
  obtain ⟨hnames, _, hread, hvalues⟩ := hw.zero name hname
  have hother : ∀ spec ∈ table.values ++ table.flags, spec.2 ∉ [name] := by
    intro spec hspec hmem
    rw [← List.mem_singleton.mp hmem] at hnames
    exact hnames (List.mem_map_of_mem hspec)
  refine ⟨⟨[0], List.Forall₂.cons hread List.Forall₂.nil, Splits.singleton 0⟩,
    fun before spec after hsplit => ?_, fun spec hspec => ?_, fun other hsome => ?_⟩
  · have hspec : spec ∈ table.flags := by simp [hsplit]
    refine iff_of_false (hother spec (List.mem_append_right _ hspec)) fun h => ?_
    exact (hw.proper spec hspec).1 (by simpa using h.1.symm)
  · refine iff_of_false (hother spec (List.mem_append_left _ hspec)) fun h => ?_
    exact hvalues spec hspec (by simpa using h.symm)
  · rw [hname, Option.some.injEq] at hsome
    simp [hsome]

/-- A word without a field. -/
theorem Wf.shows_named (hw : table.Wf) (hfield : table.field = 0) (hvalues : table.values = [])
    {name text : String} (hname : table.zero = some name) (htext : flagTokens text = [name]) :
    table.Shows (flagTokens (namedFlags text table.flags word)) word := by
  by_cases hzero : word = 0
  · rw [hzero, namedFlags, if_pos rfl, htext]
    exact hw.shows_zero hname
  · have hshown : table.FieldShown [] word := by
      refine ⟨.inl ⟨rfl, by rw [hfield]; exact BitVec.and_zero⟩, fun spec hspec => ?_, by simp,
        fun _ _ => ⟨List.not_mem_nil, hzero⟩,
        by simp⟩
      rw [hvalues] at hspec
      cases hspec
    have hall : word &&& ~~~table.field = word := by
      rw [hfield]
      exact BitVec.and_allOnes
    have hshows := hshown.shows hw
    rw [hall, List.nil_append] at hshows
    rw [namedFlags, if_neg hzero, flagTokens_joinFlags]
    · exact hshows
    · intro hnil
      obtain ⟨values, hreads, hsplits⟩ := hshows.splits
      rw [hnil, List.forall₂_nil_left_iff] at hreads
      exact hzero (by rw [← hsplits.whole, hreads]; rfl)
    · exact hw.noBar_flagParts word

end FlagTable

/-- The tokens of a field with few values, checked for each of them. -/
theorem FlagTable.fieldShown {table : FlagTable} {word : U64} (tokens : U64 → List String)
    (limit : ℕ) (hlimit : table.field.toNat < limit)
    (hsame : tokens (word &&& table.field) = tokens word) (hzero : table.zero ≠ none → word ≠ 0)
    (hreads : ∀ n < limit, (tokens (BitVec.ofNat 64 n) = [] ∧ n = 0) ∨
      (tokens (BitVec.ofNat 64 n)).map table.valueOf = [some (BitVec.ofNat 64 n)])
    (hvalue : ∀ n < limit, ∀ spec ∈ table.values,
      (spec.2 ∈ tokens (BitVec.ofNat 64 n) ↔ BitVec.ofNat 64 n = spec.1))
    (hapart : ∀ n < limit, ∀ spec ∈ table.flags, spec.2 ∉ tokens (BitVec.ofNat 64 n))
    (hname : ∀ n < limit, ∀ name ∈ table.zero, name ∉ tokens (BitVec.ofNat 64 n))
    (hbars : ∀ n < limit, ∀ t ∈ tokens (BitVec.ofNat 64 n), '|' ∉ t.toList) :
    table.FieldShown (tokens word) word := by
  have hlt : (word &&& table.field).toNat < limit := by
    have hle : (word &&& table.field).toNat ≤ table.field.toNat := by
      rw [BitVec.toNat_and]
      exact Nat.and_le_right
    omega
  obtain ⟨n, hn, hfield⟩ : ∃ n < limit, word &&& table.field = BitVec.ofNat 64 n :=
    ⟨_, hlt, BitVec.eq_of_toNat_eq (by simp)⟩
  rw [hfield] at hsame
  rw [← hsame]
  refine ⟨?_, ?_, hapart n hn, fun name hmem => ⟨hname n hn name hmem, hzero ?_⟩, hbars n hn⟩
  · rw [hfield]
    rcases hreads n hn with ⟨hnil, rfl⟩ | hread
    · exact .inl ⟨hnil, rfl⟩
    · exact .inr (List.map_eq_singleton_iff.mp hread)
  · rw [hfield]
    exact hvalue n hn
  · rintro hnone
    rw [hnone] at hmem
    cases hmem

theorem shows_formatOpenFlags (word : U64) :
    openTable.Shows (flagTokens (formatOpenFlags word).render) word := by
  have hfield : openTable.FieldShown [accmodeName word] word := by
    refine openTable.fieldShown (fun v => [accmodeName v]) 4 (by decide) ?_ (by simp [openTable])
      (by decide) (by decide) (by decide) (by decide) (by decide)
    have hmask : (word &&& openTable.field) &&& oAccmodeMask = word &&& oAccmodeMask := by
      rw [BitVec.and_assoc]
      rfl
    simp only [accmodeName, hmask]
  have hshows := hfield.shows wf_openTable
  have hbars : ∀ s ∈ [accmodeName word] ++ flagParts openTable.flags (word &&& ~~~openTable.field),
      '|' ∉ s.toList := by
    intro s hs
    rcases List.mem_append.mp hs with hs | hs
    · exact hfield.bars s hs
    · exact wf_openTable.noBar_flagParts _ s hs
  have htokens := flagTokens_joinFlags (by simp) hbars word
  rw [← htokens] at hshows
  exact hshows

theorem shows_formatMmapFlags (word : U64) :
    mmapFlagsTable.Shows (flagTokens (formatMmapFlags word).render) word := by
  show mmapFlagsTable.Shows (flagTokens (mmapFlagsText word)) word
  by_cases hzero : word = 0
  · rw [hzero]
    exact wf_mmapFlagsTable.shows_zero rfl
  · have hfield : mmapFlagsTable.FieldShown (mapTypeNames word) word := by
      refine mmapFlagsTable.fieldShown mapTypeNames 16 (by decide) ?_ (fun _ => hzero)
        (by decide) (by decide) (by decide) (by decide) (by decide)
      have hmask : (word &&& mmapFlagsTable.field) &&& mapTypeMask = word &&& mapTypeMask := by
        rw [BitVec.and_assoc]
        rfl
      simp only [mapTypeNames, hmask]
    have hshows := hfield.shows wf_mmapFlagsTable
    have hne : mapTypeNames word ++ flagParts mapFlagSpecs (word &&& ~~~mapTypeMask) ≠ [] := by
      intro hnil
      obtain ⟨values, hreads, hsplits⟩ := hshows.splits
      have hparts : mapTypeNames word ++
          flagParts mmapFlagsTable.flags (word &&& ~~~mmapFlagsTable.field) = [] := hnil
      rw [hparts, List.forall₂_nil_left_iff] at hreads
      exact hzero (by rw [← hsplits.whole, hreads]; rfl)
    have hbars : ∀ s ∈ mapTypeNames word ++ flagParts mapFlagSpecs (word &&& ~~~mapTypeMask),
        '|' ∉ s.toList := by
      intro s hs
      rcases List.mem_append.mp hs with hs | hs
      · exact hfield.bars s hs
      · exact wf_mmapFlagsTable.noBar_flagParts _ s hs
    have htext : mmapFlagsText word =
        joinFlags (mapTypeNames word ++ flagParts mapFlagSpecs (word &&& ~~~mapTypeMask)) word := by
      rw [mmapFlagsText, if_neg hzero, if_neg (by simpa using hne)]
    have htokens := flagTokens_joinFlags hne hbars word
    rw [htext, htokens]
    exact hshows

/-- The formatters of flag words with the names they use. -/
def flagFormatters : List (FlagTable × (U64 → Piece)) :=
  [(openTable, formatOpenFlags), (dup3Table, formatDup3Flags), (mmapProtTable, formatMmapProt),
    (mmapFlagsTable, formatMmapFlags), (accessTable, formatAccessMode),
    (newfstatatTable, formatNewfstatatFlags), (faccessatTable, formatFaccessatFlags)]

/-- Every flag text shows the whole word: its tokens stand for parts of the word that share no
bit and make it up, and each name stands there exactly when it should. -/
theorem flagFormatters_show : ∀ f ∈ flagFormatters, ∀ word : U64,
    f.1.Shows (flagTokens (f.2 word).render) word := by
  have hzero : flagTokens "0" = ["0"] := by decide
  intro f hf word
  simp only [flagFormatters, List.mem_cons, List.not_mem_nil, or_false] at hf
  rcases hf with rfl | rfl | rfl | rfl | rfl | rfl | rfl
  · exact shows_formatOpenFlags word
  · exact wf_dup3Table.shows_named rfl rfl rfl hzero
  · exact wf_mmapProtTable.shows_named rfl rfl rfl (by decide)
  · exact shows_formatMmapFlags word
  · exact wf_accessTable.shows_named rfl rfl rfl (by decide)
  · exact wf_newfstatatTable.shows_named rfl rfl rfl hzero
  · exact wf_faccessatTable.shows_named rfl rfl rfl hzero

theorem flagFormatters_show_open :
    openTable.Shows (flagTokens (formatOpenFlags 0x242).render) 0x242 :=
  flagFormatters_show (openTable, formatOpenFlags) List.mem_cons_self 0x242

/-- A name of value zero has no bit that could be missing, but `O_RDONLY` is not shown for a
word that opens for writing. -/
theorem readOnly_not_shown : ¬ ∀ f ∈ flagFormatters, ∀ (word : U64) before spec after,
    f.1.values ++ f.1.flags = before ++ spec :: after →
    (spec.2 ∈ flagTokens (f.2 word).render ↔ word &&& spec.1 = spec.1 ∧
      ∀ t ∈ before, t.1 &&& spec.1 = spec.1 → t.2 ∉ flagTokens (f.2 word).render) := by
  intro h
  have hshown := (h (openTable, formatOpenFlags) List.mem_cons_self 1 [] (0, "O_RDONLY") _ rfl).mpr
    ⟨by decide, by simp⟩
  revert hshown
  decide

end CudaTrace.Ptrace
