import CudaTrace.Build.Prototypes

/-!
# Which functions get a wrapper

The first line of a name decides: when its parameters do not parse, later lines of the same
name are passed over, also those that would parse.
-/

namespace CudaTrace.Build
open CudaTrace.Base

variable {manual : List Text} {symbolPrefix : Text}

/-- The first line of the name. -/
def firstCandidate (symbolPrefix : Text) (lines : List Text) (name : Text) : Option Candidate :=
  (lines.filterMap (candidate symbolPrefix)).find? fun c => name = c.name

theorem firstCandidate_name {lines : List Text} {name : Text} {c : Candidate}
    (h : firstCandidate symbolPrefix lines name = some c) : c.name = name := by
  have hfound := List.find?_some h
  exact (of_decide_eq_true hfound).symm

theorem firstCandidate_skip {raw : Text} (h : candidate symbolPrefix raw = none)
    (lines : List Text) (name : Text) :
    firstCandidate symbolPrefix (raw :: lines) name = firstCandidate symbolPrefix lines name := by
  unfold firstCandidate
  rw [List.filterMap_cons_none h]

theorem firstCandidate_cons {raw : Text} {c : Candidate} (h : candidate symbolPrefix raw = some c)
    (lines : List Text) (name : Text) :
    firstCandidate symbolPrefix (raw :: lines) name =
      if name = c.name then some c else firstCandidate symbolPrefix lines name := by
  unfold firstCandidate
  rw [List.filterMap_cons_some h, List.find?_cons]
  by_cases hname : name = c.name
  · simp [hname]
  · simp [hname]

theorem firstCandidate_isSome {lines : List Text} {name line : Text} {c : Candidate}
    (hline : line ∈ lines) (hc : candidate symbolPrefix line = some c) (hname : c.name = name) :
    ∃ first, firstCandidate symbolPrefix lines name = some first := by
  have hmem : c ∈ lines.filterMap (candidate symbolPrefix) :=
    List.mem_filterMap.mpr ⟨line, hline, hc⟩
  exact Option.isSome_iff_exists.mp (List.find?_isSome.mpr ⟨c, hmem, by simp [hname]⟩)

theorem wrapper_name {c : Candidate} {w : WrapperPrototype} (h : c.wrapper = some w) :
    w.name = c.name := by
  obtain ⟨argNames, _, rfl⟩ := Option.map_eq_some_iff.mp h
  rfl

theorem collectWrappers_cons (seen : List Text) (raw : Text) (lines : List Text) :
    collectWrappers manual symbolPrefix seen (raw :: lines) =
      match candidate symbolPrefix raw with
      | none => collectWrappers manual symbolPrefix seen lines
      | some c =>
        if c.name ∈ manual ∨ c.name ∈ seen then collectWrappers manual symbolPrefix seen lines
        else
          match c.wrapper with
          | none => collectWrappers manual symbolPrefix (c.name :: seen) lines
          | some w => w :: collectWrappers manual symbolPrefix (c.name :: seen) lines :=
  rfl

/-- The wrappers are those of the first lines of the names that are neither hooked nor seen. -/
theorem mem_collectWrappers {w : WrapperPrototype} (lines seen : List Text) :
    w ∈ collectWrappers manual symbolPrefix seen lines ↔
      w.name ∉ manual ∧ w.name ∉ seen ∧
        ∃ c, firstCandidate symbolPrefix lines w.name = some c ∧ c.wrapper = some w := by
  induction lines generalizing seen with
  | nil => simp [collectWrappers, firstCandidate]
  | cons raw lines ih =>
    cases hc : candidate symbolPrefix raw with
    | none =>
      rw [collectWrappers_cons, hc, firstCandidate_skip hc]
      exact ih seen
    | some c =>
      rw [collectWrappers_cons, hc, firstCandidate_cons hc]
      simp only
      split_ifs with hskip hname hname
      · rw [ih, hname]
        tauto
      · exact ih seen
      · -- the line is the first one of the name
        cases hw : c.wrapper with
        | none =>
          simp only [ih, Option.some.injEq, exists_eq_left', hw, hname]
          simp
        | some w' =>
          simp only [List.mem_cons, ih, hname, Option.some.injEq, exists_eq_left', hw]
          obtain ⟨hmanual, hseen⟩ := not_or.mp hskip
          simp only [true_or, not_true_eq_false, false_and, and_false, or_false]
          constructor
          · intro h
            exact ⟨hmanual, hseen, h.symm⟩
          · intro h
            exact h.2.2.symm
      · cases hw : c.wrapper with
        | none =>
          simp only [ih, List.mem_cons, hname, false_or]
        | some w' =>
          have hne : w ≠ w' := by
            intro he
            exact hname (by rw [he, wrapper_name hw])
          simp only [ih, List.mem_cons, hname, hne, false_or]

theorem nodup_collectWrappers (lines seen : List Text) :
    ((collectWrappers manual symbolPrefix seen lines).map WrapperPrototype.name).Nodup := by
  induction lines generalizing seen with
  | nil => exact List.nodup_nil
  | cons raw lines ih =>
    cases hc : candidate symbolPrefix raw with
    | none =>
      rw [collectWrappers_cons, hc]
      exact ih seen
    | some c =>
      rw [collectWrappers_cons, hc]
      simp only
      split_ifs with hskip
      · exact ih seen
      · cases hw : c.wrapper with
        | none => exact ih (c.name :: seen)
        | some w =>
          rw [List.map_cons, List.nodup_cons]
          constructor
          · intro hmem
            obtain ⟨w', hw', hname⟩ := List.mem_map.mp hmem
            have hseen := ((mem_collectWrappers lines (c.name :: seen)).mp hw').2.1
            rw [hname, wrapper_name hw] at hseen
            exact hseen List.mem_cons_self
          · exact ih (c.name :: seen)

theorem mem_parseMissingPrototypes {text : Text} {w : WrapperPrototype} :
    w ∈ parseMissingPrototypes text manual symbolPrefix ↔
      w.name ∉ manual ∧
        ∃ c, firstCandidate symbolPrefix (linesAux [] text) w.name = some c ∧ c.wrapper = some w := by
  unfold parseMissingPrototypes
  rw [List.mem_mergeSort, mem_collectWrappers]
  simp

/-- The list is sorted and no name stands in it twice. -/
theorem increasing_parseMissingPrototypes (text : Text) :
    ((parseMissingPrototypes text manual symbolPrefix).map WrapperPrototype.name).Pairwise
      (· < ·) := by
  have hsorted := @List.pairwise_mergeSort _
    (fun a b : WrapperPrototype => decide (a.name ≤ b.name))
    (fun a b c hab hbc => decide_eq_true (le_trans (of_decide_eq_true hab) (of_decide_eq_true hbc)))
    (fun a b => by simpa using le_total a.name b.name)
    (collectWrappers manual symbolPrefix [] (linesAux [] text))
  have hperm := List.mergeSort_perm (collectWrappers manual symbolPrefix [] (linesAux [] text))
    fun a b => decide (a.name ≤ b.name)
  have hnodup := (hperm.map WrapperPrototype.name).nodup_iff.mpr
    (@nodup_collectWrappers manual symbolPrefix (linesAux [] text) [])
  have hle : ((parseMissingPrototypes text manual symbolPrefix).map WrapperPrototype.name).Pairwise
      (· ≤ ·) := by
    rw [List.pairwise_map]
    exact hsorted.imp fun h => of_decide_eq_true h
  exact (hle.and hnodup).imp fun h => lt_of_le_of_ne h.1 h.2

/-- Every prefixed name has a wrapper unless it is hooked or no line of it parses. -/
structure Covered (text source symbolPrefix : Text) : Prop where
  increasing : ((parseMissingPrototypes text (parseManualHookNames source symbolPrefix)
    symbolPrefix).map WrapperPrototype.name).Pairwise (· < ·)
  notManual : ∀ w ∈ parseMissingPrototypes text (parseManualHookNames source symbolPrefix)
    symbolPrefix, w.name ∉ parseManualHookNames source symbolPrefix
  complete : ∀ name, symbolPrefix <+: name → name ∉ parseManualHookNames source symbolPrefix →
    (∃ line ∈ linesAux [] text, ∃ c w, candidate symbolPrefix line = some c ∧ c.name = name ∧
      c.wrapper = some w) →
    ∃ w ∈ parseMissingPrototypes text (parseManualHookNames source symbolPrefix) symbolPrefix,
      w.name = name

/-- A name some line of which parses has a first line that parses. -/
def FirstLinesParse (text source symbolPrefix : Text) : Prop :=
  ∀ name ∉ parseManualHookNames source symbolPrefix,
    ∀ line ∈ linesAux [] text, ∀ c w, candidate symbolPrefix line = some c → c.name = name →
      c.wrapper = some w →
      ∀ first, firstCandidate symbolPrefix (linesAux [] text) name = some first →
        first.wrapper ≠ none

theorem candidate_prefixed {raw : Text} {c : Candidate} (h : candidate symbolPrefix raw = some c) :
    symbolPrefix <+: c.name := by
  unfold candidate at h
  simp only [Option.bind_eq_bind, Option.bind_eq_some_iff] at h
  obtain ⟨⟨before, inside⟩, _, name, _, h⟩ := h
  split_ifs at h with hstarts
  simp only [Option.bind_eq_some_iff] at h
  obtain ⟨decl, _, h⟩ := h
  split_ifs at h
  cases h
  exact List.isPrefixOf_iff_prefix.mp hstarts

/-- The list is always sorted and free of hooked names; it is complete when first lines parse. -/
theorem covered_iff (text source symbolPrefix : Text) :
    Covered text source symbolPrefix ↔ FirstLinesParse text source symbolPrefix := by
  constructor
  · intro h name hmanual line hline c w hc hname hw first hfirst hnone
    have hstarts : symbolPrefix <+: name := hname ▸ candidate_prefixed hc
    obtain ⟨w', hw', hname'⟩ := h.complete name hstarts hmanual ⟨line, hline, c, w, hc, hname, hw⟩
    obtain ⟨_, c', hfirst', hw'⟩ := mem_parseMissingPrototypes.mp hw'
    rw [hname', hfirst, Option.some.injEq] at hfirst'
    rw [← hfirst', hnone] at hw'
    cases hw'
  · intro h
    refine ⟨increasing_parseMissingPrototypes text, ?_, ?_⟩
    · intro w hw
      exact (mem_parseMissingPrototypes.mp hw).1
    · intro name _ hmanual hline
      obtain ⟨line, hline, c, w, hc, hname, hw⟩ := hline
      obtain ⟨first, hfirst⟩ := firstCandidate_isSome hline hc hname
      obtain ⟨w', hw'⟩ := Option.ne_none_iff_exists'.mp
        (h name hmanual line hline c w hc hname hw first hfirst)
      have hname' : w'.name = name := (wrapper_name hw').trans (firstCandidate_name hfirst)
      have hmem : w' ∈ parseMissingPrototypes text (parseManualHookNames source symbolPrefix)
          symbolPrefix := mem_parseMissingPrototypes.mpr
        ⟨hname' ▸ hmanual, first, hname' ▸ hfirst, hw'⟩
      exact ⟨w', hmem, hname'⟩

/-- The same function with an array parameter and with a pointer parameter. -/
def twoForms : Text := "CUresult cuA(int a[2]);\nCUresult cuA(int *a);\n".toList

/-- The first form is skipped and hides the second, whose parameters parse. -/
theorem twoForms_not_covered : ¬Covered twoForms [] ['c', 'u'] := by
  intro h
  have hfirst : ((firstCandidate ['c', 'u'] (linesAux [] twoForms) ['c', 'u', 'A']).bind
      Candidate.wrapper) = none := by decide +kernel
  have hsecond : ∃ line ∈ linesAux [] twoForms, ∃ c w, candidate ['c', 'u'] line = some c ∧
      c.name = ['c', 'u', 'A'] ∧ c.wrapper = some w := by
    have hparsed : ((linesAux [] twoForms)[1]?.bind fun line =>
        (candidate ['c', 'u'] line).bind fun c => c.wrapper.map fun w => (c.name, w.argNames)) =
        some (['c', 'u', 'A'], [['a']]) := by decide +kernel
    simp only [Option.bind_eq_some_iff, Option.map_eq_some_iff, Prod.mk.injEq] at hparsed
    obtain ⟨line, hline, c, hc, w, hw, hname, _⟩ := hparsed
    exact ⟨line, List.mem_of_getElem? hline, c, w, hc, hname, hw⟩
  obtain ⟨w, hmem, hname⟩ := h.complete ['c', 'u', 'A'] (by decide) (by decide) hsecond
  obtain ⟨_, c, hc, hw⟩ := mem_parseMissingPrototypes.mp hmem
  rw [hname] at hc
  rw [hc, Option.bind_some, hw] at hfirst
  cases hfirst

end CudaTrace.Build
