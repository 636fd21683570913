import Mathlib.Data.List.Nodup
import CudaTrace.Base.Tokens
import CudaTrace.Config

/-!
# The environment (config.rs, `Config::from_lookup`)

The configuration comes from nine environment variables. No value is refused: what cannot
be read counts as the default, and a number out of range as the nearest bound.
-/

namespace CudaTrace
open CudaTrace.Base

def envOutput : String := "LIB_CUDATRACE_OUTPUT"
def envPath : String := "LIB_CUDATRACE_PATH"
def envTrace : String := "LIB_CUDATRACE_TRACE"
def envIoctlDecode : String := "LIB_CUDATRACE_IOCTL_DECODE"
def envMaxBlob : String := "LIB_CUDATRACE_MAX_BLOB"
def envTimeUnit : String := "LIB_CUDATRACE_TIME_UNIT"
def envLeftMeta : String := "LIB_CUDATRACE_LEFT_META"
def envFgraphFuncs : String := "LIB_CUDATRACE_FGRAPH_FUNCS"
def envFgraphBufferKb : String := "LIB_CUDATRACE_FGRAPH_BUFFER_KB"

def defaultPath : String := "./cudatrace.output"
def defaultMaxBlob : ℕ := 256
def maxBlobCap : ℕ := 64 * 1024
def defaultFgraphBufferKb : ℕ := 16 * 1024
def minFgraphBufferKb : ℕ := 64
def maxFgraphBufferKb : ℕ := 256 * 1024

/-! ### Values -/

/-- `str::to_ascii_lowercase`. -/
def toAsciiLowercase (s : String) : String := String.ofList (s.toList.map Char.toLower)

def normalize (input : String) : String := toAsciiLowercase (trim input)

def dropPlus : List Char → List Char
  | '+' :: ds => ds
  | ds => ds

/-- `str::parse::<usize>`: an optional plus sign, then decimal digits of a value in range. -/
def parseUsize (s : String) : Option ℕ :=
  let digits := dropPlus s.toList
  if digits.isEmpty || !digits.all Char.isDigit then none
  else
    let value := Nat.ofDigitChars 10 digits 0
    if value < 2 ^ 64 then some value else none

/-- `str::split` at the characters of `p` with `str::trim` on each part. -/
def trimmedTokens (p : Char → Bool) (raw : String) : List String :=
  (tokens p raw.toList).map String.ofList

def isComma (c : Char) : Bool := c == ','

def isLeftMetaSeparator (c : Char) : Bool := [',', '|', '+'].contains c

def parseOutput (value : Option String) : OutputMode :=
  if value.map normalize = some "stdout" then .stdout else .file

def TraceMask.anyEnabled (m : TraceMask) : Bool := m.cudart || m.driver || m.syscall

/-- The loop body of `parse_trace`. -/
def TraceMask.add (mask : TraceMask) (token : String) : TraceMask :=
  if token = "cudart" then { mask with cudart := true }
  else if token = "driver" then { mask with driver := true }
  else if token = "syscall" then { mask with syscall := true }
  else mask

def parseTrace (value : Option String) : TraceMask :=
  match value.map normalize with
  | none => .all
  | some raw =>
    if raw = "all" then .all
    else
      let mask := (trimmedTokens isComma raw).foldl TraceMask.add ⟨false, false, false⟩
      if mask.anyEnabled then mask else .all

def parseIoctlDecode (value : Option String) : IoctlDecodeMode :=
  if value.map normalize = some "header" then .header
  else if value.map normalize = some "off" then .off
  else .full

def parseMaxBlob (value : Option String) : ℕ :=
  let parsed := ((((value.map trim).filter (· ≠ "")).bind parseUsize).filter (0 < ·)).getD defaultMaxBlob
  min parsed maxBlobCap

def parseTimeUnit (value : Option String) : TimeUnit :=
  if value.map normalize = some "ns" then .ns else .us

def leftMetaOff : List String := ["", "off", "0", "none"]
def leftMetaOn : List String := ["1", "on", "true", "yes", "all"]
def tidTokens : List String := ["tid", "thread", "threadid"]
def timestampTokens : List String := ["ts", "time", "timestamp"]

/-- The loop body of `parse_left_meta`. -/
def addLeftMeta (included : Bool × Bool) (token : String) : Bool × Bool :=
  if token ∈ tidTokens then (true, included.2)
  else if token ∈ timestampTokens then (included.1, true)
  else included

def leftMetaMode : Bool × Bool → LeftMetaMode
  | (true, true) => .tidTimestamp
  | (true, false) => .tid
  | (false, true) => .timestamp
  | (false, false) => .off

def parseLeftMeta (value : Option String) : LeftMetaMode :=
  match value.map normalize with
  | none => .off
  | some raw =>
    if raw ∈ leftMetaOff then .off
    else if raw ∈ leftMetaOn then .tidTimestamp
    else leftMetaMode ((trimmedTokens isLeftMetaSeparator raw).foldl addLeftMeta (false, false))

/-- The loop body of `parse_fgraph_funcs`. -/
def insertFunc (out : List String) (token : String) : List String :=
  let out := out.insert token
  if token = "cudaMallocHost" then out.insert "cudaHostAlloc"
  else if token = "cudaHostAlloc" then out.insert "cudaMallocHost"
  else out

def parseFgraphFuncs (value : Option String) : List String :=
  match value with
  | none => []
  | some raw => ((trimmedTokens isComma raw).filter (· ≠ "")).foldl insertFunc []

def parseFgraphBufferKb (value : Option String) : ℕ :=
  let parsed := (((value.map trim).filter (· ≠ "")).bind parseUsize).getD defaultFgraphBufferKb
  max minFgraphBufferKb (min parsed maxFgraphBufferKb)

def Config.fromLookup (lookup : String → Option String) : Config where
  output := parseOutput (lookup envOutput)
  path := (((lookup envPath).map trim).filter (· ≠ "")).getD defaultPath
  trace := parseTrace (lookup envTrace)
  ioctlDecode := parseIoctlDecode (lookup envIoctlDecode)
  maxBlob := parseMaxBlob (lookup envMaxBlob)
  timeUnit := parseTimeUnit (lookup envTimeUnit)
  leftMeta := parseLeftMeta (lookup envLeftMeta)
  fgraphFuncs := parseFgraphFuncs (lookup envFgraphFuncs)
  fgraphBufferKb := parseFgraphBufferKb (lookup envFgraphBufferKb)

/-! ### Numbers -/

theorem trim_toList (s : String) : (trim s).toList = trimmed s.toList := String.toList_ofList

theorem trim_eq {s : String} (h : Solid s.toList) : trim s = s := by
  rw [← String.toList_inj, trim_toList, trimmed_solid h]

theorem toString_toList (n : ℕ) : (toString n).toList = Nat.toDigits 10 n := Nat.toList_repr

theorem solid_toDigits (n : ℕ) : Solid (Nat.toDigits 10 n) := by
  have hdigit : ∀ c ∈ Nat.toDigits 10 n, isWhitespace c = false := by
    intro c hc
    have hd := Nat.isDigit_of_mem_toDigits (by omega) (by omega) hc
    have halnum : c.isAlphanum = true := by rw [Char.isAlphanum, hd, Bool.or_true]
    obtain ⟨hlow, hhigh⟩ := isAlphanum_graphic halnum
    exact isWhitespace_graphic hlow hhigh
  exact ⟨fun c hc => hdigit c (List.mem_of_head? hc), fun c hc => hdigit c (List.mem_of_getLast? hc)⟩

theorem toString_ne_empty (n : ℕ) : toString n ≠ "" := by
  intro h
  have hlist := congrArg String.toList h
  rw [toString_toList] at hlist
  exact Nat.toDigits_ne_nil hlist

theorem parseUsize_toString {n : ℕ} (h : n < 2 ^ 64) : parseUsize (toString n) = some n := by
  have hdigit : ∀ c ∈ Nat.toDigits 10 n, c.isDigit = true := fun c hc =>
    Nat.isDigit_of_mem_toDigits (by omega) (by omega) hc
  have hall : (Nat.toDigits 10 n).all Char.isDigit = true := List.all_eq_true.mpr hdigit
  have hempty : (Nat.toDigits 10 n).isEmpty = false :=
    Bool.eq_false_iff.mpr fun he => Nat.toDigits_ne_nil (List.isEmpty_iff.mp he)
  have hplus : dropPlus (Nat.toDigits 10 n) = Nat.toDigits 10 n := by
    unfold dropPlus
    split
    · rename_i ds hds
      rw [hds] at hdigit
      exact absurd (hdigit '+' List.mem_cons_self) (by decide)
    · rfl
  unfold parseUsize
  rw [toString_toList, hplus]
  dsimp only
  rw [hall, hempty, Nat.ofDigitChars_ten_toDigits]
  exact if_pos h

/-- The number of a variable before its bounds apply. -/
theorem readNumber_toString {n : ℕ} (h : n < 2 ^ 64) :
    (((some (toString n)).map trim).filter (· ≠ "")).bind parseUsize = some n := by
  have hsolid : Solid (toString n).toList := by
    rw [toString_toList]
    exact solid_toDigits n
  have hfilter : (some (toString n)).filter (· ≠ "") = some (toString n) :=
    Option.filter_eq_some_iff.mpr ⟨rfl, decide_eq_true (toString_ne_empty n)⟩
  rw [Option.map_some, trim_eq hsolid, hfilter, Option.bind_some, parseUsize_toString h]

theorem parseMaxBlob_toString {n : ℕ} (h0 : 0 < n) (h : n ≤ maxBlobCap) :
    parseMaxBlob (some (toString n)) = n := by
  have hcap : maxBlobCap = 65536 := rfl
  have hfilter : (some n).filter (0 < ·) = some n :=
    Option.filter_eq_some_iff.mpr ⟨rfl, decide_eq_true h0⟩
  rw [parseMaxBlob, readNumber_toString (by omega), hfilter, Option.getD_some]
  exact Nat.min_eq_left h

theorem parseFgraphBufferKb_toString {n : ℕ} (h0 : minFgraphBufferKb ≤ n)
    (h : n ≤ maxFgraphBufferKb) : parseFgraphBufferKb (some (toString n)) = n := by
  have hcap : maxFgraphBufferKb = 262144 := rfl
  rw [parseFgraphBufferKb, readNumber_toString (by omega), Option.getD_some, Nat.min_eq_left h]
  exact Nat.max_eq_right h0

theorem parseMaxBlob_bounds (value : Option String) :
    0 < parseMaxBlob value ∧ parseMaxBlob value ≤ maxBlobCap := by
  unfold parseMaxBlob
  generalize ((value.map trim).filter (· ≠ "")).bind parseUsize = read
  have hpos : 0 < (read.filter (0 < ·)).getD defaultMaxBlob := by
    cases hr : read.filter (0 < ·) with
    | none => decide
    | some n => exact of_decide_eq_true (Option.filter_eq_some_iff.mp hr).2
  exact ⟨Nat.lt_min.mpr ⟨hpos, by decide⟩, Nat.min_le_right _ _⟩

theorem parseFgraphBufferKb_bounds (value : Option String) :
    minFgraphBufferKb ≤ parseFgraphBufferKb value ∧ parseFgraphBufferKb value ≤ maxFgraphBufferKb := by
  unfold parseFgraphBufferKb
  exact ⟨Nat.le_max_left _ _, Nat.max_le.mpr ⟨by decide, Nat.min_le_right _ _⟩⟩

/-! ### Domains -/

def TraceDomain.token : TraceDomain → String
  | .cudart => "cudart"
  | .driver => "driver"
  | .syscall => "syscall"

theorem TraceMask.ext_enabled {m m' : TraceMask} (h : ∀ d, m.enabledFor d = m'.enabledFor d) :
    m = m' := by
  have hcudart : m.cudart = m'.cudart := h .cudart
  have hdriver : m.driver = m'.driver := h .driver
  have hsyscall : m.syscall = m'.syscall := h .syscall
  cases m
  cases m'
  rw [TraceMask.mk.injEq]
  exact ⟨hcudart, hdriver, hsyscall⟩

theorem TraceMask.anyEnabled_iff {m : TraceMask} :
    m.anyEnabled = true ↔ ∃ d, m.enabledFor d = true := by
  rw [TraceMask.anyEnabled, Bool.or_eq_true, Bool.or_eq_true]
  constructor
  · rintro ((h | h) | h)
    · exact ⟨.cudart, h⟩
    · exact ⟨.driver, h⟩
    · exact ⟨.syscall, h⟩
  · rintro ⟨d, h⟩
    cases d with
    | cudart => exact Or.inl (Or.inl h)
    | driver => exact Or.inl (Or.inr h)
    | syscall => exact Or.inr h

theorem TraceMask.add_enabled (m : TraceMask) (token : String) (d : TraceDomain) :
    (m.add token).enabledFor d = true ↔ m.enabledFor d = true ∨ d.token = token := by
  unfold TraceMask.add
  split_ifs with hc hd hs
  · subst hc
    cases d <;> simp [TraceMask.enabledFor, TraceDomain.token]
  · subst hd
    cases d <;> simp [TraceMask.enabledFor, TraceDomain.token]
  · subst hs
    cases d <;> simp [TraceMask.enabledFor, TraceDomain.token]
  · have hne : d.token ≠ token := by
      cases d with
      | cudart => exact fun he => hc he.symm
      | driver => exact fun he => hd he.symm
      | syscall => exact fun he => hs he.symm
    exact ⟨Or.inl, fun h => h.resolve_right hne⟩

theorem TraceMask.foldl_add (ts : List String) (m : TraceMask) (d : TraceDomain) :
    (ts.foldl TraceMask.add m).enabledFor d = true ↔ m.enabledFor d = true ∨ d.token ∈ ts := by
  induction ts generalizing m with
  | nil =>
    rw [List.foldl_nil]
    exact ⟨Or.inl, fun h => h.resolve_right List.not_mem_nil⟩
  | cons t ts ih => rw [List.foldl_cons, ih, TraceMask.add_enabled, List.mem_cons, or_assoc]

/-- The tokens of the value of `LIB_CUDATRACE_TRACE`. -/
def traceTokens (value : Option String) : List String :=
  ((value.map normalize).map (trimmedTokens isComma)).getD []

/-- A domain is enabled when it is named, or when no domain is. -/
theorem parseTrace_enabled (value : Option String) (d : TraceDomain) :
    (parseTrace value).enabledFor d = true ↔
      d.token ∈ traceTokens value ∨ ∀ d' : TraceDomain, d'.token ∉ traceTokens value := by
  have hall : TraceMask.all.enabledFor d = true := by cases d <;> rfl
  unfold parseTrace traceTokens
  cases value.map normalize with
  | none => exact iff_of_true hall (Or.inr fun _ => List.not_mem_nil)
  | some raw =>
    dsimp only [Option.map_some, Option.getD_some]
    by_cases hraw : raw = "all"
    · subst hraw
      rw [if_pos rfl]
      refine iff_of_true hall (Or.inr fun d' => ?_)
      cases d' <;> decide
    · rw [if_neg hraw]
      have hfold := TraceMask.foldl_add (trimmedTokens isComma raw) ⟨false, false, false⟩
      have hnone : ∀ d, (⟨false, false, false⟩ : TraceMask).enabledFor d = false := by
        intro d
        cases d <;> rfl
      split_ifs with hany
      · obtain ⟨d₀, h₀⟩ := TraceMask.anyEnabled_iff.mp hany
        rw [hfold, hnone] at h₀ ⊢
        have hnamed := h₀.resolve_left Bool.false_ne_true
        constructor
        · intro h
          exact Or.inl (h.resolve_left Bool.false_ne_true)
        · rintro (h | h)
          · exact Or.inr h
          · exact absurd hnamed (h d₀)
      · refine iff_of_true hall (Or.inr fun d' hd' => hany ?_)
        exact TraceMask.anyEnabled_iff.mpr ⟨d', (hfold d').mpr (Or.inr hd')⟩

theorem parseTrace_anyEnabled (value : Option String) : (parseTrace value).anyEnabled = true := by
  rw [TraceMask.anyEnabled_iff]
  by_cases h : ∃ d : TraceDomain, d.token ∈ traceTokens value
  · obtain ⟨d, hd⟩ := h
    exact ⟨d, (parseTrace_enabled value d).mpr (Or.inl hd)⟩
  · exact ⟨.cudart, (parseTrace_enabled value _).mpr (Or.inr fun d hd => h ⟨d, hd⟩)⟩

/-! ### Functions -/

/-- The runtime may make a call of one of the two functions through the other. -/
def funcAlias (func : String) : Option String :=
  if func = "cudaMallocHost" then some "cudaHostAlloc"
  else if func = "cudaHostAlloc" then some "cudaMallocHost"
  else none

theorem mem_insertFunc {out : List String} {token f : String} :
    f ∈ insertFunc out token ↔ f ∈ out ∨ f = token ∨ funcAlias token = some f := by
  unfold insertFunc funcAlias
  dsimp only
  split_ifs with h h'
  · rw [List.mem_insert_iff, List.mem_insert_iff, Option.some.injEq]
    tauto
  · rw [List.mem_insert_iff, List.mem_insert_iff, Option.some.injEq]
    tauto
  · rw [List.mem_insert_iff]
    have hno : ¬(none : Option String) = some f := fun he => by cases he
    tauto

theorem nodup_insertFunc {out : List String} (h : out.Nodup) (token : String) :
    (insertFunc out token).Nodup := by
  unfold insertFunc
  dsimp only
  split_ifs
  · exact List.Nodup.insert (List.Nodup.insert h)
  · exact List.Nodup.insert (List.Nodup.insert h)
  · exact List.Nodup.insert h

theorem mem_foldl_insertFunc (ts out : List String) (f : String) :
    f ∈ ts.foldl insertFunc out ↔ f ∈ out ∨ ∃ t ∈ ts, f = t ∨ funcAlias t = some f := by
  induction ts generalizing out with
  | nil => simp
  | cons t ts ih =>
    rw [List.foldl_cons, ih, mem_insertFunc, List.exists_mem_cons_iff, or_assoc]

theorem nodup_foldl_insertFunc {out : List String} (h : out.Nodup) (ts : List String) :
    (ts.foldl insertFunc out).Nodup := by
  induction ts generalizing out with
  | nil => exact h
  | cons t ts ih => exact ih (nodup_insertFunc h t)

/-- The names in the value of `LIB_CUDATRACE_FGRAPH_FUNCS`. -/
def fgraphTokens (value : Option String) : List String :=
  ((value.map (trimmedTokens isComma)).getD []).filter (· ≠ "")

theorem parseFgraphFuncs_eq (value : Option String) :
    parseFgraphFuncs value = (fgraphTokens value).foldl insertFunc [] := by
  cases value <;> rfl

theorem mem_parseFgraphFuncs {value : Option String} {f : String} :
    f ∈ parseFgraphFuncs value ↔ ∃ t ∈ fgraphTokens value, f = t ∨ funcAlias t = some f := by
  rw [parseFgraphFuncs_eq, mem_foldl_insertFunc]
  exact ⟨fun h => h.resolve_left List.not_mem_nil, Or.inr⟩

theorem mem_fgraphTokens {value : Option String} {t : String} (h : t ∈ fgraphTokens value) :
    t ≠ "" ∧ Solid t.toList ∧ ',' ∉ t.toList := by
  obtain ⟨hmem, hne⟩ := List.mem_filter.mp h
  refine ⟨of_decide_eq_true hne, ?_⟩
  cases value with
  | none => cases hmem
  | some raw =>
    obtain ⟨cs, hcs, rfl⟩ := List.mem_map.mp hmem
    obtain ⟨hsolid, hsep⟩ := mem_tokens hcs
    rw [String.toList_ofList]
    exact ⟨hsolid, fun hc => absurd (hsep _ hc) (by decide)⟩

/-! ### Valid configurations -/

/-- The name of a function: not empty, no blanks at its ends, no comma. -/
def FuncName (f : String) : Prop := f ≠ "" ∧ Solid f.toList ∧ ',' ∉ f.toList

theorem funcName_alias {t f : String} (h : funcAlias t = some f) : FuncName f := by
  have hplain : ∀ g ∈ ["cudaMallocHost", "cudaHostAlloc"], FuncName g := by
    intro g hg
    rcases List.mem_cons.mp hg with rfl | hg
    · exact ⟨by decide, solid_of_ends (by decide) (by decide), by decide⟩
    · rw [List.mem_singleton.mp hg]
      exact ⟨by decide, solid_of_ends (by decide) (by decide), by decide⟩
  unfold funcAlias at h
  split_ifs at h
  · obtain rfl := Option.some.inj h
    exact hplain _ (by decide)
  · obtain rfl := Option.some.inj h
    exact hplain _ (by decide)

theorem funcAlias_symm {t f : String} (h : funcAlias t = some f) : funcAlias f = some t := by
  unfold funcAlias at h
  split_ifs at h with h₁ h₂
  · obtain rfl := Option.some.inj h
    rw [h₁]
    rfl
  · obtain rfl := Option.some.inj h
    rw [h₂]
    rfl

namespace Config

/-- What every configuration of a process satisfies. -/
structure Valid (c : Config) : Prop where
  path : c.path ≠ "" ∧ Solid c.path.toList
  trace : c.trace.anyEnabled = true
  maxBlob : 0 < c.maxBlob ∧ c.maxBlob ≤ maxBlobCap
  names : ∀ f ∈ c.fgraphFuncs, FuncName f
  nodup : c.fgraphFuncs.Nodup
  aliases : ∀ f ∈ c.fgraphFuncs, ∀ f', funcAlias f = some f' → f' ∈ c.fgraphFuncs
  bufferKb : minFgraphBufferKb ≤ c.fgraphBufferKb ∧ c.fgraphBufferKb ≤ maxFgraphBufferKb

theorem fromLookup_valid (lookup : String → Option String) : (fromLookup lookup).Valid where
  path := by
    show (((lookup envPath).map trim).filter (· ≠ "")).getD defaultPath ≠ "" ∧ _
    cases hpath : ((lookup envPath).map trim).filter (· ≠ "") with
    | none =>
      have hdefault : (fromLookup lookup).path = defaultPath := by rw [fromLookup, hpath]; rfl
      rw [hdefault]
      exact ⟨by decide, solid_of_ends (by decide) (by decide)⟩
    | some path =>
      have hread : (fromLookup lookup).path = path := by rw [fromLookup, hpath]; rfl
      obtain ⟨hmap, hne⟩ := Option.filter_eq_some_iff.mp hpath
      obtain ⟨raw, -, rfl⟩ := Option.map_eq_some_iff.mp hmap
      rw [hread, trim_toList]
      exact ⟨of_decide_eq_true hne, solid_trimmed _⟩
  trace := parseTrace_anyEnabled _
  maxBlob := parseMaxBlob_bounds _
  names := by
    intro f hf
    obtain ⟨t, ht, rfl | hf⟩ := mem_parseFgraphFuncs.mp hf
    · exact mem_fgraphTokens ht
    · exact funcName_alias hf
  nodup := by
    show (parseFgraphFuncs _).Nodup
    rw [parseFgraphFuncs_eq]
    exact nodup_foldl_insertFunc List.nodup_nil _
  aliases := by
    intro f hf f' hf'
    obtain ⟨t, ht, rfl | hf⟩ := mem_parseFgraphFuncs.mp hf
    · exact mem_parseFgraphFuncs.mpr ⟨f, ht, Or.inr hf'⟩
    · have hback := Option.some.inj ((funcAlias_symm hf).symm.trans hf')
      exact mem_parseFgraphFuncs.mpr ⟨t, ht, Or.inl hback.symm⟩
  bufferKb := parseFgraphBufferKb_bounds _

/-- The function names are a set. -/
structure Same (c c' : Config) : Prop where
  output : c.output = c'.output
  path : c.path = c'.path
  trace : c.trace = c'.trace
  ioctlDecode : c.ioctlDecode = c'.ioctlDecode
  maxBlob : c.maxBlob = c'.maxBlob
  timeUnit : c.timeUnit = c'.timeUnit
  leftMeta : c.leftMeta = c'.leftMeta
  fgraphFuncs : c.fgraphFuncs.Perm c'.fgraphFuncs
  fgraphBufferKb : c.fgraphBufferKb = c'.fgraphBufferKb

end Config

/-! ### An environment for each configuration -/

def OutputMode.value : OutputMode → String
  | .file => "file"
  | .stdout => "stdout"

def IoctlDecodeMode.value : IoctlDecodeMode → String
  | .full => "full"
  | .header => "header"
  | .off => "off"

def TimeUnit.value : TimeUnit → String
  | .us => "us"
  | .ns => "ns"

def LeftMetaMode.value : LeftMetaMode → String
  | .off => "off"
  | .tid => "tid"
  | .timestamp => "ts"
  | .tidTimestamp => "tid,ts"

def joinTokens (ts : List String) : String := String.ofList ([','].intercalate (ts.map String.toList))

def TraceMask.value (m : TraceMask) : String :=
  joinTokens ((([.cudart, .driver, .syscall] : List TraceDomain).filter m.enabledFor).map TraceDomain.token)

/-- An environment that asks for `c`. -/
def Config.toLookup (c : Config) (key : String) : Option String :=
  if key = envOutput then some c.output.value
  else if key = envPath then some c.path
  else if key = envTrace then some c.trace.value
  else if key = envIoctlDecode then some c.ioctlDecode.value
  else if key = envMaxBlob then some (toString c.maxBlob)
  else if key = envTimeUnit then some c.timeUnit.value
  else if key = envLeftMeta then some c.leftMeta.value
  else if key = envFgraphFuncs then some (joinTokens c.fgraphFuncs)
  else if key = envFgraphBufferKb then some (toString c.fgraphBufferKb)
  else none

theorem parseOutput_value (mode : OutputMode) : parseOutput (some mode.value) = mode := by
  cases mode <;> decide

theorem parseIoctlDecode_value (mode : IoctlDecodeMode) : parseIoctlDecode (some mode.value) = mode := by
  cases mode <;> decide

theorem parseTimeUnit_value (unit : TimeUnit) : parseTimeUnit (some unit.value) = unit := by
  cases unit <;> decide

theorem parseTrace_value {m : TraceMask} (h : m.anyEnabled = true) : parseTrace (some m.value) = m := by
  obtain ⟨cudart, driver, syscall⟩ := m
  cases cudart <;> cases driver <;> cases syscall <;> first | exact absurd h (by decide) | decide

theorem parseLeftMeta_value (mode : LeftMetaMode) : parseLeftMeta (some mode.value) = mode := by
  cases mode <;> decide

theorem fgraphTokens_join {fs : List String} (h : ∀ f ∈ fs, FuncName f) :
    fgraphTokens (some (joinTokens fs)) = fs := by
  unfold fgraphTokens trimmedTokens joinTokens
  rw [Option.map_some, Option.getD_some, String.toList_ofList]
  cases fs with
  | nil => decide
  | cons f fs =>
    rw [tokens_intercalate (by decide) (by rw [List.map_cons]; exact List.cons_ne_nil _ _)]
    · have hid : String.ofList ∘ String.toList = id := funext fun _ => String.ofList_toList
      rw [List.map_map, hid, List.map_id, List.filter_eq_self]
      exact fun g hg => decide_eq_true (h g hg).1
    · intro t ht
      obtain ⟨g, hg, rfl⟩ := List.mem_map.mp ht
      refine ⟨(h g hg).2.1, fun c hc => ?_⟩
      rw [isComma, beq_eq_false_iff_ne]
      rintro rfl
      exact (h g hg).2.2 hc

namespace Config

theorem Valid.fgraphFuncs_perm {c : Config} (h : c.Valid) :
    (parseFgraphFuncs (some (joinTokens c.fgraphFuncs))).Perm c.fgraphFuncs := by
  have hnodup := nodup_foldl_insertFunc List.nodup_nil c.fgraphFuncs
  rw [parseFgraphFuncs_eq, fgraphTokens_join h.names, List.perm_ext_iff_of_nodup hnodup h.nodup]
  intro f
  rw [mem_foldl_insertFunc]
  constructor
  · rintro (hf | ⟨t, ht, rfl | hf⟩)
    · cases hf
    · exact ht
    · exact h.aliases t ht f hf
  · exact fun hf => Or.inr ⟨f, hf, Or.inl rfl⟩

/-- What the variables of `toLookup` are read as. -/
theorem fromLookup_toLookup (c : Config) : fromLookup c.toLookup =
    { output := parseOutput (some c.output.value)
      path := (((some c.path).map trim).filter (· ≠ "")).getD defaultPath
      trace := parseTrace (some c.trace.value)
      ioctlDecode := parseIoctlDecode (some c.ioctlDecode.value)
      maxBlob := parseMaxBlob (some (toString c.maxBlob))
      timeUnit := parseTimeUnit (some c.timeUnit.value)
      leftMeta := parseLeftMeta (some c.leftMeta.value)
      fgraphFuncs := parseFgraphFuncs (some (joinTokens c.fgraphFuncs))
      fgraphBufferKb := parseFgraphBufferKb (some (toString c.fgraphBufferKb)) } := by
  simp [fromLookup, toLookup, envOutput, envPath, envTrace, envIoctlDecode, envMaxBlob, envTimeUnit,
    envLeftMeta, envFgraphFuncs, envFgraphBufferKb]

theorem Valid.same {c : Config} (h : c.Valid) : (fromLookup c.toLookup).Same c := by
  have hfilter : (some c.path).filter (· ≠ "") = some c.path :=
    Option.filter_eq_some_iff.mpr ⟨rfl, decide_eq_true h.path.1⟩
  have hpath : (((some c.path).map trim).filter (· ≠ "")).getD defaultPath = c.path := by
    rw [Option.map_some, trim_eq h.path.2, hfilter, Option.getD_some]
  rw [fromLookup_toLookup, parseOutput_value, hpath, parseTrace_value h.trace, parseIoctlDecode_value,
    parseMaxBlob_toString h.maxBlob.1 h.maxBlob.2, parseTimeUnit_value, parseLeftMeta_value,
    parseFgraphBufferKb_toString h.bufferKb.1 h.bufferKb.2]
  exact ⟨rfl, rfl, rfl, rfl, rfl, rfl, rfl, h.fgraphFuncs_perm, rfl⟩

theorem Valid.of_same {c c' : Config} (h : c.Valid) (hs : c.Same c') : c'.Valid where
  path := hs.path ▸ h.path
  trace := hs.trace ▸ h.trace
  maxBlob := hs.maxBlob ▸ h.maxBlob
  names := fun f hf => h.names f (hs.fgraphFuncs.mem_iff.mpr hf)
  nodup := hs.fgraphFuncs.nodup_iff.mp h.nodup
  aliases := fun f hf f' hf' =>
    hs.fgraphFuncs.mem_iff.mp (h.aliases f (hs.fgraphFuncs.mem_iff.mpr hf) f' hf')
  bufferKb := hs.fgraphBufferKb ▸ h.bufferKb

/-- The configurations that some environment asks for are the valid ones. -/
theorem valid_iff_fromLookup (c : Config) : c.Valid ↔ ∃ lookup, (fromLookup lookup).Same c :=
  ⟨fun h => ⟨c.toLookup, h.same⟩, fun ⟨lookup, hs⟩ => (fromLookup_valid lookup).of_same hs⟩

end Config

/-! ### What the configuration depends on -/

/-- The tokens of the value of `LIB_CUDATRACE_LEFT_META`. -/
def leftMetaTokens (value : String) : List String := trimmedTokens isLeftMetaSeparator (normalize value)

theorem addLeftMeta_tid (included : Bool × Bool) (t : String) :
    (addLeftMeta included t).1 = (included.1 || decide (t ∈ tidTokens)) := by
  unfold addLeftMeta
  split_ifs with h h'
  · rw [decide_eq_true h, Bool.or_true]
  · rw [decide_eq_false h, Bool.or_false]
  · rw [decide_eq_false h, Bool.or_false]

theorem addLeftMeta_timestamp (included : Bool × Bool) (t : String) :
    (addLeftMeta included t).2 = (included.2 || decide (t ∈ timestampTokens)) := by
  unfold addLeftMeta
  split_ifs with h h'
  · have hapart : ∀ u ∈ tidTokens, u ∉ timestampTokens := by decide
    rw [decide_eq_false (hapart t h), Bool.or_false]
  · rw [decide_eq_true h', Bool.or_true]
  · rw [decide_eq_false h', Bool.or_false]

theorem foldl_addLeftMeta (ts : List String) (included : Bool × Bool) :
    ts.foldl addLeftMeta included =
      (included.1 || ts.any (· ∈ tidTokens), included.2 || ts.any (· ∈ timestampTokens)) := by
  induction ts generalizing included with
  | nil => rw [List.foldl_nil, List.any_nil, List.any_nil, Bool.or_false, Bool.or_false]
  | cons t ts ih =>
    rw [List.foldl_cons, ih, addLeftMeta_tid, addLeftMeta_timestamp, List.any_cons, List.any_cons,
      Bool.or_assoc, Bool.or_assoc]

/-- A value with a separator is none of the single words. -/
theorem parseLeftMeta_tokens {value : String}
    (h : ∃ c ∈ (normalize value).toList, isLeftMetaSeparator c = true) :
    parseLeftMeta (some value) = leftMetaMode ((leftMetaTokens value).any (· ∈ tidTokens),
      (leftMetaTokens value).any (· ∈ timestampTokens)) := by
  obtain ⟨c, hc, hsep⟩ := h
  have hplain : ∀ w ∈ leftMetaOff ++ leftMetaOn, ∀ c ∈ w.toList, isLeftMetaSeparator c = false := by
    decide
  have hword : normalize value ∉ leftMetaOff ++ leftMetaOn := by
    intro hw
    have hfalse := hplain _ hw c hc
    rw [hsep] at hfalse
    cases hfalse
  rw [List.mem_append, not_or] at hword
  have hfold := foldl_addLeftMeta (leftMetaTokens value) (false, false)
  rw [Bool.false_or, Bool.false_or] at hfold
  unfold parseLeftMeta
  rw [Option.map_some]
  dsimp only
  rw [if_neg hword.1, if_neg hword.2]
  exact congrArg leftMetaMode hfold

/-- The values mean the same: they differ in blanks around the value or a token, in the case of
letters, and in the order and repetition of tokens. -/
structure SameMeaning (lookup lookup' : String → Option String) : Prop where
  words : ∀ key ∈ [envOutput, envIoctlDecode, envTimeUnit],
    (lookup key).map normalize = (lookup' key).map normalize
  texts : ∀ key ∈ [envPath, envMaxBlob, envFgraphBufferKb],
    (lookup key).map trim = (lookup' key).map trim
  trace : ∀ t, t ∈ traceTokens (lookup envTrace) ↔ t ∈ traceTokens (lookup' envTrace)
  leftMeta : (lookup envLeftMeta).map normalize = (lookup' envLeftMeta).map normalize ∨
    ∃ value value', lookup envLeftMeta = some value ∧ lookup' envLeftMeta = some value' ∧
      (∃ c ∈ (normalize value).toList, isLeftMetaSeparator c = true) ∧
      (∃ c ∈ (normalize value').toList, isLeftMetaSeparator c = true) ∧
      ∀ t, t ∈ leftMetaTokens value ↔ t ∈ leftMetaTokens value'
  funcs : ∀ t, t ∈ fgraphTokens (lookup envFgraphFuncs) ↔ t ∈ fgraphTokens (lookup' envFgraphFuncs)

theorem any_congr_mem {ts ts' : List String} (h : ∀ t, t ∈ ts ↔ t ∈ ts') (p : String → Bool) :
    ts.any p = ts'.any p := by
  rw [Bool.eq_iff_iff, List.any_eq_true, List.any_eq_true]
  exact exists_congr fun t => and_congr_left' (h t)

theorem SameMeaning.fromLookup_same {lookup lookup' : String → Option String} (h : SameMeaning lookup lookup') :
    (Config.fromLookup lookup).Same (Config.fromLookup lookup') where
  output := by
    have hword := h.words envOutput (by decide)
    show parseOutput _ = parseOutput _
    rw [parseOutput, parseOutput, hword]
  path := by
    have htext := h.texts envPath (by decide)
    show (((lookup envPath).map trim).filter (· ≠ "")).getD defaultPath = _
    rw [htext]
    rfl
  trace := by
    refine TraceMask.ext_enabled fun d => ?_
    show (parseTrace _).enabledFor d = (parseTrace _).enabledFor d
    rw [Bool.eq_iff_iff, parseTrace_enabled, parseTrace_enabled]
    simp only [h.trace]
  ioctlDecode := by
    have hword := h.words envIoctlDecode (by decide)
    show parseIoctlDecode _ = parseIoctlDecode _
    rw [parseIoctlDecode, parseIoctlDecode, hword]
  maxBlob := by
    have htext := h.texts envMaxBlob (by decide)
    show parseMaxBlob _ = parseMaxBlob _
    rw [parseMaxBlob, parseMaxBlob, htext]
  timeUnit := by
    have hword := h.words envTimeUnit (by decide)
    show parseTimeUnit _ = parseTimeUnit _
    rw [parseTimeUnit, parseTimeUnit, hword]
  leftMeta := by
    show parseLeftMeta _ = parseLeftMeta _
    rcases h.leftMeta with hword | ⟨value, value', hv, hv', hsep, hsep', htokens⟩
    · rw [parseLeftMeta, parseLeftMeta, hword]
    · rw [hv, hv', parseLeftMeta_tokens hsep, parseLeftMeta_tokens hsep', any_congr_mem htokens,
        any_congr_mem htokens]
  fgraphFuncs := by
    have hnodup : ∀ value, (parseFgraphFuncs value).Nodup := fun value => by
      rw [parseFgraphFuncs_eq]
      exact nodup_foldl_insertFunc List.nodup_nil _
    show (parseFgraphFuncs _).Perm (parseFgraphFuncs _)
    rw [List.perm_ext_iff_of_nodup (hnodup _) (hnodup _)]
    intro f
    rw [mem_parseFgraphFuncs, mem_parseFgraphFuncs]
    exact exists_congr fun t => and_congr_left' (h.funcs t)
  fgraphBufferKb := by
    have htext := h.texts envFgraphBufferKb (by decide)
    show parseFgraphBufferKb _ = parseFgraphBufferKb _
    rw [parseFgraphBufferKb, parseFgraphBufferKb, htext]

def looseEnv (key : String) : Option String :=
  if key = envTrace then some " Driver , SYSCALL"
  else if key = envLeftMeta then some "TS | tid"
  else if key = envFgraphFuncs then some " cuInit, cudaMalloc,"
  else none

def tidyEnv (key : String) : Option String :=
  if key = envTrace then some "syscall,driver,driver"
  else if key = envLeftMeta then some "tid,ts"
  else if key = envFgraphFuncs then some "cudaMalloc,cuInit,cudaMalloc"
  else none

theorem fromLookup_loose_tidy : (Config.fromLookup looseEnv).Same (Config.fromLookup tidyEnv) := by
  have htrace : traceTokens (looseEnv envTrace) = ["driver", "syscall"] := by decide
  have htrace' : traceTokens (tidyEnv envTrace) = ["syscall", "driver", "driver"] := by decide
  have hfuncs : fgraphTokens (looseEnv envFgraphFuncs) = ["cuInit", "cudaMalloc"] := by decide
  have hfuncs' : fgraphTokens (tidyEnv envFgraphFuncs) = ["cudaMalloc", "cuInit", "cudaMalloc"] := by
    decide
  have hmeta : leftMetaTokens "TS | tid" = ["ts", "tid"] := by decide
  have hmeta' : leftMetaTokens "tid,ts" = ["tid", "ts"] := by decide
  refine SameMeaning.fromLookup_same ⟨by decide, by decide, fun t => ?_, Or.inr ⟨"TS | tid", "tid,ts", by decide,
    by decide, ⟨'|', by decide, rfl⟩, ⟨',', by decide, rfl⟩, fun t => ?_⟩, fun t => ?_⟩
  · rw [htrace, htrace']
    simp only [List.mem_cons, List.not_mem_nil]
    tauto
  · rw [hmeta, hmeta']
    simp only [List.mem_cons, List.not_mem_nil]
    tauto
  · rw [hfuncs, hfuncs']
    simp only [List.mem_cons, List.not_mem_nil]
    tauto

end CudaTrace
