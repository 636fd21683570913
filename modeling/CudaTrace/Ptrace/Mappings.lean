import CudaTrace.Base.Lines
import CudaTrace.Ptrace.RemoteText

/-!
# Whose mappings count as cudatrace's (ptrace.rs)

The maps file of a process is a list of mappings, one a line. `load_cudatrace_ranges` takes the
lines that hold the text `cudatrace`; `is_internal_syscall` looks for an address in their ranges
in the program counter and in sixteen words of the stack.
-/

namespace CudaTrace.Ptrace
open CudaTrace.Base CudaTrace.Base.Checked CudaTrace.Decode

/-! ### The maps file -/

/-- What stands between the range and the pathname of a mapping: permissions, offset, device and
inode, then padding. -/
def columnChars : List Char := "0123456789abcdefrwxps-: ".toList

/-- The text that a line is searched for. -/
def nameMark : List Char := "cudatrace".toList

/-- One mapping of a process, as the kernel shows it. The kernel writes a line break in a
pathname as an escape. -/
structure Mapping where
  start : U64
  stop : U64
  columns : List Char
  path : List Char
  ordered : start < stop
  plain : ∀ c ∈ columns, c ∈ columnChars
  oneLine : '\n' ∉ path

namespace Mapping

def line (m : Mapping) : List Char :=
  hexPadChars 8 m.start.toNat ++ '-' :: hexPadChars 8 m.stop.toNat ++ ' ' :: m.columns ++
    ' ' :: m.path

def range (m : Mapping) : U64 × U64 := (m.start, m.stop)

/-- The shared library, by the last component of the pathname (the kernel marks a file that was
removed). -/
def isLibrary (m : Mapping) : Bool :=
  match (m.path.splitOn '/').getLast? with
  | some last =>
    last == "libcudatrace.so".toList || last == "libcudatrace.so (deleted)".toList
  | none => false

end Mapping

/-- The text of the maps file. -/
def mapsText (maps : List Mapping) : String := String.ofList (unlines (maps.map Mapping.line))

theorem infix_of_mem_splitOn {cs part : List Char} {c : Char} (h : part ∈ cs.splitOn c) :
    part <:+: cs := by
  have hjoin : [c].intercalate (cs.splitOn c) = cs := List.intercalate_splitOn c
  rw [← hjoin]
  generalize cs.splitOn c = parts at h
  induction parts with
  | nil => cases h
  | cons x parts ih =>
    cases parts with
    | nil => rw [List.mem_singleton.mp h]; simp
    | cons y parts =>
      rw [List.intercalate_cons_cons]
      rcases List.mem_cons.mp h with rfl | h
      · rw [List.append_assoc]
        exact List.infix_append_left
      · exact List.infix_append_of_infix_right (ih h)

theorem Mapping.isLibrary_contains {m : Mapping} (h : m.isLibrary = true) :
    nameMark <:+: m.path := by
  unfold Mapping.isLibrary at h
  cases hlast : (m.path.splitOn '/').getLast? with
  | none => rw [hlast] at h; cases h
  | some last =>
    rw [hlast] at h
    have hpart : last <:+: m.path := infix_of_mem_splitOn (List.mem_of_getLast? hlast)
    refine List.IsInfix.trans ?_ hpart
    simp only [Bool.or_eq_true, beq_iff_eq] at h
    rcases h with rfl | rfl
    · decide
    · decide

theorem hexPadChars_plain' (n : ℕ) : ∀ c ∈ hexPadChars 8 n, c ∈ columnChars := by
  intro c hc
  have hzero : '0' ∈ columnChars := by decide
  have hdigit : ∀ d < 16, Nat.digitChar d ∈ columnChars := by decide
  rw [hexPadChars, List.mem_append, List.mem_replicate] at hc
  rcases hc with ⟨_, rfl⟩ | hc
  · exact hzero
  · obtain ⟨d, hd, rfl⟩ := mem_toDigits (by decide) hc
    exact hdigit d hd

theorem parseHexU64_hexPadChars (v : U64) :
    parseHexU64 (String.ofList (hexPadChars 8 v.toNat)) = some v := by
  have hplus : (hexPadChars 8 v.toNat).head? ≠ some '+' := by
    intro hhead
    exact absurd (hexPadChars_plain' v.toNat '+' (List.mem_of_mem_head? hhead)) (by decide)
  have hne : hexPadChars 8 v.toNat ≠ [] := List.append_ne_nil_of_right_ne_nil _ Nat.toDigits_ne_nil
  have hlt : v.toNat < 2 ^ 64 := v.isLt
  unfold parseHexU64
  rw [String.toList_ofList, if_neg hplus]
  dsimp only
  rw [if_neg (by simpa using hne), hexDigits_hexPadChars, Option.bind_some, if_pos hlt,
    BitVec.ofNat_toNat, BitVec.setWidth_eq]

namespace Mapping
variable (m : Mapping)

theorem line_eq : m.line = (hexPadChars 8 m.start.toNat ++ '-' :: hexPadChars 8 m.stop.toNat) ++
    ' ' :: (m.columns ++ ' ' :: m.path) := by
  simp [line]

theorem noBreak_line : '\n' ∉ m.line := by
  have hbreak : '\n' ∉ columnChars := by decide
  have hstart : '\n' ∉ hexPadChars 8 m.start.toNat := fun h => hbreak (hexPadChars_plain' _ _ h)
  have hstop : '\n' ∉ hexPadChars 8 m.stop.toNat := fun h => hbreak (hexPadChars_plain' _ _ h)
  have hcolumns : '\n' ∉ m.columns := fun h => hbreak (m.plain _ h)
  have hpath := m.oneLine
  rw [line_eq]
  simp [hstart, hstop, hcolumns, hpath]

/-- The name can only be found in the pathname: the other columns have no such letters. -/
theorem contains_line :
    contains (String.ofList (dropCarriageReturn m.line)) "cudatrace" =
      decide (nameMark <:+: m.path) := by
  have hletter : 'u' ∉ columnChars := by decide
  have hspace : ' ' ∉ nameMark := by decide
  have hhas : 'u' ∈ nameMark := by decide
  have hrange : ¬ nameMark <:+:
      hexPadChars 8 m.start.toNat ++ '-' :: hexPadChars 8 m.stop.toNat := by
    intro h
    rcases List.mem_append.mp (h.subset hhas) with hmem | hmem
    · exact hletter (hexPadChars_plain' _ _ hmem)
    · rcases List.mem_cons.mp hmem with hmem | hmem
      · exact absurd hmem (by decide)
      · exact hletter (hexPadChars_plain' _ _ hmem)
  have hcolumns : ¬ nameMark <:+: m.columns := fun h => hletter (m.plain _ (h.subset hhas))
  have hchars : (String.ofList (dropCarriageReturn m.line)).toList = dropCarriageReturn m.line :=
    String.toList_ofList
  show decide (nameMark <:+: (String.ofList (dropCarriageReturn m.line)).toList) = _
  rw [hchars, decide_eq_decide, infix_dropCarriageReturn (by decide), line_eq,
    infix_separated hspace, infix_separated hspace]
  simp [hrange, hcolumns]

/-- The first word of the line is the range. -/
theorem head_words : (splitWhitespace (String.ofList (dropCarriageReturn m.line))).head? =
    some (String.ofList (hexPadChars 8 m.start.toNat ++ '-' :: hexPadChars 8 m.stop.toNat)) := by
  have hplain : ∀ c ∈ hexPadChars 8 m.start.toNat ++ '-' :: hexPadChars 8 m.stop.toNat,
      isWhitespace c = false := by
    have hdigit : ∀ n, ∀ c ∈ hexPadChars 8 n, isWhitespace c = false := by
      have hdigits : ∀ d < 16, isWhitespace (Nat.digitChar d) = false := by decide
      intro n c hc
      rw [hexPadChars, List.mem_append, List.mem_replicate] at hc
      rcases hc with ⟨_, rfl⟩ | hc
      · decide
      · obtain ⟨d, hd, rfl⟩ := mem_toDigits (by decide) hc
        exact hdigits d hd
    intro c hc
    rcases List.mem_append.mp hc with hc | hc
    · exact hdigit _ c hc
    · rcases List.mem_cons.mp hc with rfl | hc
      · decide
      · exact hdigit _ c hc
  rw [splitWhitespace, String.toList_ofList, line_eq, dropCarriageReturn_append _ _ (by decide),
    wordsAux_append hplain [] (by decide) (by simp)]
  rfl

end Mapping

/-- The ranges that are taken: those of the mappings with the name anywhere in the pathname. -/
theorem loadCudatraceRanges_eq {env : Env} {pid : Pid} {maps : List Mapping}
    (h : env.procMaps pid = some (mapsText maps)) :
    loadCudatraceRanges env pid =
      (maps.filter fun m => decide (nameMark <:+: m.path)).map Mapping.range := by
  have hlines : lines (mapsText maps) =
      maps.map fun m => String.ofList (dropCarriageReturn m.line) := by
    have hbreaks : ∀ l ∈ maps.map Mapping.line, '\n' ∉ l := by
      intro l hl
      obtain ⟨m, -, rfl⟩ := List.mem_map.mp hl
      exact m.noBreak_line
    rw [lines, mapsText, String.toList_ofList, linesAux_unlines hbreaks, List.map_map, List.map_map]
    rfl
  have hhyphen : ∀ n, '-' ∉ hexPadChars 8 n := by
    have hdigits : ∀ d < 16, '-' ≠ Nat.digitChar d := by decide
    intro n hc
    rw [hexPadChars, List.mem_append, List.mem_replicate] at hc
    rcases hc with ⟨_, hc⟩ | hc
    · exact absurd hc (by decide)
    · obtain ⟨d, hd, he⟩ := mem_toDigits (by decide) hc
      exact hdigits d hd he
  unfold loadCudatraceRanges
  rw [h]
  dsimp only
  rw [hlines, List.filterMap_map, ← List.filterMap_eq_map, List.filterMap_filter]
  refine List.filterMap_congr fun m _ => ?_
  rw [Function.comp_apply, m.contains_line, m.head_words]
  by_cases hname : nameMark <:+: m.path
  · have hsplit := @splitOnce_append _ (hexPadChars 8 m.stop.toNat) _ (hhyphen m.start.toNat)
    simp only [hname, decide_true, guard, if_true, Option.pure_def, Option.bind_eq_bind,
      Option.bind_some, hsplit, parseHexU64_hexPadChars, m.ordered, Mapping.range,
      Function.comp_apply]
  · simp [hname, guard]

/-- Only mappings of the library are taken if and only if no other pathname holds the name. -/
theorem loadCudatraceRanges_iff {env : Env} {pid : Pid} {maps : List Mapping}
    (h : env.procMaps pid = some (mapsText maps)) :
    loadCudatraceRanges env pid = (maps.filter Mapping.isLibrary).map Mapping.range ↔
      ∀ m ∈ maps, nameMark <:+: m.path → m.isLibrary = true := by
  rw [loadCudatraceRanges_eq h]
  constructor
  · intro heq m hm hname
    have hsub : (maps.filter Mapping.isLibrary).Sublist
        (maps.filter fun m => decide (nameMark <:+: m.path)) :=
      List.monotone_filter_right maps fun m hlib => decide_eq_true (Mapping.isLibrary_contains hlib)
    have hlen := congrArg List.length heq
    rw [List.length_map, List.length_map] at hlen
    have hmem : m ∈ maps.filter fun m => decide (nameMark <:+: m.path) :=
      List.mem_filter.mpr ⟨hm, decide_eq_true hname⟩
    rw [← hsub.eq_of_length hlen.symm] at hmem
    exact (List.mem_filter.mp hmem).2
  · intro hall
    congr 1
    refine List.filter_congr fun m hm => ?_
    by_cases hname : nameMark <:+: m.path
    · rw [hall m hm hname, decide_eq_true hname]
    · rw [decide_eq_false hname]
      cases hlib : m.isLibrary with
      | false => rfl
      | true => exact absurd (Mapping.isLibrary_contains hlib) hname

def Env.mapping (maps : List Mapping) : Env :=
  { Env.silent with procMaps := fun _ => some (mapsText maps) }

def sampleColumns : List Char := "r-xp 00000000 08:02 1311".toList

/-- A mapping of a file with sample columns. -/
def fileMapping (start stop : U64) (path : String) (ordered : start < stop := by decide)
    (oneLine : '\n' ∉ path.toList := by decide) : Mapping :=
  ⟨start, stop, sampleColumns, path.toList, ordered, by decide, oneLine⟩

theorem loadCudatraceRanges_library :
    loadCudatraceRanges (Env.mapping [fileMapping 0x1000 0x2000 "/opt/libcudatrace.so",
        fileMapping 0x3000 0x4000 "/usr/lib/libc.so.6"]) 1 =
      ([fileMapping 0x1000 0x2000 "/opt/libcudatrace.so",
        fileMapping 0x3000 0x4000 "/usr/lib/libc.so.6"].filter Mapping.isLibrary).map Mapping.range :=
  (loadCudatraceRanges_iff rfl).mpr (by decide)

/-- The binary of an application that lives in a directory of that name is taken as well. -/
theorem application_taken :
    loadCudatraceRanges (Env.mapping [fileMapping 0x1000 0x2000 "/home/u/cudatrace/app"]) 1 ≠
      ([fileMapping 0x1000 0x2000 "/home/u/cudatrace/app"].filter Mapping.isLibrary).map
        Mapping.range := by
  rw [loadCudatraceRanges_eq rfl]
  decide

/-! ### Whose code issued the syscall -/

/-- A frame of the call chain: where its code goes on, and its words on the stack. -/
structure Frame where
  code : U64
  locals : List U64

/-- The words that some frames put on the stack, each with the address its code returns to. -/
def frameWords (frames : List Frame) : List U64 := frames.flatMap fun f => f.code :: f.locals

/-- The stack of a call chain, innermost frame first: the code of that frame is not on it. -/
def stackWords (chain : List Frame) : List U64 := (frameWords chain).tail

/-- The words of the stack that the scan gets to see. -/
def scannedWords (t : Target) (regs : UserRegs) : List U64 :=
  wordsOf (t.readable regs.rsp.toNat (stackWordsToScan * 8))

/-- A task stopped in a call chain: its program counter is in the innermost frame, and its stack
holds the words of the chain, with others above. -/
structure StoppedIn (env : Env) (pid : Pid) (t : Target) (regs : UserRegs) (chain : List Frame)
    (above : List U64) : Prop where
  copies : Copies env pid t
  rip : (chain.head?.map Frame.code) = some regs.rip
  stack : scannedWords t regs <+: stackWords chain ++ above

/-- The frame that decides: the innermost one outside libc and the vdso. -/
def origin (stub : U64 → Bool) (chain : List Frame) : Option Frame :=
  chain.find? fun f => !stub f.code

theorem length_wordsOf (bytes : List UInt8) : 8 * (wordsOf bytes).length ≤ bytes.length := by
  induction hn : bytes.length using Nat.strong_induction_on generalizing bytes with
  | _ n ih =>
    subst hn
    unfold wordsOf
    split
    · rename_i rest
      have hrest := ih rest.length (by simp only [List.length_cons]; omega) rest rfl
      simp only [List.length_cons]
      omega
    · simp

theorem length_scannedWords (t : Target) (regs : UserRegs) : (scannedWords t regs).length ≤ 16 := by
  have hwords := length_wordsOf (t.readable regs.rsp.toNat (stackWordsToScan * 8))
  have hbytes := t.length_readable_le regs.rsp.toNat (stackWordsToScan * 8)
  have hscan : stackWordsToScan = 16 := rfl
  rw [scannedWords]
  omega

/-- What the classification looks at: the program counter, then the words that can be read. -/
theorem isInternalSyscall_iff {env : Env} {pid : Pid} {t : Target} (hcopy : Copies env pid t)
    (regs : UserRegs) (ranges : List (U64 × U64)) :
    isInternalSyscall env pid regs ranges = true ↔
      inRanges regs.rip ranges = true ∨ ∃ w ∈ scannedWords t regs, inRanges w ranges = true := by
  unfold isInternalSyscall
  by_cases hnone : ranges.isEmpty
  · have hout : ∀ a, inRanges a ranges = false := by
      intro a
      rw [List.isEmpty_iff.mp hnone]
      rfl
    simp [hnone, hout]
  · rw [if_neg hnone]
    by_cases hrip : inRanges regs.rip ranges
    · simp [hrip]
    · rw [if_neg hrip, readRemoteBytes_of_copies hcopy regs.rsp (by decide), or_iff_right hrip,
        scannedWords]
      by_cases hread : t.readable regs.rsp.toNat (stackWordsToScan * 8) = []
      · simp [hread, wordsOf]
      · rw [if_neg hread]
        exact List.any_eq_true

theorem stackWords_append {before : List Frame} (hne : before ≠ []) (f : Frame)
    (rest : List Frame) :
    stackWords (before ++ f :: rest) =
      (frameWords before).tail ++ f.code :: (f.locals ++ frameWords rest) := by
  have hwords : frameWords before ≠ [] := by
    cases before with
    | nil => exact absurd rfl hne
    | cons g before => simp [frameWords]
  have hall : frameWords (before ++ f :: rest) =
      frameWords before ++ f.code :: (f.locals ++ frameWords rest) := by
    simp [frameWords]
  rw [stackWords, hall, List.tail_append_of_ne_nil hwords]

/-- What the classification says about a call chain: what it looks at; code of the library is
recognised when it makes the syscall itself, or when the address it is returned to is among the
scanned words; other code is told apart when the frames up to the wrapper hold no address of the
library and take all sixteen words. -/
structure ClassifiesBy (t : Target) (regs : UserRegs) (ranges : List (U64 × U64))
    (chain : List Frame) (internal : Bool) : Prop where
  exact : internal = true ↔
    inRanges regs.rip ranges = true ∨ ∃ w ∈ scannedWords t regs, inRanges w ranges = true
  direct : ∀ f rest, chain = f :: rest → inRanges f.code ranges = true → internal = true
  stubs : ∀ before f rest, chain = before ++ f :: rest → inRanges f.code ranges = true →
    (frameWords before).length ≤ (scannedWords t regs).length → internal = true
  others : ∀ before rest, chain = before ++ rest → 17 ≤ (frameWords before).length →
    (∀ w ∈ frameWords before, inRanges w ranges = false) → internal = false

theorem isInternalSyscall_classifies {env : Env} {pid : Pid} {t : Target} {regs : UserRegs}
    {chain : List Frame} {above : List U64} (h : StoppedIn env pid t regs chain above)
    (ranges : List (U64 × U64)) :
    ClassifiesBy t regs ranges chain (isInternalSyscall env pid regs ranges) := by
  have hexact := isInternalSyscall_iff h.copies regs ranges
  have hdirect : ∀ f rest, chain = f :: rest → inRanges f.code ranges = true →
      isInternalSyscall env pid regs ranges = true := by
    rintro f rest rfl hf
    have hrip := h.rip
    rw [List.head?_cons, Option.map_some, Option.some.injEq] at hrip
    rw [hexact, ← hrip]
    exact .inl hf
  obtain ⟨tail, hstack⟩ := h.stack
  refine ⟨hexact, hdirect, fun before f rest hchain hf hlen => ?_, fun before rest hchain hlen hout => ?_⟩
  · cases hbefore : before with
    | nil => exact hdirect f rest (by rw [hchain, hbefore]; rfl) hf
    | cons g inner =>
      have hne : before ≠ [] := by rw [hbefore]; exact List.cons_ne_nil g inner
      rw [hchain, stackWords_append hne] at hstack
      rw [hexact]
      refine .inr ⟨f.code, ?_, hf⟩
      have hwords : 0 < (frameWords before).length := by
        rw [hbefore]
        simp [frameWords]
      have hget := congrArg (fun l => l[(frameWords before).length - 1]?) hstack
      rw [List.append_assoc] at hget
      have htail : (frameWords before).tail.length = (frameWords before).length - 1 := by simp
      simp only [List.getElem?_append_left (show (frameWords before).length - 1 <
        (scannedWords t regs).length by omega)] at hget
      rw [← htail, List.getElem?_append_right (Nat.le_refl _), Nat.sub_self] at hget
      exact List.mem_of_getElem? (by simpa using hget)
  · rw [Bool.eq_false_iff, ne_eq, hexact]
    have hscan := length_scannedWords t regs
    cases hbefore : before with
    | nil =>
      rw [hbefore] at hlen
      simp [frameWords] at hlen
    | cons g inner =>
      have hg : inRanges g.code ranges = false := hout _ (by rw [hbefore]; simp [frameWords])
      have hrip := h.rip
      rw [hchain, hbefore, List.cons_append, List.head?_cons, Option.map_some,
        Option.some.injEq] at hrip
      rw [← hrip, hg]
      rintro (hc | ⟨w, hw, hin⟩)
      · cases hc
      · have hall : stackWords chain = (frameWords before).tail ++ frameWords rest := by
          rw [hchain, stackWords, hbefore]
          simp [frameWords]
        have hstarts : scannedWords t regs <+: (frameWords before).tail := by
          refine List.prefix_of_prefix_length_le ⟨tail, hstack⟩ ?_ ?_
          · rw [hall, List.append_assoc]
            exact List.prefix_append _ _
          · rw [List.length_tail]
            omega
        rw [hout w (List.mem_of_mem_tail (hstarts.subset hw))] at hin
        cases hin

/-- The driver library makes a syscall two words below the address that returns to a wrapper. -/
def driverCall : List Frame := [⟨0x5000, [0, 0]⟩, ⟨0x1010, []⟩, ⟨0x7000, []⟩]

def driverStack : Target :=
  memoryAt 0x8000 (List.replicate 16 0 ++ [0x10, 0x10, 0, 0, 0, 0, 0, 0, 0, 0x70, 0, 0, 0, 0, 0, 0])

def driverRegs : UserRegs := { UserRegs.entering sysIoctl with rip := 0x5000, rsp := 0x8000 }

theorem driverCall_stopped :
    StoppedIn (Env.reading driverStack) 1 driverStack driverRegs driverCall [] :=
  ⟨copies_reading driverStack 1, rfl, by decide⟩

theorem isInternalSyscall_driverCall :
    ClassifiesBy driverStack driverRegs [(0x1000, 0x2000)] driverCall
      (isInternalSyscall (Env.reading driverStack) 1 driverRegs [(0x1000, 0x2000)]) :=
  isInternalSyscall_classifies driverCall_stopped _

/-- That syscall of the driver library counts as one of cudatrace's own. -/
theorem driverCall_internal : ¬ ∀ env pid t regs chain above, StoppedIn env pid t regs chain above →
    ∀ (stub : U64 → Bool) (ranges : List (U64 × U64)),
      isInternalSyscall env pid regs ranges = true ↔
        ∃ f, origin stub chain = some f ∧ inRanges f.code ranges = true := by
  intro h
  have hsame := h _ _ _ _ _ _ driverCall_stopped (fun _ => false) [(0x1000, 0x2000)]
  have hinternal : isInternalSyscall (Env.reading driverStack) 1 driverRegs [(0x1000, 0x2000)] = true := by
    decide
  obtain ⟨f, hf, hin⟩ := hsame.mp hinternal
  have horigin : origin (fun _ => false) driverCall = some ⟨0x5000, [0, 0]⟩ := rfl
  rw [horigin, Option.some.injEq] at hf
  rw [← hf] at hin
  exact absurd hin (by decide)

end CudaTrace.Ptrace
