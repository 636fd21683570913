import CudaTrace.Decode.Summary
import CudaTrace.Ptrace.Capture
import CudaTrace.Ptrace.SyscallText

/-!
# The line of a syscall (ptrace.rs)

`format_syscall_line` puts a line together from the registers, the return value, the traced
memory and the table of descriptor paths. Paths go into it as they are.
-/

namespace CudaTrace.Ptrace
open CudaTrace.Base CudaTrace.Base.Checked CudaTrace.Decode

/-! ### Names of the syscalls -/

/-- The number and the name in a line of `unistd_64.h`. -/
def definedSyscall (line : String) : Option (I64 × String) :=
  if startsWith (trim line) "#define __NR_" then
    match splitWhitespace (trim line) with
    | _ :: nameRaw :: numRaw :: _ =>
      if startsWith nameRaw "__NR_" then
        (parseI64 numRaw).map fun nr => (nr, String.ofList (nameRaw.toList.drop "__NR_".length))
      else none
    | _ => none
  else none

/-- `load_syscall_names`, from the texts of the candidates that can be read. Of two lines with
one number the later counts. -/
def loadSyscallNames : List (Option String) → List (I64 × String)
  | [] => []
  | none :: rest => loadSyscallNames rest
  | some text :: rest =>
    let names := (lines text).filterMap definedSyscall
    if names.isEmpty then loadSyscallNames rest else names.reverse

/-- The data of the tracer process, with the names from the texts. -/
def namedGlobals (cfg : Config) (headers : List (Option String)) : Globals where
  config := cfg
  syscallNames := fun nr => (loadSyscallNames headers).lookup nr

theorem noBreak_lookup {α : Type} [BEq α] {names : List (α × String)} (h : ∀ p ∈ names, NoBreak p.2)
    {default : String} (hdefault : NoBreak default) (a : α) :
    NoBreak ((names.lookup a).getD default) := by
  induction names with
  | nil => exact hdefault
  | cons p names ih =>
    rw [List.lookup_cons]
    split
    · exact h _ List.mem_cons_self
    · exact ih fun q hq => h q (List.mem_cons_of_mem _ hq)

theorem noBreak_definedSyscall {line : String} {p : I64 × String}
    (h : definedSyscall line = some p) : NoBreak p.2 := by
  unfold definedSyscall at h
  split at h
  · split at h
    · rename_i nameRaw numRaw rest hwords
      have hword : nameRaw ∈ splitWhitespace (trim line) := by
        rw [hwords]
        simp
      obtain ⟨w, hw, rfl⟩ := List.mem_map.mp hword
      obtain ⟨-, hp⟩ := Option.ite_none_right_eq_some.mp h
      obtain ⟨nr, -, rfl⟩ := Option.map_eq_some_iff.mp hp
      have hblank := mem_wordsAux (by simp) hw
      intro hbreak
      rw [String.toList_ofList, String.toList_ofList] at hbreak
      exact absurd (hblank _ (List.mem_of_mem_drop hbreak)) (by decide)
    · cases h
  · cases h

theorem noBreak_loadSyscallNames {headers : List (Option String)} {p : I64 × String}
    (h : p ∈ loadSyscallNames headers) : NoBreak p.2 := by
  induction headers with
  | nil => cases h
  | cons header rest ih =>
    cases header with
    | none => exact ih h
    | some text =>
      simp only [loadSyscallNames] at h
      split at h
      · exact ih h
      · obtain ⟨line, -, hline⟩ := List.mem_filterMap.mp (List.mem_reverse.mp h)
        exact noBreak_definedSyscall hline

theorem noBreak_syscallName (cfg : Config) (headers : List (Option String)) (nr : I64) :
    NoBreak (syscallName (namedGlobals cfg headers) nr) := by
  have hfallback : NoBreak "syscall_" := by decide
  exact noBreak_lookup (fun _ => noBreak_loadSyscallNames)
    (hfallback.append (noBreak_int nr.toInt)) nr

/-! ### The summary of an ioctl, in pieces -/

theorem noBreak_directionName (m : IoctlMeta) : NoBreak m.directionName := by
  unfold IoctlMeta.directionName
  split <;> decide

theorem noBreak_outerCmdName (nr : U8) : NoBreak (outerCmdName nr) := by
  unfold outerCmdName
  split
  all_goals exact noBreak_ofList (by decide)

theorem noBreak_uvmCmdName (cmd : U64) : NoBreak (Uvm.uvmCmdName cmd) := by
  unfold Uvm.uvmCmdName
  split <;> exact noBreak_ofList (by decide)

theorem noBreak_formatIocNr (m : IoctlMeta) (fdPath : Option String) :
    NoBreak (formatIocNr m fdPath) := by
  unfold formatIocNr
  dsimp only
  split_ifs
  · exact noBreak_uvmCmdName _
  · exact noBreak_repr _
  · exact noBreak_outerCmdName _
  · exact noBreak_repr _

/-- `format_ioc_type`, with the ticks as the delimiters of a field. -/
def iocTypePiece (iocType : U8) : Piece :=
  if 0x21 ≤ iocType.toNat ∧ iocType.toNat ≤ 0x7e then
    .field .ticks (Char.ofNat iocType.toNat).toString
  else hexPiece iocType

def headerPieces (m : IoctlMeta) (fdPath : Option String) : List Piece :=
  [.text "_IOC(dir=", .text m.directionName (noBreak_directionName m), .text ",type=",
    iocTypePiece m.iocType, .text ",nr=", .text (formatIocNr m fdPath) (noBreak_formatIocNr m fdPath),
    .text ",size=", natPiece m.size.toNat, .text ")"]

/-- `summarize_ioctl`, in pieces. -/
def summaryPieces (cmd argPtr : U64) (mode : IoctlDecodeMode) (maxBlob : ℕ)
    (fdPath : Option String) : Decoding (List Piece) := do
  let m := decodeIoctlCmd cmd
  match ← decodeArgs m argPtr mode maxBlob fdPath with
  | none => return headerPieces m fdPath
  | some fields =>
    return headerPieces m fdPath ++ [.text ", args=", .nested (objectText fields) (tidy_objectText fields)]

theorem renderLine_append (ps qs : List Piece) :
    renderLine (ps ++ qs) = renderLine ps ++ renderLine qs := by
  induction ps with
  | nil => simp [renderLine]
  | cons p ps ih => rw [List.cons_append, renderLine_cons, renderLine_cons, ih, String.append_assoc]

theorem render_headerPieces (m : IoctlMeta) (fdPath : Option String) :
    renderLine (headerPieces m fdPath) = ioctlHeader m fdPath := by
  have htype : (iocTypePiece m.iocType).render = formatIocType m.iocType := by
    unfold iocTypePiece formatIocType
    split
    · rfl
    · rfl
  have hnil : renderLine [] = "" := rfl
  show _ = "_IOC(dir=" ++ m.directionName ++ ",type=" ++ formatIocType m.iocType ++ ",nr=" ++
    formatIocNr m fdPath ++ ",size=" ++ m.size.toNat.repr ++ ")"
  simp only [headerPieces, renderLine_cons, htype, hnil]
  simp only [natPiece, Piece.render, String.append_assoc, String.append_empty]

/-- The pieces are those of `summarizeIoctl`. -/
theorem render_summaryPieces {cmd argPtr : U64} {mode : IoctlDecodeMode} {maxBlob : ℕ}
    {fdPath : Option String} {w : World Target} {ps : List Piece}
    (h : (summaryPieces cmd argPtr mode maxBlob fdPath w).outcome = .ok ps) :
    (summarizeIoctl cmd argPtr mode maxBlob fdPath w).outcome = .ok (renderLine ps) := by
  simp only [summaryPieces, ok_bind] at h
  obtain ⟨fields, hargs, h⟩ := h
  simp only [summarizeIoctl, ok_bind]
  refine ⟨fields, hargs, ?_⟩
  cases fields with
  | none =>
    rw [ok_pure] at h
    rw [ok_pure, ← h, render_headerPieces]
  | some fields =>
    rw [ok_pure] at h
    rw [ok_pure, ← h, renderLine_append, render_headerPieces]
    simp [renderLine, Piece.render, String.append_assoc]

/-! ### The calls that are told apart -/

inductive TracedCall where
  | sysOpen | sysOpenat | sysClose | sysDup | sysDup2 | sysDup3 | sysMmap | sysMunmap | sysRead
  | sysWrite | sysPoll | sysPpoll | sysSelect | sysPselect6 | sysStat | sysLstat | sysFstat
  | sysNewfstatat | sysAccess | sysFaccessat | sysLseek | sysPread64 | sysPwrite64 | sysPrctl
  | sysIoctl | sysFutex | other

def sysPoll : I64 := 7
def sysMunmap : I64 := 11
def sysSelect : I64 := 23
def sysPrctl : I64 := 157
def sysFutex : I64 := 202
def sysPselect6 : I64 := 270
def sysPpoll : I64 := 271

/-- The arm of the `match` on the number. -/
def tracedCall (nr : I64) : TracedCall :=
  if nr = sysOpen then .sysOpen
  else if nr = sysOpenat then .sysOpenat
  else if nr = sysClose then .sysClose
  else if nr = sysDup then .sysDup
  else if nr = sysDup2 then .sysDup2
  else if nr = sysDup3 then .sysDup3
  else if nr = sysMmap then .sysMmap
  else if nr = sysMunmap then .sysMunmap
  else if nr = sysRead then .sysRead
  else if nr = sysWrite then .sysWrite
  else if nr = sysPoll then .sysPoll
  else if nr = sysPpoll then .sysPpoll
  else if nr = sysSelect then .sysSelect
  else if nr = sysPselect6 then .sysPselect6
  else if nr = sysStat then .sysStat
  else if nr = sysLstat then .sysLstat
  else if nr = sysFstat then .sysFstat
  else if nr = sysNewfstatat then .sysNewfstatat
  else if nr = sysAccess then .sysAccess
  else if nr = sysFaccessat then .sysFaccessat
  else if nr = sysLseek then .sysLseek
  else if nr = sysPread64 then .sysPread64
  else if nr = sysPwrite64 then .sysPwrite64
  else if nr = sysPrctl then .sysPrctl
  else if nr = sysIoctl then .sysIoctl
  else if nr = sysFutex then .sysFutex
  else .other

/-- What `format_syscall_line` is given and what it reads. -/
structure LineInput extends SyscallLine where
  cfg : Config
  headers : List (Option String)
  env : Env
  fdPaths : FdPaths
  hidden : HiddenFds

namespace LineInput
variable (i : LineInput)

def retNorm : I64 := normalizeRet i.retRaw
def call : TracedCall := tracedCall i.state.nr

/-- An argument, and an argument as a descriptor. -/
def arg (k : Fin 6) : U64 := i.state.args[k]
def fdArg (k : Fin 6) : I32 := (i.arg k).setWidth 32

def path : String := i.state.pathHint.getD "<unreadable>"

/-- The path in the return text: `format_open_return`. -/
def returnedPath : Option String :=
  if i.retNorm.toInt < 0 then none
  else i.state.pathHint.filter fun path => !startsWith path "<"

/-- The path in the suffix of the descriptor that is closed. -/
def closedPath : Option String :=
  (i.state.pathHint.or (i.fdPaths (i.fdArg 0))).or
    (if (i.fdPaths (i.fdArg 0)).isSome then none else readLiveFdPath i.env i.tid (i.fdArg 0))


/-! ### Parts of a line -/

/-- `format_fd_suffix`. -/
def formatFdSuffix (path : Option String) : List Piece :=
  match path with
  | none => []
  | some p => [.field .parens p]

/-- A descriptor in front of further arguments; a blank stands behind a suffix. -/
def fdThen (k : Fin 6) : List Piece :=
  let suffix := formatFdSuffix (i.fdPaths (i.fdArg k))
  [.text "fd=", intPiece (i.fdArg k)] ++ suffix ++ if suffix.isEmpty then [] else [.text " "]

/-- The old descriptor of a duplication. -/
def oldfd : List Piece :=
  [.text "oldfd=", intPiece (i.fdArg 0)] ++ formatFdSuffix (i.fdPaths (i.fdArg 0))

def pathPieces : List Piece := [.text "path=", .field .quotes i.path]

def formatOpenReturn : List Piece := intPiece i.retNorm :: formatFdSuffix i.returnedPath

/-- The flags and the mode of `open` and `openat`, from argument `k` on. -/
def openFlags (flags mode : U64) : List Piece :=
  [.text ", flags=", formatOpenFlags flags] ++
    if flags &&& oCreatMask ≠ 0 then [.text ", mode=0", octalPiece mode] else []

def preview : List Piece :=
  formatBufferPreview i.cfg i.env i.tid (i.arg 1) (i.arg 2) i.retNorm

/-- `read`, `write`, `pread` and `pwrite`. -/
def bufferPieces (offset : List Piece) : List Piece :=
  i.fdThen 0 ++ [.text ", buf=", hexPiece (i.arg 1), .text ", count=", natPiece (i.arg 2).toNat] ++
    offset ++ i.preview

def offsetPieces (offset : U64) : List Piece := [.text ", offset=", intPiece offset]

def mmapPieces : List Piece :=
  let fd := i.fdArg 4
  [.text "addr=", hexPiece (i.arg 0), .text ", length=", natPiece (i.arg 1).toNat, .text ", prot=",
    formatMmapProt (i.arg 2), .text ", flags=", formatMmapFlags (i.arg 3), .text ", fd=", intPiece fd] ++
    (if 0 ≤ fd.toInt then formatFdSuffix (i.fdPaths fd) ++ [.text " "] else []) ++
    offsetPieces (i.arg 5)

/-- `format_ioctl_line`, up to the return value. -/
def ioctlPieces : Decoding (List Piece) := do
  let fd := i.fdArg 0
  let path := i.fdPaths fd
  match path.filter isGpuPath with
  | some gpuPath =>
    let summary ← summaryPieces (i.arg 1) (i.arg 2) i.cfg.ioctlDecode i.cfg.maxBlob path
    return [.field .quotes gpuPath, .text " ,"] ++ summary
  | none =>
    return [.text "fd=", intPiece fd] ++ formatFdSuffix path ++ [.text " , cmd=", hexPiece (i.arg 1)]

def selectPieces : List Piece :=
  [.text "nfds=", intPiece (i.fdArg 0), .text ", readfds=", hexPiece (i.arg 1), .text ", writefds=",
    hexPiece (i.arg 2), .text ", exceptfds=", hexPiece (i.arg 3), .text ", timeout=",
    hexPiece (i.arg 4)]

/-- The name of a call. -/
def namePiece : TracedCall → Piece
  | .sysOpen => .text "open"
  | .sysOpenat => .text "openat"
  | .sysClose => .text "close"
  | .sysDup => .text "dup"
  | .sysDup2 => .text "dup2"
  | .sysDup3 => .text "dup3"
  | .sysMmap => .text "mmap"
  | .sysMunmap => .text "munmap"
  | .sysRead => .text "read"
  | .sysWrite => .text "write"
  | .sysPoll => .text "poll"
  | .sysPpoll => .text "ppoll"
  | .sysSelect => .text "select"
  | .sysPselect6 => .text "pselect"
  | .sysStat => .text "stat"
  | .sysLstat => .text "lstat"
  | .sysFstat => .text "fstat"
  | .sysNewfstatat => .text "newfstatat"
  | .sysAccess => .text "access"
  | .sysFaccessat => .text "faccessat"
  | .sysLseek => .text "lseek"
  | .sysPread64 => .text "pread"
  | .sysPwrite64 => .text "pwrite"
  | .sysPrctl => .text "prctl"
  | .sysIoctl => .text "ioctl"
  | .sysFutex => .text "futex"
  | .other =>
    .text (syscallName (namedGlobals i.cfg i.headers) i.state.nr)
      (noBreak_syscallName i.cfg i.headers i.state.nr)

/-- The arguments of a call that is not an `ioctl`. -/
def argPieces : TracedCall → List Piece
  | .sysOpen => i.pathPieces ++ openFlags (i.arg 1) (i.arg 2)
  | .sysOpenat =>
    [.text "dirfd=", formatDirfd (i.fdArg 0), .text ", "] ++ i.pathPieces ++ openFlags (i.arg 2) (i.arg 3)
  | .sysClose => [.text "fd=", intPiece (i.fdArg 0)] ++ formatFdSuffix i.closedPath
  | .sysDup => i.oldfd
  | .sysDup2 => i.oldfd ++ [.text " , newfd=", intPiece (i.fdArg 1)]
  | .sysDup3 =>
    i.oldfd ++ [.text " , newfd=", intPiece (i.fdArg 1), .text ", flags=", formatDup3Flags (i.arg 2)]
  | .sysMmap => i.mmapPieces
  | .sysMunmap => [.text "addr=", hexPiece (i.arg 0), .text ", length=", natPiece (i.arg 1).toNat]
  | .sysRead | .sysWrite => i.bufferPieces []
  | .sysPoll =>
    [.text "fds=", hexPiece (i.arg 0), .text ", nfds=", natPiece (i.arg 1).toNat, .text ", timeout=",
      intPiece (i.fdArg 2)]
  | .sysPpoll =>
    [.text "fds=", hexPiece (i.arg 0), .text ", nfds=", natPiece (i.arg 1).toNat, .text ", timeout=",
      hexPiece (i.arg 2), .text ", sigmask=", hexPiece (i.arg 3)]
  | .sysSelect => i.selectPieces
  | .sysPselect6 => i.selectPieces ++ [.text ", sigmask=", hexPiece (i.arg 5)]
  | .sysStat | .sysLstat => i.pathPieces ++ [.text ", statbuf=", hexPiece (i.arg 1)]
  | .sysFstat => i.fdThen 0 ++ [.text ", statbuf=", hexPiece (i.arg 1)]
  | .sysNewfstatat =>
    [.text "dirfd=", formatDirfd (i.fdArg 0), .text ", "] ++ i.pathPieces ++
      [.text ", statbuf=", hexPiece (i.arg 2), .text ", flags=", formatNewfstatatFlags (i.arg 3)]
  | .sysAccess => i.pathPieces ++ [.text ", mode=", formatAccessMode (i.arg 1)]
  | .sysFaccessat =>
    [.text "dirfd=", formatDirfd (i.fdArg 0), .text ", "] ++ i.pathPieces ++
      [.text ", mode=", formatAccessMode (i.arg 2), .text ", flags=", formatFaccessatFlags (i.arg 3)]
  | .sysLseek =>
    i.fdThen 0 ++ offsetPieces (i.arg 1) ++ [.text ", whence=", formatLseekWhence (i.arg 2)]
  | .sysPread64 | .sysPwrite64 => i.bufferPieces (offsetPieces (i.arg 3))
  | .sysPrctl =>
    [.text "option=", intPiece (i.fdArg 0), .text ", arg2=", hexPiece (i.arg 1), .text ", arg3=",
      hexPiece (i.arg 2), .text ", arg4=", hexPiece (i.arg 3), .text ", arg5=", hexPiece (i.arg 4)]
  | .sysIoctl => []
  | .sysFutex =>
    [.text "uaddr=", hexPiece (i.arg 0), .text ", futex_op=", hexPiece (i.arg 1), .text ", val=",
      intPiece (i.fdArg 2), .text ", timeout_or_val2=", hexPiece (i.arg 3), .text ", uaddr2=",
      hexPiece (i.arg 4), .text ", val3=", intPiece (i.fdArg 5)]
  | .other =>
    [hexPiece (i.arg 0), .text ", ", hexPiece (i.arg 1), .text ", ", hexPiece (i.arg 2), .text ", ",
      hexPiece (i.arg 3), .text ", ", hexPiece (i.arg 4), .text ", ", hexPiece (i.arg 5)]

def returnPieces : TracedCall → List Piece
  | .sysOpen | .sysOpenat => i.formatOpenReturn
  | .sysMmap => if isKernelError i.retRaw then [.text "MAP_FAILED"] else [hexPiece i.retRaw]
  | _ => [intPiece i.retNorm]

theorem noBreak_unit (cfg : Config) (elapsed : ℕ) : NoBreak (Hook.durationForConfig cfg elapsed).2 := by
  have hns : NoBreak "ns" := by decide
  have hus : NoBreak "us" := by decide
  unfold Hook.durationForConfig
  split
  · exact hns
  · exact hus

def elapsedPieces : List Piece :=
  [.text "  /* ", natPiece (Hook.durationForConfig i.cfg i.elapsed).1, .text " ",
    .text (Hook.durationForConfig i.cfg i.elapsed).2 (noBreak_unit i.cfg i.elapsed), .text " */"]

/-- The text before the name: `format_left_meta_prefix` and the tabs of `indent_ptrace_line`. -/
def leadText : String :=
  Hook.formatLeftMetaPrefix i.cfg i.tid i.state.startedTs ++
    if !(i.cfg.trace.cudart || i.cfg.trace.driver) || i.depth = 0 then "" else Hook.indent i.depth

theorem noBreak_stamp (cfg : Config) (tid : Pid) (timestamp : ℕ) :
    NoBreak (Hook.formatLeftMetaPrefix cfg tid timestamp) := by
  have htid : NoBreak ("tid=" ++ toString tid.toInt) :=
    noBreak_append.mpr ⟨by decide, noBreak_int tid.toInt⟩
  have hempty : NoBreak "" := by decide
  have hfirst : NoBreak (if cfg.leftMeta.includeTid then "tid=" ++ toString tid.toInt else "") := by
    split
    · exact htid
    · exact hempty
  have hts : ∀ out unit : String, NoBreak out → NoBreak unit →
      NoBreak ((if out.isEmpty then out else out ++ " ") ++ "ts=" ++ toString timestamp ++ unit) := by
    intro out unit hout hunit
    have hblank : NoBreak (if out.isEmpty then out else out ++ " ") := by
      split
      · exact hout
      · exact hout.append (by decide)
    have hts : NoBreak "ts=" := by decide
    exact ((hblank.append hts).append (noBreak_repr timestamp)).append hunit
  have hend : ∀ out : String, NoBreak out → NoBreak (if out.isEmpty then out else out ++ "  |  ") := by
    intro out hout
    split
    · exact hout
    · exact hout.append (by decide)
  unfold Hook.formatLeftMetaPrefix
  refine hend _ ?_
  by_cases hincluded : cfg.leftMeta.includeTimestamp
  · rw [if_pos hincluded]
    apply hts _ _ hfirst
    cases cfg.timeUnit with
    | ns => exact (by decide : NoBreak "ns")
    | us => exact (by decide : NoBreak "us")
  · rw [if_neg hincluded]
    exact hfirst

theorem noBreak_indent (depth : ℕ) : NoBreak (Hook.indent depth) := by
  rw [NoBreak, Hook.indent, String.toList_ofList]
  exact fun hmem => absurd (List.eq_of_mem_replicate hmem) (by decide)

theorem noBreak_leadText : NoBreak i.leadText := by
  refine (noBreak_stamp _ _ _).append ?_
  split
  · decide
  · exact noBreak_indent i.depth

def callPieces : TracedCall → Decoding (List Piece)
  | .sysIoctl => i.ioctlPieces
  | call => return i.argPieces call

/-- `format_syscall_line`, in pieces. -/
def formatSyscallLine : Decoding (List Piece) :=
  if suppressed i.cfg i.state i.retRaw i.hidden then return []
  else do
    let args ← i.callPieces i.call
    return [.text i.leadText i.noBreak_leadText, i.namePiece i.call, .text "("] ++ args ++
      [.text ") = "] ++ i.returnPieces i.call ++ i.elapsedPieces

/-! ### What a line shows of the traced program -/

def suffixField (path : Option String) : List (Delim × String) :=
  path.toList.map fun p => (.parens, p)

/-- The type character of the command of an `ioctl`. -/
def typeField (iocType : U8) : List (Delim × String) :=
  if 0x21 ≤ iocType.toNat ∧ iocType.toNat ≤ 0x7e then
    [(.ticks, (Char.ofNat iocType.toNat).toString)]
  else []

/-- The paths that stand in the line, and the type character, each with what surrounds it. -/
def shown : List (Delim × String) :=
  if suppressed i.cfg i.state i.retRaw i.hidden then []
  else match i.call with
    | .sysOpen | .sysOpenat => (.quotes, i.path) :: suffixField i.returnedPath
    | .sysStat | .sysLstat | .sysNewfstatat | .sysAccess | .sysFaccessat => [(.quotes, i.path)]
    | .sysClose => suffixField i.closedPath
    | .sysDup | .sysDup2 | .sysDup3 | .sysRead | .sysWrite | .sysFstat | .sysLseek | .sysPread64
    | .sysPwrite64 => suffixField (i.fdPaths (i.fdArg 0))
    | .sysMmap => if 0 ≤ (i.fdArg 4).toInt then suffixField (i.fdPaths (i.fdArg 4)) else []
    | .sysIoctl =>
      match i.fdPaths (i.fdArg 0) with
      | none => []
      | some path =>
        if isGpuPath path then (.quotes, path) :: typeField (decodeIoctlCmd (i.arg 1)).iocType
        else [(.parens, path)]
    | .sysMunmap | .sysPoll | .sysPpoll | .sysSelect | .sysPselect6 | .sysPrctl | .sysFutex
    | .other => []

end LineInput

/-! ### The fields of the pieces -/

/-- Every field of the pieces is clean. -/
def Legible (ps : List Piece) : Prop := ∀ f ∈ ps.filterMap Piece.field?, Clean f

@[simp] theorem legible_nil : Legible [] := by simp [Legible]

@[simp] theorem legible_append {ps qs : List Piece} :
    Legible (ps ++ qs) ↔ Legible ps ∧ Legible qs := by
  simp [Legible, or_imp, forall_and]

@[simp] theorem legible_field {d : Delim} {s : String} {ps : List Piece} :
    Legible (.field d s :: ps) ↔ Clean (d, s) ∧ Legible ps := by
  simp [Legible, Piece.field?]

@[simp] theorem legible_nested {s : String} {h : Tidy s.toList} {ps : List Piece} :
    Legible (.nested s h :: ps) ↔ Legible ps := by
  simp [Legible, Piece.field?]

@[simp] theorem legible_text {s : String} {h : NoBreak s} {ps : List Piece} :
    Legible (.text s h :: ps) ↔ Legible ps := by
  simp [Legible, Piece.field?]

theorem legible_of_none {p : Piece} (h : p.field? = none) {ps : List Piece} :
    Legible (p :: ps) ↔ Legible ps := by
  simp [Legible, h]

/-! ### Previews are clean -/

theorem toNat_charOfNat {n : ℕ} (hn : n < 0xd800) : (Char.ofNat n).toNat = n := by
  have hvalid : n.isValidChar := Or.inl hn
  unfold Char.ofNat
  rw [dif_pos hvalid]
  rfl

/-- A reader of the quoted preview gets over the token of a byte. -/
theorem asciiEscape_token (byte : UInt8) : '\n' ∉ asciiEscape byte ∧
    ∀ rest, Delim.quotes.holds false (asciiEscape byte ++ rest) = Delim.quotes.holds false rest := by
  have htaken : ∀ c rest, Delim.quotes.holds false ('\\' :: c :: rest) = Delim.quotes.holds false rest := by
    intro c rest
    simp [Delim.holds, Delim.closing, Delim.escapes]
  have hbound : byte.toNat < 256 := byte.toNat_lt
  unfold asciiEscape
  split_ifs with h1 h2 h3 h4 h5 h6
  · exact ⟨by decide, htaken _⟩
  · exact ⟨by decide, htaken _⟩
  · exact ⟨by decide, htaken _⟩
  · exact ⟨by decide, htaken _⟩
  · exact ⟨by decide, htaken _⟩
  · have hne : ∀ c : Char, UInt8.ofNat c.toNat ≠ byte → Char.ofNat byte.toNat ≠ c := by
      intro c hc he
      rw [← he, toNat_charOfNat (by omega), UInt8.ofNat_toNat] at hc
      exact hc rfl
    have hquote := hne '"' (Ne.symm h2)
    have hslash := hne '\\' (Ne.symm h1)
    have hbreak := hne '\n' (Ne.symm h3)
    refine ⟨fun hmem => hbreak (List.mem_singleton.mp hmem).symm, Delim.holds_append ?_⟩
    intro c hc
    rw [List.mem_singleton.mp hc]
    exact ⟨hquote, hslash⟩
  · have hplain := hexPadChars_plain 2 byte.toNat
    refine ⟨fun hmem => ?_, fun rest => ?_⟩
    · simp only [List.mem_cons] at hmem
      rcases hmem with hmem | hmem | hmem
      · cases hmem
      · cases hmem
      · exact (hplain _ hmem).1 rfl
    · rw [List.cons_append, List.cons_append, htaken]
      exact Delim.holds_append (d := .quotes) (fun c hc => (hplain c hc).2) rest

theorem clean_bytesToAsciiPreview (bytes : List UInt8) :
    Clean (.quotes, bytesToAsciiPreview bytes) := by
  rw [Clean, NoBreak, bytesToAsciiPreview, String.toList_ofList, List.flatMap_def]
  constructor
  · intro hmem
    obtain ⟨t, ht, hmem⟩ := List.mem_flatten.mp hmem
    obtain ⟨byte, -, rfl⟩ := List.mem_map.mp ht
    exact (asciiEscape_token byte).1 hmem
  · refine Delim.holds_flatten fun t ht => ?_
    obtain ⟨byte, -, rfl⟩ := List.mem_map.mp ht
    exact (asciiEscape_token byte).2

theorem clean_unreadable (addr : U64) : Clean (.quotes, "<unreadable@" ++ hex addr ++ ">") := by
  have hplain : ∀ c ∈ ("<unreadable@" ++ hex addr ++ ">").toList, c ≠ '\n' ∧ c ≠ '"' ∧ c ≠ '\\' := by
    intro c hc
    have hopen : ∀ x ∈ "<unreadable@".toList, x ≠ '\n' ∧ x ≠ '"' ∧ x ≠ '\\' := by decide
    have h0x : ∀ x ∈ "0x".toList, x ≠ '\n' ∧ x ≠ '"' ∧ x ≠ '\\' := by decide
    have hclose : ∀ x ∈ ">".toList, x ≠ '\n' ∧ x ≠ '"' ∧ x ≠ '\\' := by decide
    simp only [hex, toHex, String.toList_append, String.toList_ofList, List.mem_append] at hc
    rcases hc with (hc | hc | hc) | hc
    · exact hopen c hc
    · exact h0x c hc
    · obtain ⟨d, hd, rfl⟩ := mem_toDigits (by decide) hc
      exact digitChar_plain d hd
    · exact hclose c hc
  exact ⟨fun hmem => (hplain _ hmem).1 rfl, Delim.holds_of_forall fun c hc => (hplain c hc).2⟩

theorem legible_formatBufferPreview (cfg : Config) (env : Env) (pid : Pid) (bufAddr reqCount : U64)
    (retNorm : I64) : Legible (formatBufferPreview cfg env pid bufAddr reqCount retNorm) := by
  unfold formatBufferPreview
  dsimp only
  split_ifs
  · exact legible_nil
  · exact legible_nil
  · simp
  · split
    · simpa using clean_unreadable bufAddr
    · rename_i bytes _
      rw [legible_append]
      refine ⟨by simpa using clean_bytesToAsciiPreview bytes, ?_⟩
      split
      · simp
      · exact legible_nil

/-! ### Which lines are unambiguous -/

theorem legible_formatFdSuffix (path : Option String) :
    Legible (LineInput.formatFdSuffix path) ↔ ∀ f ∈ LineInput.suffixField path, Clean f := by
  cases path with
  | none => simp [LineInput.formatFdSuffix, LineInput.suffixField]
  | some p => simp [LineInput.formatFdSuffix, LineInput.suffixField]

theorem legible_headerPieces (m : IoctlMeta) (fdPath : Option String) :
    Legible (headerPieces m fdPath) ↔ ∀ f ∈ LineInput.typeField m.iocType, Clean f := by
  unfold headerPieces iocTypePiece LineInput.typeField
  split
  · simp [natPiece]
  · simp [natPiece, hexPiece]

theorem legible_summaryPieces {cmd argPtr : U64} {mode : IoctlDecodeMode} {maxBlob : ℕ}
    {fdPath : Option String} {w : World Target} {ps : List Piece}
    (h : (summaryPieces cmd argPtr mode maxBlob fdPath w).outcome = .ok ps) :
    Legible ps ↔ ∀ f ∈ LineInput.typeField (decodeIoctlCmd cmd).iocType, Clean f := by
  simp only [summaryPieces, ok_bind] at h
  obtain ⟨fields, -, h⟩ := h
  cases fields with
  | none =>
    rw [ok_pure] at h
    rw [← h, legible_headerPieces]
  | some fields =>
    rw [ok_pure] at h
    rw [← h, legible_append, legible_headerPieces]
    simp

namespace LineInput
variable (i : LineInput)

theorem legible_openFlags (flags mode : U64) : Legible (openFlags flags mode) := by
  unfold openFlags
  split
  · simp [formatOpenFlags, octalPiece]
  · simp [formatOpenFlags]

theorem legible_fdThen (k : Fin 6) :
    Legible (i.fdThen k) ↔ ∀ f ∈ suffixField (i.fdPaths (i.fdArg k)), Clean f := by
  unfold fdThen
  dsimp only
  rw [← legible_formatFdSuffix]
  split
  · simp [intPiece]
  · simp [intPiece]

theorem legible_bufferPieces {offset : List Piece} (h : Legible offset) :
    Legible (i.bufferPieces offset) ↔ ∀ f ∈ suffixField (i.fdPaths (i.fdArg 0)), Clean f := by
  have hpreview : Legible i.preview := legible_formatBufferPreview _ _ _ _ _ _
  simp [bufferPieces, legible_fdThen, h, hpreview, hexPiece, natPiece]

theorem legible_ioctlPieces {w : World Target} {ps : List Piece}
    (hcall : i.call = .sysIoctl) (hshown : suppressed i.cfg i.state i.retRaw i.hidden = false)
    (h : (i.ioctlPieces w).outcome = .ok ps) : Legible ps ↔ ∀ f ∈ i.shown, Clean f := by
  simp only [ioctlPieces] at h
  simp only [shown, hcall, hshown, Bool.false_eq_true, if_false]
  cases hpath : i.fdPaths (i.fdArg 0) with
  | none =>
    simp only [hpath, Option.filter_none, ok_pure] at h
    rw [← h]
    simp [formatFdSuffix, intPiece, hexPiece]
  | some path =>
    by_cases hgpu : isGpuPath path
    · simp only [hpath, Option.filter_some, hgpu, if_true, ok_bind, ok_pure] at h
      obtain ⟨summary, hsummary, rfl⟩ := h
      have hlegible := legible_summaryPieces hsummary
      simp [hgpu, hlegible]
    · simp only [hpath, Option.filter_some, hgpu, Bool.false_eq_true, if_false, ok_pure] at h
      rw [← h]
      simp [hgpu, formatFdSuffix, intPiece, hexPiece]

theorem legible_mmapPieces : Legible i.mmapPieces ↔
    ∀ f ∈ (if 0 ≤ (i.fdArg 4).toInt then suffixField (i.fdPaths (i.fdArg 4)) else []), Clean f := by
  have hplain : ∀ suffix : List Piece, Legible
      ([.text "addr=", hexPiece (i.arg 0), .text ", length=", natPiece (i.arg 1).toNat, .text ", prot=",
        formatMmapProt (i.arg 2), .text ", flags=", formatMmapFlags (i.arg 3), .text ", fd=",
        intPiece (i.fdArg 4)] ++ suffix ++ offsetPieces (i.arg 5)) ↔ Legible suffix := by
    intro suffix
    simp [hexPiece, natPiece, intPiece, formatMmapProt, namedFlagsPiece, formatMmapFlags, offsetPieces]
  rw [mmapPieces, hplain]
  split
  · rw [legible_append, legible_formatFdSuffix]
    simp
  · simp

/-- The arguments and the return value show what `shown` lists. -/
theorem legible_argPieces (hshown : suppressed i.cfg i.state i.retRaw i.hidden = false)
    (hcall : i.call ≠ .sysIoctl) :
    Legible (i.argPieces i.call) ∧ Legible (i.returnPieces i.call) ↔ ∀ f ∈ i.shown, Clean f := by
  have hbuffer := i.legible_bufferPieces legible_nil
  have hoffset : ∀ v, Legible (offsetPieces v) := fun v => by simp [offsetPieces, intPiece]
  have hat := i.legible_bufferPieces (hoffset (i.arg 3))
  have hdirfd : ∀ ps, Legible (formatDirfd (i.fdArg 0) :: ps) ↔ Legible ps := by
    intro ps
    refine legible_of_none ?_
    unfold formatDirfd
    split <;> rfl
  have hwhence : Legible [formatLseekWhence (i.arg 2)] := by
    refine (legible_of_none ?_).mpr legible_nil
    unfold formatLseekWhence
    split_ifs <;> rfl
  have hreturn : Legible (i.formatOpenReturn) ↔ ∀ f ∈ suffixField i.returnedPath, Clean f := by
    simp [formatOpenReturn, intPiece, legible_formatFdSuffix]
  have hmapped : Legible (if isKernelError i.retRaw then [.text "MAP_FAILED"] else [hexPiece i.retRaw]) := by
    split
    · simp
    · simp [hexPiece]
  simp only [shown, hshown, Bool.false_eq_true, if_false]
  cases hc : i.call with
  | sysIoctl => exact absurd hc hcall
  | sysOpen | sysOpenat =>
    simp [argPieces, returnPieces, pathPieces, legible_openFlags, hdirfd, hreturn]
  | sysStat | sysLstat | sysNewfstatat | sysAccess | sysFaccessat =>
    simp [argPieces, returnPieces, pathPieces, hdirfd, intPiece, hexPiece, formatAccessMode,
      formatNewfstatatFlags, formatFaccessatFlags, namedFlagsPiece]
  | sysClose => simp [argPieces, returnPieces, legible_formatFdSuffix, intPiece]
  | sysDup | sysDup2 | sysDup3 =>
    simp [argPieces, returnPieces, oldfd, legible_formatFdSuffix, intPiece, formatDup3Flags,
      namedFlagsPiece]
  | sysMmap =>
    rw [argPieces, returnPieces, legible_mmapPieces]
    exact and_iff_left hmapped
  | sysRead | sysWrite => simp [argPieces, returnPieces, hbuffer, intPiece]
  | sysPread64 | sysPwrite64 => simp [argPieces, returnPieces, hat, intPiece]
  | sysFstat => simp [argPieces, returnPieces, legible_fdThen, intPiece, hexPiece]
  | sysLseek => simp [argPieces, returnPieces, legible_fdThen, hoffset, hwhence, intPiece]
  | sysMunmap | sysPoll | sysPpoll | sysSelect | sysPselect6 | sysPrctl | sysFutex | other =>
    simp [argPieces, returnPieces, selectPieces, intPiece, hexPiece, natPiece]

/-- A line is unambiguous if and only if what it shows of the traced program is clean. -/
theorem unambiguous_formatSyscallLine {w : World Target} {ps : List Piece}
    (h : (i.formatSyscallLine w).outcome = .ok ps) : Unambiguous ps ↔ ∀ f ∈ i.shown, Clean f := by
  rw [unambiguous_iff]
  show Legible ps ↔ _
  cases hshown : suppressed i.cfg i.state i.retRaw i.hidden with
  | true =>
    simp only [formatSyscallLine, hshown, if_true, ok_pure] at h
    rw [← h]
    simp [shown, hshown]
  | false =>
    simp only [formatSyscallLine, hshown, Bool.false_eq_true, if_false, ok_bind, ok_pure] at h
    obtain ⟨args, hargs, rfl⟩ := h
    have hframe : Legible ([.text i.leadText i.noBreak_leadText, i.namePiece i.call, .text "("] ++ args ++
        [.text ") = "] ++ i.returnPieces i.call ++ i.elapsedPieces) ↔
        Legible args ∧ Legible (i.returnPieces i.call) := by
      have hname : ∀ ps, Legible (i.namePiece i.call :: ps) ↔ Legible ps := by
        intro ps
        refine legible_of_none ?_
        cases i.call <;> rfl
      simp [elapsedPieces, natPiece, hname]
    rw [hframe]
    by_cases hcall : i.call = .sysIoctl
    · rw [hcall, callPieces] at hargs
      rw [i.legible_ioctlPieces hcall hshown hargs, hcall]
      simp [returnPieces, intPiece]
    · have hplain : args = i.argPieces i.call := by
        cases hc : i.call with
        | sysIoctl => exact absurd hc hcall
        | _ =>
          simp only [hc, callPieces, ok_pure] at hargs
          exact hargs.symm
      rw [hplain]
      exact i.legible_argPieces hshown hcall

end LineInput

/-! ### A forged line -/

/-- A process with a path in its memory. -/
def storedPath (path : String) : Env :=
  { Env.silent with processVmReadv := fun _ addr _ =>
      if addr = 0x1000 then some (path.toList.map (fun c => UInt8.ofNat c.toNat) ++ [0]) else none }

/-- The process opens the path. -/
def openInput (path : String) : LineInput where
  tid := 7
  state := { SyscallState.default 0 with
    active := true
    nr := sysOpen
    args := #v[0x1000, 0, 0, 0, 0, 0]
    pathHint := capturePathHint (storedPath path) 7 sysOpen #v[0x1000, 0, 0, 0, 0, 0] }
  retRaw := 3
  elapsed := 0
  depth := 0
  cfg := ⟨.file, "out", .all, .full, 256, .us, .off, [], 16384⟩
  headers := []
  env := storedPath path
  fdPaths := fun _ => none
  hidden := fun _ => false

def unmapped : World Target := ⟨true, ⟨fun _ => none⟩⟩

theorem unambiguous_open_line : ∃ ps, ((openInput "/dev/nvidia0").formatSyscallLine unmapped).outcome =
    .ok ps ∧ Unambiguous ps :=
  ⟨_, rfl, (LineInput.unambiguous_formatSyscallLine (openInput "/dev/nvidia0") (w := unmapped) rfl).mpr
    (by decide)⟩

set_option maxRecDepth 4000 in
/-- A path with a line break in it: the second line of the file is that of a call that was
never made. -/
theorem forged_munmap_line : ∃ ps, ((openInput
      "a\", flags=O_RDONLY(0x0)) = 3  /* 0 us */\nmunmap(addr=0x1000, length=4096) = 0  /* 0 us */\n"
      ).formatSyscallLine unmapped).outcome = .ok ps ∧ ¬ Unambiguous ps ∧
    (lines (renderLine ps))[1]? = some "munmap(addr=0x1000, length=4096) = 0  /* 0 us */" := by
  refine ⟨_, rfl, fun h => ?_, ?_⟩
  · exact absurd h.oneLine (by decide +kernel)
  · decide +kernel

end CudaTrace.Ptrace
