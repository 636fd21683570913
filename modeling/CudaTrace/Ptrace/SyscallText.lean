import CudaTrace.Base.Quoting
import CudaTrace.Decode.Remote
import CudaTrace.Hook.Graph

/-!
# The arguments of a syscall as text (ptrace.rs)

Flag words, modes and previews of buffers. Each text comes as a piece of a line, with the
proof that it does not break the line.
-/

namespace CudaTrace.Ptrace
open CudaTrace.Base CudaTrace.Decode

/-! ### Numbers -/

theorem noBreak_toDigits {b : ℕ} (hb : 1 < b) (hb' : b ≤ 16) (n : ℕ) :
    NoBreak (String.ofList (Nat.toDigits b n)) := by
  rw [NoBreak, String.toList_ofList]
  exact (tidy_toDigits hb hb' n).noBreak

theorem noBreak_hex {w : ℕ} (v : BitVec w) : NoBreak (hex v) := by
  have h0x : NoBreak "0x" := by decide
  exact h0x.append (noBreak_toDigits (by decide) (by decide) _)

theorem noBreak_repr (n : ℕ) : NoBreak n.repr := (tidy_repr n).noBreak

theorem noBreak_int (i : ℤ) : NoBreak (toString i) := (tidy_int i).noBreak

def natPiece (n : ℕ) : Piece := .text n.repr (noBreak_repr n)

def intPiece {w : ℕ} (v : BitVec w) : Piece := .text (toString v.toInt) (noBreak_int v.toInt)

def hexPiece {w : ℕ} (v : BitVec w) : Piece := .text (hex v) (noBreak_hex v)

def octalPiece (v : U64) : Piece :=
  .text (String.ofList (Nat.toDigits 8 v.toNat)) (noBreak_toDigits (by decide) (by decide) _)

/-! ### Flag words -/

/-- The names of the masks that are set, and the bits that are left. -/
def takeFlags : List (U64 × String) → U64 → List String × U64
  | [], remaining => ([], remaining)
  | (mask, name) :: specs, remaining =>
    if remaining &&& mask = mask then
      (name :: (takeFlags specs (remaining &&& ~~~mask)).1,
        (takeFlags specs (remaining &&& ~~~mask)).2)
    else takeFlags specs remaining

def flagParts (specs : List (U64 × String)) (flags : U64) : List String :=
  (takeFlags specs flags).1 ++
    if (takeFlags specs flags).2 = 0 then [] else [hex (takeFlags specs flags).2]

def joinFlags (parts : List String) (flags : U64) : String :=
  "|".intercalate parts ++ "(" ++ hex flags ++ ")"

theorem noBreak_intercalate {parts : List String} (h : ∀ s ∈ parts, NoBreak s) :
    NoBreak ("|".intercalate parts) := by
  have hchars : ∀ ts : List (List Char), (∀ t ∈ ts, '\n' ∉ t) → '\n' ∉ ['|'].intercalate ts := by
    intro ts hts
    induction ts with
    | nil => simp
    | cons t ts ih =>
      have ht := hts t List.mem_cons_self
      have hrest := ih fun u hu => hts u (List.mem_cons_of_mem _ hu)
      cases ts with
      | nil => simpa using ht
      | cons u us =>
        rw [List.intercalate_cons_cons]
        simpa [ht] using hrest
  rw [NoBreak, String.toList_intercalate]
  refine hchars _ fun t ht => ?_
  obtain ⟨s, hs, rfl⟩ := List.mem_map.mp ht
  exact h s hs

theorem noBreak_takeFlags {specs : List (U64 × String)} (h : ∀ spec ∈ specs, NoBreak spec.2)
    (flags : U64) : ∀ s ∈ (takeFlags specs flags).1, NoBreak s := by
  induction specs generalizing flags with
  | nil => simp [takeFlags]
  | cons spec specs ih =>
    have hrest := ih fun x hx => h x (List.mem_cons_of_mem _ hx)
    simp only [takeFlags]
    split
    · intro s hs
      rcases List.mem_cons.mp hs with rfl | hs
      · exact h _ List.mem_cons_self
      · exact hrest _ s hs
    · exact hrest flags

theorem noBreak_flagParts {specs : List (U64 × String)} (h : ∀ spec ∈ specs, NoBreak spec.2)
    (flags : U64) : ∀ s ∈ flagParts specs flags, NoBreak s := by
  intro s hs
  rcases List.mem_append.mp hs with hs | hs
  · exact noBreak_takeFlags h flags s hs
  · split at hs
    · cases hs
    · rw [List.mem_singleton.mp hs]
      exact noBreak_hex _

theorem noBreak_joinFlags {parts : List String} (h : ∀ s ∈ parts, NoBreak s) (flags : U64) :
    NoBreak (joinFlags parts flags) := by
  have hopen : NoBreak "(" := by decide
  have hclose : NoBreak ")" := by decide
  exact (((noBreak_intercalate h).append hopen).append (noBreak_hex flags)).append hclose

/-- A flag word with a text of its own for zero. -/
def namedFlags (zero : String) (specs : List (U64 × String)) (flags : U64) : String :=
  if flags = 0 then zero else joinFlags (flagParts specs flags) flags

def namedFlagsPiece (zero : String) (specs : List (U64 × String)) (flags : U64)
    (hzero : NoBreak zero := by decide) (hspecs : ∀ spec ∈ specs, NoBreak spec.2 := by decide) :
    Piece :=
  .text (namedFlags zero specs flags) (by
    unfold namedFlags
    split
    · exact hzero
    · exact noBreak_joinFlags (noBreak_flagParts hspecs flags) flags)

def oAccmodeMask : U64 := 0o3
def oCreatMask : U64 := 0o100
def oCloexecMask : U64 := 0o2000000

def openFlagSpecs : List (U64 × String) :=
  [(0o20200000, "O_TMPFILE"), (oCreatMask, "O_CREAT"), (0o200, "O_EXCL"), (0o400, "O_NOCTTY"),
    (0o1000, "O_TRUNC"), (0o2000, "O_APPEND"), (0o4000, "O_NONBLOCK"), (0o40000, "O_DIRECT"),
    (0o4010000, "O_SYNC"), (0o10000, "O_DSYNC"), (0o100000, "O_LARGEFILE"),
    (0o200000, "O_DIRECTORY"), (0o400000, "O_NOFOLLOW"), (0o1000000, "O_NOATIME"),
    (oCloexecMask, "O_CLOEXEC"), (0o10000000, "O_PATH")]

def accmodeName (flags : U64) : String :=
  if flags &&& oAccmodeMask = 0 then "O_RDONLY"
  else if flags &&& oAccmodeMask = 0o1 then "O_WRONLY"
  else if flags &&& oAccmodeMask = 0o2 then "O_RDWR"
  else "O_ACCMODE(" ++ hex (flags &&& oAccmodeMask) ++ ")"

theorem noBreak_accmodeName (flags : U64) : NoBreak (accmodeName flags) := by
  have hopen : NoBreak "O_ACCMODE(" := by decide
  have hclose : NoBreak ")" := by decide
  unfold accmodeName
  split_ifs
  · decide
  · decide
  · decide
  · exact (hopen.append (noBreak_hex _)).append hclose

/-- `format_open_flags`. -/
def formatOpenFlags (flags : U64) : Piece :=
  .text (joinFlags (accmodeName flags :: flagParts openFlagSpecs (flags &&& ~~~oAccmodeMask)) flags)
    (noBreak_joinFlags (List.forall_mem_cons.mpr
      ⟨noBreak_accmodeName flags, noBreak_flagParts (by decide) _⟩) flags)

/-- `format_dup3_flags`. -/
def formatDup3Flags (flags : U64) : Piece := namedFlagsPiece "0" [(oCloexecMask, "O_CLOEXEC")] flags

/-- `format_mmap_prot`. -/
def formatMmapProt (prot : U64) : Piece :=
  namedFlagsPiece "PROT_NONE(0x0)"
    [(0x1, "PROT_READ"), (0x2, "PROT_WRITE"), (0x4, "PROT_EXEC"), (0x8, "PROT_SEM"),
      (0x1000000, "PROT_GROWSDOWN"), (0x2000000, "PROT_GROWSUP")] prot

def mapTypeMask : U64 := 0x0f

def mapFlagSpecs : List (U64 × String) :=
  [(0x10, "MAP_FIXED"), (0x20, "MAP_ANONYMOUS"), (0x40, "MAP_32BIT"), (0x100, "MAP_GROWSDOWN"),
    (0x800, "MAP_DENYWRITE"), (0x1000, "MAP_EXECUTABLE"), (0x2000, "MAP_LOCKED"),
    (0x4000, "MAP_NORESERVE"), (0x8000, "MAP_POPULATE"), (0x10000, "MAP_NONBLOCK"),
    (0x20000, "MAP_STACK"), (0x40000, "MAP_HUGETLB"), (0x80000, "MAP_SYNC"),
    (0x100000, "MAP_FIXED_NOREPLACE")]

def mapTypeNames (flags : U64) : List String :=
  if flags &&& mapTypeMask = 0x01 then ["MAP_SHARED"]
  else if flags &&& mapTypeMask = 0x02 then ["MAP_PRIVATE"]
  else if flags &&& mapTypeMask = 0x03 then ["MAP_SHARED_VALIDATE"]
  else if flags &&& mapTypeMask = 0 then []
  else ["MAP_TYPE(" ++ hex (flags &&& mapTypeMask) ++ ")"]

theorem noBreak_mapTypeNames (flags : U64) : ∀ s ∈ mapTypeNames flags, NoBreak s := by
  have hopen : NoBreak "MAP_TYPE(" := by decide
  have hclose : NoBreak ")" := by decide
  unfold mapTypeNames
  split_ifs
  · decide
  · decide
  · decide
  · simp
  · intro s hs
    rw [List.mem_singleton.mp hs]
    exact (hopen.append (noBreak_hex _)).append hclose

/-- The text of `format_mmap_flags`. -/
def mmapFlagsText (flags : U64) : String :=
  let parts := mapTypeNames flags ++ flagParts mapFlagSpecs (flags &&& ~~~mapTypeMask)
  if flags = 0 then "0" else if parts.isEmpty then hex flags else joinFlags parts flags

theorem noBreak_mmapFlagsText (flags : U64) : NoBreak (mmapFlagsText flags) := by
  have hparts : ∀ s ∈ mapTypeNames flags ++ flagParts mapFlagSpecs (flags &&& ~~~mapTypeMask),
      NoBreak s := by
    intro s hs
    rcases List.mem_append.mp hs with hs | hs
    · exact noBreak_mapTypeNames flags s hs
    · exact noBreak_flagParts (by decide) _ s hs
  unfold mmapFlagsText
  dsimp only
  split_ifs
  · decide
  · exact noBreak_hex flags
  · exact noBreak_joinFlags hparts flags

/-- `format_mmap_flags`. -/
def formatMmapFlags (flags : U64) : Piece := .text (mmapFlagsText flags) (noBreak_mmapFlagsText flags)

/-- `format_access_mode`. -/
def formatAccessMode (mode : U64) : Piece :=
  namedFlagsPiece "F_OK(0x0)" [(0x4, "R_OK"), (0x2, "W_OK"), (0x1, "X_OK")] mode

/-- `format_newfstatat_flags`. -/
def formatNewfstatatFlags (flags : U64) : Piece :=
  namedFlagsPiece "0"
    [(0x100, "AT_SYMLINK_NOFOLLOW"), (0x800, "AT_NO_AUTOMOUNT"), (0x1000, "AT_EMPTY_PATH")] flags

/-- `format_faccessat_flags`. -/
def formatFaccessatFlags (flags : U64) : Piece :=
  namedFlagsPiece "0"
    [(0x200, "AT_EACCESS"), (0x100, "AT_SYMLINK_NOFOLLOW"), (0x1000, "AT_EMPTY_PATH")] flags

/-- `format_lseek_whence`. -/
def formatLseekWhence (whence : U64) : Piece :=
  if whence = 0 then .text "SEEK_SET(0x0)"
  else if whence = 1 then .text "SEEK_CUR(0x1)"
  else if whence = 2 then .text "SEEK_END(0x2)"
  else if whence = 3 then .text "SEEK_DATA(0x3)"
  else if whence = 4 then .text "SEEK_HOLE(0x4)"
  else hexPiece whence

/-- `format_dirfd`. -/
def formatDirfd (dirfd : I32) : Piece :=
  if dirfd.toInt = -100 then .text "AT_FDCWD" else intPiece dirfd

/-! ### Previews -/

def asciiEscape (byte : UInt8) : List Char :=
  if byte = 0x5c then ['\\', '\\']
  else if byte = 0x22 then ['\\', '"']
  else if byte = 0x0a then ['\\', 'n']
  else if byte = 0x0d then ['\\', 'r']
  else if byte = 0x09 then ['\\', 't']
  else if 0x20 ≤ byte ∧ byte ≤ 0x7e then [Char.ofNat byte.toNat]
  else '\\' :: 'x' :: hexPadChars 2 byte.toNat

/-- `bytes_to_ascii_preview`. -/
def bytesToAsciiPreview (bytes : List UInt8) : String := String.ofList (bytes.flatMap asciiEscape)

/-- `format_buffer_preview`. -/
def formatBufferPreview (cfg : Config) (env : Env) (pid : Pid) (bufAddr reqCount : U64)
    (retNorm : I64) : List Piece :=
  if retNorm.toInt ≤ 0 then []
  else
    let expected := min retNorm.toNat reqCount.toNat
    if expected = 0 then []
    else
      let previewLen := min expected cfg.maxBlob
      if previewLen = 0 then [.text ", data_truncated=true"]
      else
        match readRemoteBytes env pid bufAddr previewLen with
        | none => [.text ", data=", .field .quotes ("<unreadable@" ++ hex bufAddr ++ ">")]
        | some bytes =>
          [.text ", data=", .field .quotes (bytesToAsciiPreview bytes)] ++
            if bytes.length < expected ∨ previewLen < expected then [.text ", data_truncated=true"]
            else []

end CudaTrace.Ptrace
