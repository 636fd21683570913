import CudaTrace.Base.Checked
import CudaTrace.Base.Layout
import CudaTrace.Base.Utf8
import CudaTrace.Decode.Json

/-!
# Reading the stopped process (decode/ioctl.rs)

A decoder is a `Checked` computation over the memory of the process; its log
holds the reads it makes, each with what its address was taken from.
-/

namespace CudaTrace.Decode
open CudaTrace.Base CudaTrace.Base.Checked
open CudaTrace.Ptrace (U32 U64 I32 I64)

/-- What a read goes through: the argument of the ioctl, the parameter block of a
control command, or another pointer that was found in memory. -/
inductive Via where
  | argument
  | params
  | pointer
  deriving DecidableEq

structure Access where
  via : Via
  addr : ℕ
  len : ℕ
  deriving DecidableEq

/-- The bytes of the process that can be read. -/
structure Target where
  byte : ℕ → Option UInt8

abbrev Decoding (α : Type) : Type := Checked Target Access α

/-- `len` bytes from `addr` on, if all of them can be read. -/
def Target.bytes (t : Target) (addr : ℕ) : ℕ → Option (List UInt8)
  | 0 => some []
  | len + 1 =>
    if addr < usizeLimit then
      (t.byte addr).bind fun b => (t.bytes (addr + 1) len).map fun bs => b :: bs
    else none

theorem Target.length_bytes {t : Target} {addr len : ℕ} {bs : List UInt8}
    (h : t.bytes addr len = some bs) : bs.length = len := by
  induction len generalizing addr bs with
  | zero => simp_all [Target.bytes]
  | succ len ih =>
    simp only [Target.bytes, Option.ite_none_right_eq_some, Option.bind_eq_some_iff,
      Option.map_eq_some_iff] at h
    obtain ⟨_, b, _, rest, hrest, rfl⟩ := h
    simp [ih hrest]

/-- Only the lower half of the address space can be read. -/
def Target.UserHalf (t : Target) : Prop := ∀ addr, 2 ^ 63 ≤ addr → t.byte addr = none

theorem Target.UserHalf.bound {t : Target} (hu : t.UserHalf) {addr len : ℕ} {bs : List UInt8}
    (hlen : 0 < len) (h : t.bytes addr len = some bs) : addr + len ≤ 2 ^ 63 := by
  induction len generalizing addr bs with
  | zero => omega
  | succ len ih =>
    simp only [Target.bytes, Option.ite_none_right_eq_some, Option.bind_eq_some_iff,
      Option.map_eq_some_iff] at h
    obtain ⟨_, b, hb, rest, hrest, rfl⟩ := h
    have haddr : addr < 2 ^ 63 := by
      by_contra hge
      simp [hu addr (by omega)] at hb
    by_cases hzero : len = 0
    · omega
    · have := ih (by omega) hrest
      omega

/-- `read_bytes`. -/
def readBytes (via : Via) (addr len : ℕ) : Decoding (Option (List UInt8)) := do
  allocate len
  ask ⟨via, addr, len⟩ fun t => t.bytes addr len

/-- The structure at an address, if all of its bytes can be read. -/
def Target.pod (t : Target) (T : Type) [Pod T] (addr : ℕ) : Option T :=
  (t.bytes addr (Pod.size T)).map Pod.ofBytes

/-- `read_pod`. -/
def readPod (T : Type) [Pod T] (via : Via) (addr : ℕ) : Decoding (Option T) :=
  ask ⟨via, addr, Pod.size T⟩ fun t => t.pod T addr

/-! ### Bytes to numbers and texts -/

def hexNibble (nibble : ℕ) : Char :=
  if nibble ≤ 9 then Char.ofNat ('0'.toNat + nibble)
  else if nibble ≤ 15 then Char.ofNat ('a'.toNat + (nibble - 10))
  else '?'

def hexByte (byte : UInt8) : List Char :=
  [hexNibble (byte >>> 4).toNat, hexNibble (byte &&& 0x0f).toNat]

/-- `hex_bytes`; the capacity of its buffer is twice the number of bytes. -/
def hexBytes (bytes : List UInt8) : Decoding String := do
  allocate (← mul bytes.length 2)
  return String.ofList (bytes.flatMap hexByte)

/-- The `u32` words of `chunks_exact(4)`. -/
def words : List UInt8 → List U32
  | a :: b :: c :: d :: rest => Pod.ofBytes [a, b, c, d] :: words rest
  | _ => []

/-- The bytes before the first NUL, as lossy UTF-8. -/
def readCString (bytes : List UInt8) : Decoding String := do
  let text ← prefixOf bytes (bytes.findIdx (· = 0))
  return fromUtf8Lossy text

/-- `read_remote_string`. -/
def readRemoteString (ptr : U64) (length maxBlob : ℕ) : Decoding (Option String) := do
  if ptr = 0 ∨ length = 0 then return none
  let readLen := min length (max maxBlob 32)
  match ← readBytes .pointer ptr.toNat readLen with
  | none => return none
  | some bytes => return some (← readCString bytes)

/-- `u16` units up to the first zero. -/
def utf16Units : List UInt8 → List U16
  | lo :: hi :: rest =>
    let unit : U16 := Pod.ofBytes [lo, hi]
    if unit = 0 then [] else unit :: utf16Units rest
  | _ => []

/-- `String::from_utf16_lossy`. -/
def fromUtf16Lossy : List U16 → List Char
  | [] => []
  | [u] => if 0xd800 ≤ u.toNat ∧ u.toNat ≤ 0xdfff then ['\uFFFD'] else [Char.ofNat u.toNat]
  | u :: l :: rest =>
    if u.toNat < 0xd800 ∨ 0xdfff < u.toNat then Char.ofNat u.toNat :: fromUtf16Lossy (l :: rest)
    else if u.toNat < 0xdc00 ∧ 0xdc00 ≤ l.toNat ∧ l.toNat ≤ 0xdfff then
      Char.ofNat (0x10000 + (u.toNat - 0xd800) * 0x400 + (l.toNat - 0xdc00)) :: fromUtf16Lossy rest
    else '\uFFFD' :: fromUtf16Lossy (l :: rest)

/-- `read_utf16le_c_string`. -/
def readUtf16leCString (bytes : List UInt8) : String :=
  String.ofList (fromUtf16Lossy (utf16Units bytes))

/-- `format_uuid`. -/
def formatUuid (uuid : Vector UInt8 16) : String :=
  String.ofList (uuid.toList.zipIdx.flatMap fun (byte, idx) =>
    if idx = 4 ∨ idx = 6 ∨ idx = 8 ∨ idx = 10 then '-' :: hexByte byte else hexByte byte)

/-! ### The command word -/

structure IoctlMeta where
  raw : U64
  dir : U8
  iocType : U8
  nr : U8
  size : U16

namespace IoctlMeta

def directionName (m : IoctlMeta) : String :=
  match m.dir.toNat with
  | 0 => "none"
  | 1 => "write"
  | 2 => "read"
  | 3 => "read|write"
  | _ => "invalid"

end IoctlMeta

def decodeIoctlCmd (cmd : U64) : IoctlMeta where
  raw := cmd
  dir := ((cmd >>> 30) &&& 0x3).setWidth 8
  iocType := ((cmd >>> 8) &&& 0xff).setWidth 8
  nr := (cmd &&& 0xff).setWidth 8
  size := ((cmd >>> 16) &&& 0x3fff).setWidth 16

/-- The status of an argument that is smaller than what the decoder expects. -/
def sizeMismatch (expected actual : ℕ) : String :=
  s!"size_mismatch(expected>={expected},actual={actual})"

/-- `read_checked_pod`. -/
def readCheckedPod (T : Type) [Pod T] (m : IoctlMeta) (argPtr : U64) :
    Decoding (Except String T) := do
  let expected := Pod.size T
  let declared := m.size.toNat
  if 0 < declared ∧ declared < expected then
    return .error (sizeMismatch expected declared)
  match ← readPod T .argument argPtr.toNat with
  | some value => return .ok value
  | none => return .error "arg_unreadable"

theorem ok_readCheckedPod {T : Type} [Pod T] {m : IoctlMeta} {argPtr : U64} {w : World Target}
    {r : Except String T} (h : (readCheckedPod T m argPtr w).outcome = .ok r) :
    ((m.size.toNat = 0 ∨ Pod.size T ≤ m.size.toNat) ∧
      ∃ p, w.state.pod T argPtr.toNat = some p ∧ r = .ok p) ∨
    (¬ ((m.size.toNat = 0 ∨ Pod.size T ≤ m.size.toNat) ∧
      ∃ p, w.state.pod T argPtr.toNat = some p) ∧ ∃ err, r = .error err) := by
  unfold readCheckedPod at h
  split at h
  · rename_i hsmall
    simp only [ok_pure] at h
    exact .inr ⟨by omega, _, h.symm⟩
  · rename_i hlarge
    simp only [readPod, ok_bind, ok_ask] at h
    obtain ⟨o, ho, h⟩ := h
    cases o with
    | none =>
      simp only [ok_pure] at h
      exact .inr ⟨by simp [ho], _, h.symm⟩
    | some p =>
      simp only [ok_pure] at h
      exact .inl ⟨by omega, p, ho, h.symm⟩

/-- A decoder of a fixed structure: its report, or the reason there is none. -/
def checkedPod (T : Type) [Pod T] (m : IoctlMeta) (argPtr : U64) (report : T → Decoding Report) :
    Decoding Report := do
  match ← readCheckedPod T m argPtr with
  | .ok params => report params
  | .error err => return .failed err

/-- `as u64` of an unsigned field. -/
def zext {w : ℕ} (v : BitVec w) : BitVec 64 := v.setWidth 64

/-- `as i64` of a signed field. -/
def sext {w : ℕ} (v : BitVec w) : BitVec 64 := v.signExtend 64

end CudaTrace.Decode
