import CudaTrace.Decode.Ioctl
import CudaTrace.Decode.Rm
import CudaTrace.Decode.Uvm

/-!
# The summary of an ioctl (decode/ioctl.rs)

The parts of the command word, and what the decoder of the descriptor's path makes of
the argument.
-/

namespace CudaTrace.Decode
open CudaTrace.Base CudaTrace.Base.Checked
open CudaTrace.Ptrace (U32 U64 I32 I64)

/-- `format_ioc_type`: a graphic ASCII character is shown as one. -/
def formatIocType (iocType : U8) : String :=
  if 0x21 ≤ iocType.toNat ∧ iocType.toNat ≤ 0x7e then
    "'" ++ (Char.ofNat iocType.toNat).toString ++ "'"
  else hex iocType

def formatIocNr (m : IoctlMeta) (fdPath : Option String) : String :=
  if isUvmPath fdPath then
    let name := Uvm.uvmCmdName m.raw
    if name ≠ "UNKNOWN" then name else m.nr.toNat.repr
  else if isNvidiaRmPath fdPath && outerCmdName m.nr ≠ "UNKNOWN" then outerCmdName m.nr
  else m.nr.toNat.repr

def ioctlHeader (m : IoctlMeta) (fdPath : Option String) : String :=
  "_IOC(dir=" ++ m.directionName ++ ",type=" ++ formatIocType m.iocType ++ ",nr=" ++
    formatIocNr m fdPath ++ ",size=" ++ m.size.toNat.repr ++ ")"

/-- The members that the decoder writes, where one runs and knows the command. -/
def decodeArgs (m : IoctlMeta) (argPtr : U64) (mode : IoctlDecodeMode) (maxBlob : ℕ)
    (fdPath : Option String) : Decoding (Option (List Field)) :=
  match ioctlDecoder mode fdPath with
  | none => pure none
  | some .uvm => do
    let report ← Uvm.decodeUvmIoctl m argPtr mode maxBlob
    return some report.fields
  | some .rm => Rm.decodeNvidiaIoctl m argPtr mode maxBlob

/-- `summarize_ioctl`. -/
def summarizeIoctl (cmd argPtr : U64) (mode : IoctlDecodeMode) (maxBlob : ℕ)
    (fdPath : Option String) : Decoding String := do
  let m := decodeIoctlCmd cmd
  match ← decodeArgs m argPtr mode maxBlob fdPath with
  | none => return ioctlHeader m fdPath
  | some fields => return ioctlHeader m fdPath ++ ", args=" ++ objectText fields

end CudaTrace.Decode
