import CudaTrace.Config
import CudaTrace.Decode.RmControl

/-!
# Resource manager escapes (decode/ioctl_rm.rs)

Every decoder but one yields a `Report`, in which no key is used twice; that of
`NV_ESC_RM_VID_HEAP_CONTROL` yields its members as they are.
-/

namespace CudaTrace.Decode.Rm
open CudaTrace.Base CudaTrace.Base.Checked
open CudaTrace.Ptrace (U32 U64 I32 I64)

/-- What `decode_nvos54_payload` adds to the object of the escape. -/
structure Nvos54Report where
  os54 : Fragment
  inner : Option Fragment
  status : String

def Nvos54Report.members (r : Nvos54Report) : List Field :=
  .raw "os54" r.os54 :: (r.inner.map (Field.raw "inner")).toList

theorem Nvos54Report.keys (r : Nvos54Report) :
    r.members.map Field.key = ["os54"] ∨ r.members.map Field.key = ["os54", "inner"] := by
  cases h : r.inner with
  | none => simp [members, h]
  | some inner => simp [members, h]

/-- The words of a parameter block that has no decoder of its own. -/
def previewParams (os54 : NvOs54Parameters) (cmdName : String) (readLen : ℕ) :
    Option (List UInt8) → Fragment
  | some bytes => Members.finish ⟨
      [.str "cmd_raw" (hex os54.cmd), .str "cmd_name" cmdName,
       .u64 "params_size" (zext os54.paramsSize),
       .raw (paramsKey cmdName) (jsonU32HexArray (words bytes)),
       .bool "preview_truncated" (readLen < os54.paramsSize.toNat)],
      by simp (disch := decide) [paramsKey_ne, ne_paramsKey]⟩
  | none => Members.finish ⟨
      [.str "cmd_raw" (hex os54.cmd), .str "cmd_name" cmdName,
       .u64 "params_size" (zext os54.paramsSize), .str "preview" "unreadable"], by simp⟩

def decodeNvos54Payload (os54 : NvOs54Parameters) (maxBlob : ℕ) : Decoding Nvos54Report := do
  let cmdName := rmControlCmdName os54.cmd
  let os54Json := (Members.mk
    [.str "hClient" (hex os54.hClient), .str "hObject" (hex os54.hObject),
     .str "cmd_raw" (hex os54.cmd), .str "cmd_name" cmdName, .str "flags" (hex os54.flags),
     .str "params_ptr" (hex os54.params), .u64 "params_size" (zext os54.paramsSize),
     .i64 "rm_status" (sext os54.status)]).finish
  if os54.params = 0 ∨ os54.paramsSize = 0 then return ⟨os54Json, none, "ok"⟩
  match ← decodeKnownRmControl os54.cmd os54.params.toNat os54.paramsSize.toNat with
  | some decoded => return ⟨os54Json, some decoded.finish, "ok"⟩
  | none =>
    let readLen := min os54.paramsSize.toNat (min (max maxBlob 16) (← mul maxInnerPreviewWords 4))
    if readLen = 0 then return ⟨os54Json, none, "params_empty"⟩
    let bytes ← readBytes .params os54.params.toNat readLen
    let status := if bytes.isSome then "inner_partial" else "params_unreadable"
    return ⟨os54Json, some (previewParams os54 cmdName readLen bytes), status⟩

def decodeXfer (argPtr : U64) (mode : IoctlDecodeMode) (maxBlob : ℕ) : Decoding Report := do
  match ← readPod NvIoctlXfer .argument argPtr.toNat with
  | none => return .failed "xfer_unreadable"
  | some xfer =>
    let xferJson := (Members.mk
      [.str "cmd_raw" (hex xfer.cmd), .u64 "size" (zext xfer.size),
       .str "ptr" (hex xfer.ptr)]).finish
    if mode ≠ .full then return .ok [.raw "xfer" xferJson]
    if xfer.cmd ≠ nv04Control ∨ xfer.ptr = 0 then
      return Report.mk [.raw "xfer" xferJson] "xfer_non_nvos54"
    match ← readPod NvOs54Parameters .pointer xfer.ptr.toNat with
    | none => return Report.mk [.raw "xfer" xferJson] "os54_unreadable"
    | some os54 =>
      let r ← decodeNvos54Payload os54 maxBlob
      return Report.mk (.raw "xfer" xferJson :: r.members) r.status
        (by rcases r.keys with h | h <;> simp [h])

def decodeRmControl (m : IoctlMeta) (argPtr : U64) (maxBlob : ℕ) : Decoding Report :=
  checkedPod NvOs54Parameters m argPtr fun os54 => do
    let r ← decodeNvos54Payload os54 maxBlob
    return Report.mk r.members r.status (by rcases r.keys with h | h <;> simp [h])

def writeRmAllocClass (classId : I32) : List Field :=
  [.str "hClass" (hex classId),
   .str "hClassName" ((rmAllocClassName classId).getD ("UNKNOWN(" ++ hex classId ++ ")"))]

def writeNvos02Fields (p : NvOs02Parameters) : List Field :=
  [.str "hRoot" (hex p.hRoot), .str "hObjectParent" (hex p.hObjectParent),
   .str "hObjectNew" (hex p.hObjectNew)] ++ writeRmAllocClass p.hClass ++
  [.str "flags" (hex p.flags),
   .str "flagsPhysicality" (nvos02FlagsPhysicalityName ((p.flags >>> 4) &&& 0x0f)),
   .str "flagsLocation" (nvos02FlagsLocationName ((p.flags >>> 8) &&& 0x0f)),
   .str "flagsCoherency" (nvos02FlagsCoherencyName ((p.flags >>> 12) &&& 0x0f)),
   .str "flagsAlloc" (nvos02FlagsAllocName ((p.flags >>> 16) &&& 0x03)),
   .bool "flagsGpuCacheable" ((p.flags >>> 18) &&& 0x1 != 0),
   .bool "flagsKernelMapping" ((p.flags >>> 19) &&& 0x1 != 0),
   .str "flagsMapping" (nvos02FlagsMappingName ((p.flags >>> 30) &&& 0x03)),
   .str "pMemory" (hex p.pMemory), .str "limit" (hex p.limit)]

/-- A declared size below that of every known version of the structure. -/
def tooSmall (T : Type) [Pod T] (m : IoctlMeta) : Report :=
  .failed (sizeMismatch (Pod.size T) m.size.toNat)

def decodeRmAllocMemory (m : IoctlMeta) (argPtr : U64) : Decoding Report :=
  if Pod.size NvIoctlNvos02ParametersWithFd ≤ m.size.toNat then
    checkedPod NvIoctlNvos02ParametersWithFd m argPtr fun w => pure <| .ok
      ([.str "api" "nv_ioctl_nvos02_parameters_with_fd"] ++ writeNvos02Fields w.params ++
        [.i64 "fd" (sext w.fd), .i64 "rmStatus" (sext w.params.status)])
      (by simp [writeNvos02Fields, writeRmAllocClass])
  else if Pod.size NvOs02Parameters ≤ m.size.toNat then
    checkedPod NvOs02Parameters m argPtr fun p => pure <| .ok
      ([.str "api" "NVOS02"] ++ writeNvos02Fields p ++ [.i64 "rmStatus" (sext p.status)])
      (by simp [writeNvos02Fields, writeRmAllocClass])
  else pure (tooSmall NvOs02Parameters m)

def decodeRmAllocObject (m : IoctlMeta) (argPtr : U64) : Decoding Report :=
  checkedPod NvOs05Parameters m argPtr fun p => pure <| .ok
    ([.str "api" "NVOS05", .str "hRoot" (hex p.hRoot), .str "hObjectParent" (hex p.hObjectParent),
      .str "hObjectNew" (hex p.hObjectNew)] ++ writeRmAllocClass p.hClass ++
      [.i64 "rmStatus" (sext p.status)])
    (by simp [writeRmAllocClass])

/-- What `decode_alloc_blob` adds. -/
inductive AllocBlob where
  | none
  | hex (text : String) (truncated : Bool)
  | unreadable

def AllocBlob.members : AllocBlob → List Field
  | none => []
  | hex text truncated =>
    [.str "allocParamsBlobHex" text, .bool "allocParamsTruncated" truncated]
  | unreadable => [.str "allocParamsStatus" "unreadable"]

def decodeAllocBlob (paramsPtr : U64) (paramsSize maxBlob : ℕ) : Decoding AllocBlob := do
  if paramsPtr = 0 ∨ paramsSize = 0 then return .none
  let readLen := min paramsSize (max maxBlob 16)
  match ← readBytes .pointer paramsPtr.toNat readLen with
  | some bytes => return .hex (← hexBytes bytes) (readLen < paramsSize)
  | none => return .unreadable

def decodeRmAlloc (m : IoctlMeta) (argPtr : U64) (maxBlob : ℕ) : Decoding Report :=
  if Pod.size NvOs64Parameters ≤ m.size.toNat then
    checkedPod NvOs64Parameters m argPtr fun p => do
      let blob ← decodeAllocBlob p.pAllocParms p.paramsSize.toNat maxBlob
      return .ok
          ([.str "api" "NVOS64", .str "hRoot" (hex p.hRoot),
            .str "hObjectParent" (hex p.hObjectParent), .str "hObjectNew" (hex p.hObjectNew)] ++
            writeRmAllocClass p.hClass ++
            [.str "pAllocParms" (hex p.pAllocParms),
             .str "pRightsRequested" (hex p.pRightsRequested),
             .u64 "paramsSize" (zext p.paramsSize), .u64 "flags" (zext p.flags),
             .i64 "rmStatus" (sext p.status)] ++ blob.members)
          (by cases blob <;> simp [writeRmAllocClass, AllocBlob.members])
  else if Pod.size NvOs21Parameters ≤ m.size.toNat then
    checkedPod NvOs21Parameters m argPtr fun p => do
      let blob ← decodeAllocBlob p.pAllocParms p.paramsSize.toNat maxBlob
      return .ok
          ([.str "api" "NVOS21", .str "hRoot" (hex p.hRoot),
            .str "hObjectParent" (hex p.hObjectParent), .str "hObjectNew" (hex p.hObjectNew)] ++
            writeRmAllocClass p.hClass ++
            [.str "pAllocParms" (hex p.pAllocParms), .u64 "paramsSize" (zext p.paramsSize),
             .i64 "rmStatus" (sext p.status)] ++ blob.members)
          (by cases blob <;> simp [writeRmAllocClass, AllocBlob.members])
  else pure (tooSmall NvOs21Parameters m)

def decodeRmFree (m : IoctlMeta) (argPtr : U64) : Decoding Report :=
  checkedPod NvOs00Parameters m argPtr fun p => pure <| .ok
    [.str "hRoot" (hex p.hRoot), .str "hObjectParent" (hex p.hObjectParent),
     .str "hObjectOld" (hex p.hObjectOld), .i64 "rmStatus" (sext p.status)]

def decodeRmMapMemory (m : IoctlMeta) (argPtr : U64) : Decoding Report :=
  if Pod.size NvIoctlNvos33ParametersWithFd ≤ m.size.toNat then
    checkedPod NvIoctlNvos33ParametersWithFd m argPtr fun w =>
      let p := w.params
      pure <| .ok
        [.str "api" "nv_ioctl_nvos33_parameters_with_fd", .str "hClient" (hex p.hClient),
         .str "hDevice" (hex p.hDevice), .str "hMemory" (hex p.hMemory),
         .str "offset" (hex p.offset), .u64 "length" p.length,
         .str "pLinearAddress" (hex p.pLinearAddress), .u64 "flags" (zext p.flags),
         .u64 "fd" (sext w.fd), .i64 "rmStatus" (zext p.status)]
  else pure (tooSmall NvIoctlNvos33ParametersWithFd m)

def decodeRmUnmapMemory (m : IoctlMeta) (argPtr : U64) : Decoding Report :=
  checkedPod NvOs34Parameters m argPtr fun p => pure <| .ok
    [.str "hClient" (hex p.hClient), .str "hDevice" (hex p.hDevice),
     .str "hMemory" (hex p.hMemory), .str "pLinearAddress" (hex p.pLinearAddress),
     .u64 "flags" (zext p.flags), .i64 "rmStatus" (zext p.status)]

def decodeRmI2cAccess (m : IoctlMeta) (argPtr : U64) : Decoding Report :=
  checkedPod RmI2cAccessParams m argPtr fun p => pure <| .ok
    [.str "hClient" (hex p.hClient), .str "hDevice" (hex p.hDevice),
     .u64 "paramSize" (zext p.paramSize), .str "paramStructPtr" (hex p.paramStructPtr),
     .i64 "rmStatus" (zext p.status)]

def decodeRmIdleChannels (m : IoctlMeta) (argPtr : U64) : Decoding Report :=
  checkedPod RmIdleChannelsParams m argPtr fun p => pure <| .ok
    [.str "hClient" (hex p.hClient), .str "hDevice" (hex p.hDevice),
     .str "hChannel" (hex p.hChannel), .u64 "numChannels" (zext p.numChannels),
     .str "phClients" (hex p.phClients), .str "phDevices" (hex p.phDevices),
     .str "phChannels" (hex p.phChannels), .str "flags" (hex p.flags),
     .u64 "timeout" (zext p.timeout), .i64 "rmStatus" (zext p.status)]

def vidHeapMembers (p : RmVidHeapControlPrefix) : List Field :=
  [.str "hRoot" (hex p.hRoot), .str "hObjectParent" (hex p.hObjectParent),
   .u64 "function" (zext p.function), .str "functionName" (rmVidHeapFunctionName p.function),
   .str "hVASpace" (hex p.hVaspace), .i64 "ivcHeapNumber" (sext p.ivcHeapNumber),
   .u64 "total" p.total, .u64 "free" p.free, .i64 "rmStatus" (zext p.status)]

/-- The member for the data of the function, where it has any that can be read. -/
def decodeVidHeapData (function : U32) (dataAddr : ℕ) : Decoding (Option Field) :=
  match function.toNat with
  | 2 => do
    let data ← readPod RmVidHeapAllocSizeData .argument dataAddr
    return data.map fun p => .raw "allocSize" (Members.mk
      [.u64 "owner" (zext p.owner), .str "hMemory" (hex p.hMemory),
       .u64 "type" (zext p.memType), .str "flags" (hex p.flags), .str "attr" (hex p.attr),
       .str "format" (hex p.format), .u64 "comprCovg" (zext p.comprCovg),
       .u64 "zcullCovg" (zext p.zcullCovg), .u64 "partitionStride" (zext p.partitionStride),
       .u64 "width" (zext p.width), .u64 "height" (zext p.height), .u64 "size" p.size,
       .u64 "alignment" p.alignment, .str "offset" (hex p.offset),
       .str "limit" (hex p.limit), .str "address" (hex p.address),
       .str "rangeBegin" (hex p.rangeBegin), .str "rangeEnd" (hex p.rangeEnd),
       .str "attr2" (hex p.attr2), .u64 "ctagOffset" (zext p.ctagOffset),
       .i64 "numaNode" (sext p.numaNode)]).finish
  | 3 => do
    let data ← readPod RmVidHeapFreeData .argument dataAddr
    return data.map fun p => .raw "free" (Members.mk
      [.u64 "owner" (zext p.owner), .str "hMemory" (hex p.hMemory),
       .str "flags" (hex p.flags)]).finish
  | 27 => do
    let data ← readPod RmVidHeapAllocOsDescData .argument dataAddr
    return data.map fun p => .raw "allocOsDesc" (Members.mk
      [.str "hMemory" (hex p.hMemory), .u64 "type" (zext p.memType),
       .str "flags" (hex p.flags), .str "attr" (hex p.attr), .str "attr2" (hex p.attr2),
       .str "descriptor" (hex p.descriptor), .str "limit" (hex p.limit),
       .u64 "descriptorType" (zext p.descriptorType)]).finish
  | _ => pure none

/-- `decode_rm_vid_heap_control`; the data of function 3 has a key that is in use. -/
def decodeRmVidHeapControl (m : IoctlMeta) (argPtr : U64) : Decoding (List Field) := do
  match ← readCheckedPod RmVidHeapControlPrefix m argPtr with
  | .error err => return (Report.failed err).fields
  | .ok p =>
    let dataAddr ← add argPtr.toNat (Pod.size RmVidHeapControlPrefix)
    let data ← decodeVidHeapData p.function dataAddr
    return vidHeapMembers p ++ data.toList ++ [.str "status" "ok"]

def decodeRmAccessRegistry (m : IoctlMeta) (argPtr : U64) (maxBlob : ℕ) : Decoding Report :=
  checkedPod RmAccessRegistryParams m argPtr fun p => do
    -- the strings are read only where both the pointer and the length are set
    let devNode ← readRemoteString p.pDevNode p.devNodeLength.toNat maxBlob
    let parmStr ← readRemoteString p.pParmStr p.parmStrLength.toNat maxBlob
    return .ok
        ([.str "hClient" (hex p.hClient), .str "hObject" (hex p.hObject),
          .u64 "accessType" (zext p.accessType), .u64 "devNodeLength" (zext p.devNodeLength),
          .str "pDevNode" (hex p.pDevNode), .u64 "parmStrLength" (zext p.parmStrLength),
          .str "pParmStr" (hex p.pParmStr), .u64 "binaryDataLength" (zext p.binaryDataLength),
          .str "pBinaryData" (hex p.pBinaryData), .u64 "data" (zext p.data),
          .u64 "entry" (zext p.entry), .i64 "rmStatus" (zext p.status)] ++
          (devNode.map (Field.str "devNode")).toList ++ (parmStr.map (Field.str "parmStr")).toList)
        (by cases devNode <;> cases parmStr <;> simp)

def decodeRmGetEventData (m : IoctlMeta) (argPtr : U64) : Decoding Report :=
  checkedPod RmGetEventDataParams m argPtr fun p => do
    let event ← if p.pEvent ≠ 0 then readPod RmUnixEvent .pointer p.pEvent.toNat else pure none
    return .ok
        ([.str "pEvent" (hex p.pEvent), .u64 "moreEvents" (zext p.moreEvents),
          .i64 "rmStatus" (zext p.status)] ++
          (event.map fun e => Field.raw "event" (Members.mk
            [.str "hObject" (hex e.hObject), .u64 "notifyIndex" (zext e.notifyIndex),
             .u64 "info32" (zext e.info32), .u64 "info16" (zext e.info16)]).finish).toList)
        (by cases event <;> simp)

def decodeRmAllocContextDma2 (m : IoctlMeta) (argPtr : U64) : Decoding Report :=
  checkedPod RmAllocContextDma2Params m argPtr fun p => pure <| .ok
    [.str "hObjectParent" (hex p.hObjectParent), .str "hSubDevice" (hex p.hSubDevice),
     .str "hObjectNew" (hex p.hObjectNew), .str "hClass" (hex p.hClass),
     .str "flags" (hex p.flags), .u64 "selector" (zext p.selector),
     .str "hMemory" (hex p.hMemory), .str "offset" (hex p.offset), .str "limit" (hex p.limit),
     .i64 "rmStatus" (zext p.status)]

def decodeRmMapMemoryDma (m : IoctlMeta) (argPtr : U64) : Decoding Report :=
  checkedPod RmMapMemoryDmaParams m argPtr fun p => pure <| .ok
    [.str "hClient" (hex p.hClient), .str "hDevice" (hex p.hDevice), .str "hDma" (hex p.hDma),
     .str "hMemory" (hex p.hMemory), .str "offset" (hex p.offset), .u64 "length" p.length,
     .str "flags" (hex p.flags), .str "flags2" (hex p.flags2),
     .u64 "kindOverride" (zext p.kindOverride), .str "dmaOffset" (hex p.dmaOffset),
     .i64 "rmStatus" (zext p.status)]

def decodeRmUnmapMemoryDma (m : IoctlMeta) (argPtr : U64) : Decoding Report :=
  checkedPod RmUnmapMemoryDmaParams m argPtr fun p => pure <| .ok
    [.str "hClient" (hex p.hClient), .str "hDevice" (hex p.hDevice), .str "hDma" (hex p.hDma),
     .str "hMemory" (hex p.hMemory), .str "flags" (hex p.flags),
     .str "dmaOffset" (hex p.dmaOffset), .u64 "size" p.size, .i64 "rmStatus" (zext p.status)]

def decodeRmBindContextDma (m : IoctlMeta) (argPtr : U64) : Decoding Report :=
  checkedPod RmBindContextDmaParams m argPtr fun p => pure <| .ok
    [.str "hClient" (hex p.hClient), .str "hChannel" (hex p.hChannel),
     .str "hCtxDma" (hex p.hCtxDma), .i64 "rmStatus" (zext p.status)]

def decodeRmDupObject (m : IoctlMeta) (argPtr : U64) : Decoding Report :=
  checkedPod RmDupObjectParams m argPtr fun p => pure <| .ok
    [.str "hClient" (hex p.hClient), .str "hParent" (hex p.hParent),
     .str "hObject" (hex p.hObject), .str "hClientSrc" (hex p.hClientSrc),
     .str "hObjectSrc" (hex p.hObjectSrc), .str "flags" (hex p.flags),
     .i64 "rmStatus" (zext p.status)]

def decodeRmUpdateDeviceMappingInfo (m : IoctlMeta) (argPtr : U64) : Decoding Report :=
  checkedPod RmUpdateDeviceMappingInfoParams m argPtr fun p => pure <| .ok
    [.str "hClient" (hex p.hClient), .str "hDevice" (hex p.hDevice),
     .str "hMemory" (hex p.hMemory), .str "pOldCpuAddress" (hex p.pOldCpuAddress),
     .str "pNewCpuAddress" (hex p.pNewCpuAddress), .i64 "rmStatus" (zext p.status)]

def decodeRmShare (m : IoctlMeta) (argPtr : U64) : Decoding Report :=
  checkedPod RmShareParams m argPtr fun p => pure <| .ok
    [.str "hClient" (hex p.hClient), .str "hObject" (hex p.hObject),
     .raw "sharePolicy" (jsonSharePolicy p.sharePolicy), .i64 "rmStatus" (zext p.status)]

def decodeRmAddVblankCallback (m : IoctlMeta) (argPtr : U64) : Decoding Report :=
  checkedPod RmAddVblankCallbackParams m argPtr fun p => pure <| .ok
    [.str "hClient" (hex p.hClient), .str "hDevice" (hex p.hDevice),
     .str "hVblank" (hex p.hVblank), .str "pProc" (hex p.pProc),
     .u64 "logicalHead" (zext p.logicalHead), .str "pParm1" (hex p.pParm1),
     .str "pParm2" (hex p.pParm2), .bool "add" (p.bAdd != 0), .i64 "rmStatus" (zext p.status)]

def decodeRmOpaque (m : IoctlMeta) (argPtr : U64) : Decoding Report := do
  let status ←
    if Pod.size U32 ≤ m.size.toNat then do
      let statusAddr ← sub (← add argPtr.toNat m.size.toNat) (Pod.size U32)
      readPod U32 .argument statusAddr
    else pure none
  return Report.mk
      ([.str "cmdName" (outerCmdName m.nr), .u64 "declaredSize" (zext m.size),
        .str "argPtr" (hex argPtr)] ++
        (status.map fun s => Field.i64 "rmStatusHint" (sext s)).toList)
      "opaque" (by cases status <;> simp)

def decodeRegisterFd (m : IoctlMeta) (argPtr : U64) : Decoding Report :=
  checkedPod NvIoctlRegisterFd m argPtr fun p => pure <| .ok
    [.i64 "ctl_fd" (sext p.ctlFd)]

def decodeAllocFreeOsEvent (m : IoctlMeta) (argPtr : U64) : Decoding Report :=
  checkedPod NvIoctlAllocOsEvent m argPtr fun p => pure <| .ok
    [.str "hClient" (hex p.hClient), .str "hDevice" (hex p.hDevice), .u64 "fd" (zext p.fd),
     .i64 "rmStatus" (zext p.status)]

def decodeStatusCode (m : IoctlMeta) (argPtr : U64) : Decoding Report :=
  checkedPod NvIoctlStatusCode m argPtr fun p => pure <| .ok
    [.u64 "domain" (zext p.domain), .u64 "bus" (zext p.bus), .u64 "slot" (zext p.slot),
     .u64 "statusCode" (zext p.status)]

def decodeRmApiVersion (m : IoctlMeta) (argPtr : U64) : Decoding Report :=
  checkedPod NvIoctlRmApiVersion m argPtr fun p => do
    let version ← readCString p.versionString.toList
    return .ok
        [.u64 "cmd" (zext p.cmd), .u64 "reply" (zext p.reply), .str "version" version]

def decodeQueryDeviceIntr (m : IoctlMeta) (argPtr : U64) : Decoding Report :=
  checkedPod NvIoctlQueryDeviceIntr m argPtr fun p => pure <| .ok
    [.u64 "intrStatus" (zext p.intrStatus), .u64 "rmStatus" (zext p.status)]

def decodeSysParams (m : IoctlMeta) (argPtr : U64) : Decoding Report :=
  checkedPod NvIoctlSysParams m argPtr fun p => pure <| .ok
    [.u64 "memblock_size" p.memblockSize]

def decodeWaitOpenComplete (m : IoctlMeta) (argPtr : U64) : Decoding Report :=
  checkedPod NvIoctlWaitOpenComplete m argPtr fun p => pure <| .ok
    [.i64 "rc" (sext p.rc), .u64 "adapterStatus" (zext p.adapterStatus)]

def decodeNumaInfo (m : IoctlMeta) (argPtr : U64) : Decoding Report :=
  checkedPod NvIoctlNumaInfo m argPtr fun p => do
    let addresses := p.offlineAddresses.addresses.toList
    let addrCount := min p.offlineAddresses.numEntries.toNat addresses.length
    let logged := min addrCount maxNumaAddresses
    let shown ← prefixOf addresses logged
    return .ok
        [.i64 "nid" (sext p.nid), .i64 "numaStatus" (sext p.status),
         .u64 "memblock_size" p.memblockSize, .str "numa_mem_addr" (hex p.numaMemAddr),
         .u64 "numa_mem_size" p.numaMemSize, .bool "use_auto_online" (p.useAutoOnline != 0),
         .u64 "offlineAddressCount" (usizeAsU64 addrCount),
         .raw "offlineAddresses" (jsonU64HexArray shown),
         .bool "offlineAddressesTruncated" (logged < addrCount)]

def decodeSetNumaStatus (m : IoctlMeta) (argPtr : U64) : Decoding Report :=
  checkedPod NvIoctlSetNumaStatus m argPtr fun p => pure <| .ok
    [.i64 "numaStatus" (sext p.status)]

def decodeAttachGpus (m : IoctlMeta) (argPtr : U64) (maxBlob : ℕ) : Decoding Report := do
  let declared := m.size.toNat
  if declared = 0 then return .failed "size_unknown"
  if (← rem declared (Pod.size U32)) ≠ 0 then return .failed "size_unknown"
  let readLen := min declared (max maxBlob (Pod.size U32))
  match ← readBytes .argument argPtr.toNat readLen with
  | none => return .failed "arg_unreadable"
  | some bytes =>
    let gpuCount ← div declared (Pod.size U32)
    return .ok
        [.u64 "gpu_count" (usizeAsU64 gpuCount), .raw "gpu_ids" (jsonU32Array (words bytes)),
         .bool "truncated" (readLen < declared)]

def decodeExportToDmabuf (m : IoctlMeta) (argPtr : U64) : Decoding Report :=
  checkedPod NvIoctlExportToDmaBufFdPrefix m argPtr fun p => pure <| .ok
    [.i64 "fd" (sext p.fd), .str "hClient" (hex p.hClient),
     .u64 "totalObjects" (zext p.totalObjects), .u64 "numObjects" (zext p.numObjects),
     .u64 "index" (zext p.index), .u64 "totalSize" p.totalSize,
     .u64 "mappingType" (zext p.mappingType), .bool "allowMmap" (p.bAllowMmap != 0)]

def jsonCardInfo (idx : ℕ) (entry : NvIoctlCardInfo) : Decoding Fragment := do
  let devName ← readCString entry.devName.toList
  let pci := entry.pciInfo
  return (Members.mk
      [.u64 "index" (usizeAsU64 idx), .bool "valid" (entry.valid != 0),
       .u64 "domain" (zext pci.domain), .u64 "bus" (zext pci.bus), .u64 "slot" (zext pci.slot),
       .u64 "function" (zext pci.function), .u64 "vendorId" (zext pci.vendorId),
       .u64 "deviceId" (zext pci.deviceId),
       .str "bdf" (hexPad 4 pci.domain.toNat ++ ":" ++ hexPad 2 pci.bus.toNat ++ ":" ++
         hexPad 2 pci.slot.toNat ++ "." ++ pci.function.toNat.repr),
       .u64 "gpuId" (zext entry.gpuId), .u64 "interruptLine" (zext entry.interruptLine),
       .str "regAddress" (hex entry.regAddress), .u64 "regSize" entry.regSize,
       .str "fbAddress" (hex entry.fbAddress), .u64 "fbSize" entry.fbSize,
       .u64 "minorNumber" (zext entry.minorNumber), .str "devName" devName]).finish

def jsonCardInfoArray (values : List NvIoctlCardInfo) : Decoding Fragment := do
  let items ← forEach (fun (entry, idx) => jsonCardInfo idx entry) values.zipIdx
  return .array items

/-- The loop of `decode_card_info`: `remaining` entries from number `idx` on, up to the
first that cannot be read. -/
def readCards (argPtr : U64) (idx : ℕ) : ℕ → Decoding (List NvIoctlCardInfo)
  | 0 => return []
  | remaining + 1 => do
    let addr ← add argPtr.toNat (← mul idx (Pod.size NvIoctlCardInfo))
    match ← readPod NvIoctlCardInfo .argument addr with
    | none => return []
    | some entry => return entry :: (← readCards argPtr (idx + 1) remaining)

def decodeCardInfo (m : IoctlMeta) (argPtr : U64) (maxBlob : ℕ) : Decoding Report := do
  let declared := m.size.toNat
  let cardSize := Pod.size NvIoctlCardInfo
  if declared < cardSize then return tooSmall NvIoctlCardInfo m
  let declaredCount ← div declared cardSize
  let maxEntries := max (← div maxBlob cardSize) 1
  let readCount := min declaredCount maxEntries
  let decoded ← readCards argPtr 0 readCount
  if decoded = [] then return .failed "arg_unreadable"
  let cards ← jsonCardInfoArray decoded
  let validCount := (decoded.filter fun entry => entry.valid != 0).length
  return .ok
      [.u64 "cardCountDeclared" (usizeAsU64 declaredCount),
       .u64 "cardCountDecoded" (usizeAsU64 decoded.length),
       .u64 "validCount" (usizeAsU64 validCount),
       .bool "truncated" (decoded.length < declaredCount), .raw "cards" cards]

def decodeUnknown (m : IoctlMeta) (argPtr : U64) (maxBlob : ℕ) : Decoding Report := do
  let declared := m.size.toNat
  if declared = 0 then return .failed "unknown_cmd"
  let readLen := min declared (max maxBlob 16)
  match ← readBytes .argument argPtr.toNat readLen with
  | some bytes =>
    return Report.mk
        [.str "blob_hex" (← hexBytes bytes), .bool "truncated" (readLen < declared)] "partial"
  | none => return .failed "arg_unreadable"

/-! ### Dispatch -/

def reportFields (d : Decoding Report) : Decoding (List Field) := do
  let report ← d
  return report.fields

/-- The `match` of `decode_nvidia_ioctl`. -/
def decodeEscape (m : IoctlMeta) (argPtr : U64) (mode : IoctlDecodeMode) (maxBlob : ℕ) :
    Decoding (List Field) :=
  match m.nr.toNat with
  | nvEscIoctlXferCmd => reportFields (decodeXfer argPtr mode maxBlob)
  | nvEscRmControl => reportFields (decodeRmControl m argPtr maxBlob)
  | nvEscRmAllocMemory => reportFields (decodeRmAllocMemory m argPtr)
  | nvEscRmAllocObject => reportFields (decodeRmAllocObject m argPtr)
  | nvEscRmAlloc => reportFields (decodeRmAlloc m argPtr maxBlob)
  | nvEscRmFree => reportFields (decodeRmFree m argPtr)
  | nvEscRmMapMemory => reportFields (decodeRmMapMemory m argPtr)
  | nvEscRmUnmapMemory => reportFields (decodeRmUnmapMemory m argPtr)
  | nvEscRmI2cAccess => reportFields (decodeRmI2cAccess m argPtr)
  | nvEscRmIdleChannels => reportFields (decodeRmIdleChannels m argPtr)
  | nvEscRmVidHeapControl => decodeRmVidHeapControl m argPtr
  | nvEscRmAccessRegistry => reportFields (decodeRmAccessRegistry m argPtr maxBlob)
  | nvEscRmGetEventData => reportFields (decodeRmGetEventData m argPtr)
  | nvEscRmAllocContextDma2 => reportFields (decodeRmAllocContextDma2 m argPtr)
  | nvEscRmMapMemoryDma => reportFields (decodeRmMapMemoryDma m argPtr)
  | nvEscRmUnmapMemoryDma => reportFields (decodeRmUnmapMemoryDma m argPtr)
  | nvEscRmBindContextDma => reportFields (decodeRmBindContextDma m argPtr)
  | nvEscRmDupObject => reportFields (decodeRmDupObject m argPtr)
  | nvEscRmUpdateDeviceMappingInfo => reportFields (decodeRmUpdateDeviceMappingInfo m argPtr)
  | nvEscRmShare => reportFields (decodeRmShare m argPtr)
  | nvEscRmAddVblankCallback => reportFields (decodeRmAddVblankCallback m argPtr)
  | nvEscRmConfigGet | nvEscRmConfigSet | nvEscRmConfigGetEx | nvEscRmConfigSetEx
  | nvEscRmExportObjectToFd | nvEscRmImportObjectFromFd | nvEscRmLocklessDiagnostic =>
    reportFields (decodeRmOpaque m argPtr)
  | nvEscRegisterFd => reportFields (decodeRegisterFd m argPtr)
  | nvEscAllocOsEvent | nvEscFreeOsEvent => reportFields (decodeAllocFreeOsEvent m argPtr)
  | nvEscStatusCode => reportFields (decodeStatusCode m argPtr)
  | nvEscCheckVersionStr => reportFields (decodeRmApiVersion m argPtr)
  | nvEscQueryDeviceIntr => reportFields (decodeQueryDeviceIntr m argPtr)
  | nvEscSysParams => reportFields (decodeSysParams m argPtr)
  | nvEscWaitOpenComplete => reportFields (decodeWaitOpenComplete m argPtr)
  | nvEscNumaInfo => reportFields (decodeNumaInfo m argPtr)
  | nvEscSetNumaStatus => reportFields (decodeSetNumaStatus m argPtr)
  | nvEscAttachGpusToFd => reportFields (decodeAttachGpus m argPtr maxBlob)
  | nvEscExportToDmabufFd => reportFields (decodeExportToDmabuf m argPtr)
  | nvEscCardInfo => reportFields (decodeCardInfo m argPtr maxBlob)
  | _ => reportFields (decodeUnknown m argPtr maxBlob)

def decodeNvidiaIoctl (m : IoctlMeta) (argPtr : U64) (mode : IoctlDecodeMode) (maxBlob : ℕ) :
    Decoding (Option (List Field)) := do
  if m.iocType ≠ nvIoctlMagic then return none
  if mode = .header then return some (Report.failed "header").fields
  if argPtr = 0 then return some (Report.failed "arg_null").fields
  return some (← decodeEscape m argPtr mode maxBlob)

end CudaTrace.Decode.Rm
